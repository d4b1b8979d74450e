import IconForge.Proofs.Files.Location
import IconForge.Proofs.Generation.Batch
import IconForge.Proofs.Generation.Collections
import IconForge.Proofs.Generation.Parts

/-!
# Where the files of a run are written

The files of a group are its icons, its class and its collection, all in the directory of its
package. They are written to places of their own if and only if no two groups have the same
directory and no generated icon is named like the class of its group
(`generateWith_places_nodup_iff`): such an icon is referred to by an alias, but its file and the
file of the class are one.
-/

namespace IconForge

open FilePath (Location)

/-- Where a file is written below a target directory. -/
def SourceFile.place (target : String) (file : SourceFile) : Location :=
  FilePath.location (FilePath.push target file.path)

def IconGroup.directory (target : String) (group : IconGroup) : Location :=
  FilePath.location (FilePath.push target (SourceFile.packageDirectory group.package))

/-- A group whose class and icons have names without slashes. -/
structure IconGroup.HasFlatNames (group : IconGroup) : Prop where
  className : '/' ∉ group.className.toList
  icons : ∀ icon ∈ group.icons, '/' ∉ icon.name.toList

instance (group : IconGroup) : Decidable group.HasFlatNames :=
  decidable_of_iff
    ('/' ∉ group.className.toList ∧ ∀ icon ∈ group.icons, '/' ∉ icon.name.toList)
    ⟨fun h => ⟨h.1, h.2⟩, fun h => ⟨h.className, h.icons⟩⟩

namespace GroupPart

def iconNames (part : GroupPart) : List String := part.own.handles.map Symbol.name

def fileNames (part : GroupPart) : List String := part.files.map SourceFile.fileName

structure IsPlaced (collection : String) (part : GroupPart) : Prop where
  package_eq : ∀ file ∈ part.files, file.package = part.group.package
  fileNames_eq : part.fileNames = part.iconNames ++ [part.group.className, collection]
  sources : ∀ name ∈ part.iconNames, ∃ icon ∈ part.group.icons, icon.name = name
  icons_nodup : part.iconNames.Nodup
  collection_ne_icon : collection ∉ part.iconNames
  collection_ne_class : collection ≠ part.group.className

variable {part : GroupPart} {collection : String}

theorem IsPlaced.fileNames_nodup_iff (h : part.IsPlaced collection) :
    part.fileNames.Nodup ↔ part.group.className ∉ part.iconNames := by
  have hends : [part.group.className, collection].Nodup := by
    simpa using Ne.symm h.collection_ne_class
  have hdisjoint : part.iconNames.Disjoint [part.group.className, collection] ↔
      part.group.className ∉ part.iconNames := by
    simp [List.disjoint_cons_right, h.collection_ne_icon]
  rw [h.fileNames_eq, List.nodup_append', hdisjoint]
  exact ⟨fun hall => hall.2.2, fun hclass => ⟨h.icons_nodup, hends, hclass⟩⟩

theorem IsPlaced.no_slash (h : part.IsPlaced collection) (hnames : part.group.HasFlatNames)
    (hcollection : '/' ∉ collection.toList) : ∀ name ∈ part.fileNames, '/' ∉ name.toList := by
  intro name hname
  rw [h.fileNames_eq, List.mem_append, List.mem_cons, List.mem_singleton] at hname
  rcases hname with hicon | rfl | rfl
  · obtain ⟨icon, hmem, rfl⟩ := h.sources name hicon
    exact hnames.icons icon hmem
  · exact hnames.className
  · exact hcollection

theorem IsPlaced.places_eq (h : part.IsPlaced collection) (hnames : part.group.HasFlatNames)
    (hcollection : '/' ∉ collection.toList) (target : String) :
    part.files.map (SourceFile.place target) =
      part.fileNames.map fun name => (part.group.directory target).entry (name ++ ".kt") := by
  rw [fileNames, List.map_map]
  refine List.map_congr_left fun file hfile => ?_
  have hslash := h.no_slash hnames hcollection file.fileName (List.mem_map.mpr ⟨file, hfile, rfl⟩)
  rw [SourceFile.place, SourceFile.location_path target hslash, h.package_eq file hfile]
  rfl

theorem entry_injective (directory : Location) :
    Function.Injective fun name : String => directory.entry (name ++ ".kt") := by
  intro name other heq
  simpa using (FilePath.Location.entry_inj.mp heq).2

theorem IsPlaced.places_nodup_iff (h : part.IsPlaced collection)
    (hnames : part.group.HasFlatNames) (hcollection : '/' ∉ collection.toList) (target : String) :
    (part.files.map (SourceFile.place target)).Nodup ↔
      part.group.className ∉ part.iconNames := by
  rw [h.places_eq hnames hcollection, List.nodup_map_iff (entry_injective _),
    h.fileNames_nodup_iff]

/-- Groups share a place exactly if they share their directory, in which each has a collection. -/
theorem IsPlaced.disjoint_iff {other : GroupPart} (h : part.IsPlaced collection)
    (hother : other.IsPlaced collection) (hnames : part.group.HasFlatNames)
    (hothers : other.group.HasFlatNames) (hcollection : '/' ∉ collection.toList)
    (target : String) :
    (part.files.map (SourceFile.place target)).Disjoint
        (other.files.map (SourceFile.place target)) ↔
      part.group.directory target ≠ other.group.directory target := by
  rw [h.places_eq hnames hcollection, hother.places_eq hothers hcollection]
  constructor
  · intro hdisjoint heq
    have hmem {part : GroupPart} (h : part.IsPlaced collection) : collection ∈ part.fileNames := by
      simp [h.fileNames_eq]
    refine hdisjoint (List.mem_map.mpr ⟨collection, hmem h, rfl⟩) ?_
    rw [heq]
    exact List.mem_map.mpr ⟨collection, hmem hother, rfl⟩
  · intro hne place hplace hplace'
    obtain ⟨name, -, rfl⟩ := List.mem_map.mp hplace
    obtain ⟨name', -, heq⟩ := List.mem_map.mp hplace'
    exact hne (FilePath.Location.entry_inj.mp heq).1.symm

theorem places_nodup_iff {parts : List GroupPart}
    (h : ∀ part ∈ parts, part.IsPlaced collection ∧ part.group.HasFlatNames)
    (hcollection : '/' ∉ collection.toList) (target : String) :
    ((parts.flatMap files).map (SourceFile.place target)).Nodup ↔
      ((parts.map group).map (IconGroup.directory target)).Nodup ∧
        ∀ part ∈ parts, part.group.className ∉ part.iconNames := by
  rw [List.map_flatMap, List.nodup_flatMap, and_comm, List.map_map, List.Nodup, List.pairwise_map]
  refine and_congr (List.Pairwise.iff_of_mem fun hpart hother => ?_)
    (forall₂_congr fun part hpart => ?_)
  · exact (h _ hpart).1.disjoint_iff (h _ hother).1 (h _ hpart).2 (h _ hother).2 hcollection target
  · exact (h part hpart).1.places_nodup_iff (h part hpart).2 hcollection target

end GroupPart

namespace Generator

theorem groupObject_ok {generator : Generator} {groupClass : Symbol} {object : SourceFile}
    (h : generator.groupObject groupClass = .ok object) :
    object.package = groupClass.package ∧ object.fileName = groupClass.name := by
  simp only [groupObject, bind_eq_ok_iff, pure_eq_ok_iff] at h
  obtain ⟨taken, htaken, rfl⟩ := h
  exact ⟨(ImportTable.declare_ok htaken).1.package_eq, rfl⟩

theorem runPart_isPlaced {generator : Generator} {accepts : String → Bool} {group : IconGroup}
    {names after : UsedNames} {part : GroupPart}
    (h : generator.runPart accepts group names = .ok (part, after)) :
    part.IsPlaced generator.collectionName := by
  simp only [runPart, bind_eq_ok_iff, mapError_eq_ok_iff, pure_eq_ok_iff] at h
  obtain ⟨⟨own, between⟩, hown, object, hobject, ⟨built, last⟩, hbuild, heq⟩ := h
  cases heq
  have hicons : ∀ icon ∈ own.icons, icon.handle = .topLevel group.package icon.handle.name ∧
      icon.file.package = group.package ∧ icon.file.fileName = icon.handle.name ∧
        ∃ source ∈ group.icons, source.name = icon.handle.name := by
    intro icon hicon
    obtain ⟨source, hsource, -, slot, hgenerate⟩ := exists_source_of_mem hown icon hicon
    obtain ⟨hhandle, hpackage, hfileName⟩ := generateIcon_ok hgenerate
    rw [hhandle]
    exact ⟨rfl, hpackage, hfileName, source, hsource, rfl⟩
  have hhandles : ∀ handle ∈ own.handles, handle.enclosing = none := by
    intro handle hhandle
    obtain ⟨icon, hicon, rfl⟩ := List.mem_map.mp hhandle
    rw [(hicons icon hicon).1]
    rfl
  obtain ⟨hobjectPackage, hobjectName⟩ := groupObject_ok hobject
  obtain ⟨hbuiltPackage, hbuiltName, hbuiltNames⟩ := GroupCollection.build_ok rfl hhandles hbuild
  have hiconNames : own.icons.map (fun icon => icon.file.fileName) =
      own.handles.map Symbol.name := by
    rw [IconsOutput.handles, List.map_map]
    exact List.map_congr_left fun icon hicon => (hicons icon hicon).2.2.1
  refine ⟨?_, ?_, ?_, hbuiltNames.icons_nodup, hbuiltNames.collection_ne_icon,
    hbuiltNames.collection_ne_container⟩
  · intro file hfile
    rw [GroupPart.files, List.mem_append, List.mem_cons, List.mem_singleton] at hfile
    rcases hfile with hmem | rfl | rfl
    · obtain ⟨icon, hicon, rfl⟩ := List.mem_map.mp hmem
      exact (hicons icon hicon).2.1
    · exact hobjectPackage
    · exact hbuiltPackage
  · have hclass : group.classSymbol.name = group.className := rfl
    simp [GroupPart.fileNames, GroupPart.files, GroupPart.iconNames, hobjectName, hbuiltName,
      hclass, hiconNames, Function.comp_def]
  · intro name hname
    obtain ⟨handle, hhandle, rfl⟩ := List.mem_map.mp hname
    obtain ⟨icon, hicon, rfl⟩ := List.mem_map.mp hhandle
    exact (hicons icon hicon).2.2.2

end Generator

/-- Whatever directory the files of a run are written to: no file is written over another one if and
only if the groups have directories of their own and no generated icon is named like the class of
its group. Plain packages that differ give directories that do. -/
theorem generateWith_places_nodup_iff {parser : IconParser} {root : IconGroup}
    {accepts : String → Bool} {config : GenerationConfig} {output : GroupOutput}
    (hnames : ∀ group ∈ root.inOrder, group.HasFlatNames)
    (hcollection : '/' ∉ config.collectionName.toList)
    (h : generateWith parser root accepts config = .ok output) :
    ∃ parts after,
      (config.generator parser).runParts accepts root.inOrder .empty = .ok (parts, after) ∧
        output.files = parts.flatMap GroupPart.files ∧
          (∀ target,
            (output.files.map (SourceFile.place target)).Nodup ↔
              (root.inOrder.map (IconGroup.directory target)).Nodup ∧
                ∀ part ∈ parts, part.group.className ∉ part.iconNames) ∧
            ((root.inOrder.map IconGroup.package).Nodup →
              (∀ group ∈ root.inOrder, SourceFile.IsPlainPackage group.package) →
                ∀ target,
                  (output.files.map (SourceFile.place target)).Nodup ↔
                    ∀ part ∈ parts, part.group.className ∉ part.iconNames) := by
  obtain ⟨parts, after, hparts, rfl⟩ := generateWith_ok h
  obtain ⟨hgroups, hruns⟩ := Generator.of_mem_parts hparts
  have hplaced : ∀ part ∈ parts, part.IsPlaced config.collectionName ∧ part.group.HasFlatNames := by
    intro part hpart
    obtain ⟨before, left, hrun⟩ := hruns part hpart
    refine ⟨Generator.runPart_isPlaced hrun, hnames part.group ?_⟩
    rw [← hgroups]
    exact List.mem_map.mpr ⟨part, hpart, rfl⟩
  have hiff (target : String) := GroupPart.places_nodup_iff hplaced hcollection target
  rw [hgroups] at hiff
  refine ⟨parts, after, hparts, rfl, hiff, fun hpackages hplain target => ?_⟩
  have hdirectories : (root.inOrder.map (IconGroup.directory target)).Nodup := by
    rw [List.Nodup, List.pairwise_map] at hpackages ⊢
    refine hpackages.imp_of_mem fun hfirst hsecond hne heq => hne ?_
    exact (hplain _ hfirst).eq_of_location_eq target (hplain _ hsecond) heq
  exact (hiff target).trans (and_iff_right hdirectories)

/-- A parser that reads every icon as the same empty drawing. -/
def blankParser : IconParser := fun _ => .ok (.square (.zero false) [])

/-- The standard choices, with icons built one after another. -/
def GenerationConfig.sequential : GenerationConfig :=
  { GenerationConfig.standard with schedule := ⟨.collect, false⟩ }

def folderAndActions : IconGroup :=
  ⟨"icons", "Icons", [⟨"Folder", "", ""⟩],
    [⟨"icons.actions", "Actions", [⟨"Add", "", ""⟩], []⟩]⟩

theorem folderAndActions_places_nodup :
    ∃ output,
      generateWith blankParser folderAndActions (fun _ => true) .sequential = .ok output ∧
        (output.files.map (SourceFile.place "out")).Nodup := by
  have hsuccess :
      (generateWith blankParser folderAndActions (fun _ => true) .sequential).toBool = true := by
    decide +kernel
  have hicons :
      (((GenerationConfig.sequential.generator blankParser).runParts (fun _ => true)
        folderAndActions.inOrder .empty).map fun result =>
          decide (∀ part ∈ result.1, part.group.className ∉ part.iconNames)) = .ok true := by
    decide +kernel
  cases h : generateWith blankParser folderAndActions (fun _ => true) .sequential with
  | error e =>
    rw [h] at hsuccess
    cases hsuccess
  | ok output =>
    obtain ⟨parts, after, hparts, -, -, hplain⟩ :=
      generateWith_places_nodup_iff (by decide) (by decide) h
    rw [hparts] at hicons
    have hclasses : ∀ part ∈ parts, part.group.className ∉ part.iconNames := by
      simpa [Except.map] using hicons
    exact ⟨output, rfl, (hplain (by decide) (by decide) "out").mpr hclasses⟩

def iconLikeClass : IconGroup := ⟨"icons", "Icons", [⟨"Icons", "", ""⟩], []⟩

/-- The icon and the class are generated, to the same path. -/
theorem iconLikeClass_paths_not_nodup :
    (∀ group ∈ iconLikeClass.inOrder,
      group.HasFlatNames ∧ SourceFile.IsPlainPackage group.package) ∧
      (iconLikeClass.inOrder.map IconGroup.package).Nodup ∧
        ∃ output,
          generateWith blankParser iconLikeClass (fun _ => true) .sequential = .ok output ∧
            output.files.map SourceFile.path =
                ["icons/Icons.kt", "icons/Icons.kt", "icons/AllIcons.kt"] ∧
              ¬ (output.files.map SourceFile.path).Nodup := by
  have hpaths :
      ((generateWith blankParser iconLikeClass (fun _ => true) .sequential).map fun output =>
        output.files.map SourceFile.path) =
          .ok ["icons/Icons.kt", "icons/Icons.kt", "icons/AllIcons.kt"] := by
    decide +kernel
  refine ⟨by decide, by decide, ?_⟩
  cases h : generateWith blankParser iconLikeClass (fun _ => true) .sequential with
  | error e =>
    rw [h] at hpaths
    cases hpaths
  | ok output =>
    rw [h, Except.map, Except.ok.injEq] at hpaths
    refine ⟨output, rfl, hpaths, ?_⟩
    rw [hpaths]
    decide

end IconForge

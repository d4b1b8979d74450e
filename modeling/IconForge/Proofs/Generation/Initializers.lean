import IconForge.Proofs.Code.FileText
import IconForge.Proofs.Generation.Bodies
import IconForge.Proofs.Generation.Paths

/-!
# Initial values of collections

The initial value of a collection is a sum of terms: one for each child group, in order, and the
list of the group's own icons. If the classes of a tree are distinct, replacing each term of a child
by the initial value of that child turns the collection of the root into the list of all icons that
were generated, children before parents (`generateWith_expands`).
-/

namespace IconForge

open Template (ofText)

/-- A term of the initial value of a collection. -/
inductive CollectionTerm where
  /-- The collection of a class. -/
  | child (groupClass collection : Symbol)
  /-- A list of icons. -/
  | icons (handles : List Symbol)
  deriving DecidableEq

namespace CollectionTerm

def template : CollectionTerm → Template
  | child groupClass collection => .typeName groupClass ++ ofText "." ++ .member collection
  | icons handles =>
    .member DrawingLibrary.listOf ++ ofText "(" ++ .join ", " (handles.map Template.member) ++
      ofText ")"

def written (imports : ImportTable) : CollectionTerm → String
  | child groupClass collection =>
    imports.spelling groupClass ++ "." ++ imports.spelling collection
  | icons handles =>
    imports.spelling DrawingLibrary.listOf ++ "(" ++
      ", ".intercalate (handles.map imports.spelling) ++ ")"

theorem isBuilt_template (term : CollectionTerm) : term.template.IsBuilt := by
  cases term with
  | child groupClass collection => simp [template]
  | icons handles =>
    have hjoin : (Template.join ", " (handles.map Template.member)).IsBuilt := .join _ (by simp)
    simp [template, hjoin]

theorem render_template (imports : ImportTable) (term : CollectionTerm) :
    term.template.render imports = term.written imports := by
  have hmember (symbol : Symbol) :
      (Template.member symbol).render imports = imports.spelling symbol :=
    Template.render_ofArgument imports (.member symbol)
  have htype (symbol : Symbol) :
      (Template.typeName symbol).render imports = imports.spelling symbol :=
    Template.render_ofArgument imports (.typeName symbol)
  cases term with
  | child groupClass collection =>
    simp [template, written, hmember, htype, String.append_assoc]
  | icons handles =>
    have hbuilt : ∀ t ∈ handles.map Template.member, t.IsBuilt := by simp
    have hjoin := Template.IsBuilt.join ", " hbuilt
    have hlist := Template.render_join imports ", " hbuilt
    rw [List.map_map] at hlist
    simp [template, written, hmember, hjoin, hlist, Function.comp_def, String.append_assoc]

theorem render_join (imports : ImportTable) (terms : List CollectionTerm) :
    (Template.join " + " (terms.map template)).render imports =
      " + ".intercalate (terms.map (written imports)) := by
  rw [Template.render_join imports " + " (by simp [isBuilt_template]), List.map_map]
  congr 1
  exact List.map_congr_left fun term _ => render_template imports term

end CollectionTerm

namespace GroupCollection

variable {collection : String} {icons children : List Symbol}

def terms (collection : String) (icons children : List Symbol) : List CollectionTerm :=
  children.map (fun child => .child child (.extension child.package collection)) ++ [.icons icons]

theorem render_initialValue (imports : ImportTable) :
    (initialValue collection icons children).render imports =
      " + ".intercalate ((terms collection icons children).map (CollectionTerm.written imports)) := by
  have hvalue : initialValue collection icons children =
      .join " + " ((terms collection icons children).map CollectionTerm.template) := by
    rw [terms, List.map_append, List.map_map]
    rfl
  rw [hvalue, CollectionTerm.render_join]

theorem assignment_mem_members (container : Symbol) (slot : String) (style : CodeStyle) :
    Instruction.statement (.name slot ++ ofText " = " ++ initialValue collection icons children) ∈
      CodeBlock.joinMembers (members container collection slot style icons children) := by
  simp [CodeBlock.joinMembers, members, LazyProperty.getter, LazyProperty.slotDeclaration]

/-- A file with the members of a collection holds the line that fills the slot. -/
theorem isPart_assignment {container : Symbol} {slot : String} {style : CodeStyle}
    {imports : ImportTable} {indent : String} {file : SourceFile}
    (h : file.IsWritten imports indent
      (CodeBlock.joinMembers (members container collection slot style icons children))) :
    Text.IsPart (slot ++ " = " ++ " + ".intercalate
      ((terms collection icons children).map (CollectionTerm.written imports)) ++ "\n")
        file.contents := by
  have hline := h.statements _ (assignment_mem_members container slot style)
  have hname : (Template.name slot).render imports = slot :=
    Template.render_ofArgument imports (.name slot)
  simpa [hname, render_initialValue, String.append_assoc] using hline

end GroupCollection

/-- Icons with the slots that are allocated for them. -/
def UsedNames.jobs (names : UsedNames) (icons : List IconSource) : List (IconSource × String) :=
  let iconNames := icons.map IconSource.name
  icons.zip ((names.reserveAll iconNames).allocateSlots iconNames).1

namespace GroupPart

/-- The terms of the initial value of the collection of a group. -/
def terms (collection : String) (part : GroupPart) : List CollectionTerm :=
  GroupCollection.terms collection part.own.handles (part.group.children.map IconGroup.classSymbol)

/-- The initial value of the collection of a group. -/
def initialValue (collection : String) (part : GroupPart) : Template :=
  GroupCollection.initialValue collection part.own.handles
    (part.group.children.map IconGroup.classSymbol)

/-- The members of the file of the collection of a group. -/
def collectionMembers (generator : Generator) (part : GroupPart) : List CodeBlock :=
  GroupCollection.members part.group.classSymbol generator.collectionName part.collection.slot
    generator.context.style part.own.handles (part.group.children.map IconGroup.classSymbol)

/-- The file of a collection fills its slot with the initial value, which lists the icons of the
group that were generated, in the order of the accepted ones. -/
structure IsCollected (generator : Generator) (accepts : String → Bool) (part : GroupPart) :
    Prop where
  file : ∃ taken, part.collection.file =
    .ofMembers taken generator.collectionName generator.context.style.indent
      (part.collectionMembers generator)
  assigned : Instruction.statement
    (.name part.collection.slot ++ ofText " = " ++ part.initialValue generator.collectionName) ∈
      CodeBlock.joinMembers (part.collectionMembers generator)
  written : ∀ imports, (part.initialValue generator.collectionName).render imports =
    " + ".intercalate ((part.terms generator.collectionName).map (CollectionTerm.written imports))
  /-- The text of the file has the line that fills the slot. -/
  slotLine : ∃ imports, part.collection.file.IsWritten imports generator.context.style.indent
      (CodeBlock.joinMembers (part.collectionMembers generator)) ∧
    Text.IsPart (part.collection.slot ++ " = " ++ " + ".intercalate
      ((part.terms generator.collectionName).map (CollectionTerm.written imports)) ++ "\n")
        part.collection.file.contents
  /-- An icon is listed if and only if it is accepted and generated. -/
  handles : ∃ names : UsedNames,
    let jobs := names.jobs (part.group.icons.filter fun icon => accepts icon.name)
    jobs.map Prod.fst = part.group.icons.filter (fun icon => accepts icon.name) ∧
      part.own.handles =
        (jobs.filter fun (icon, slot) =>
          (generator.generateIcon part.group.package part.group.classSymbol icon slot).isOk).map
            fun (icon, _) => .topLevel part.group.package icon.name

end GroupPart

theorem UsedNames.length_allocateSlots (used : UsedNames) (names : List String) :
    (used.allocateSlots names).1.length = names.length := by
  induction names generalizing used with
  | nil => rfl
  | cons name others ih => simp [allocateSlots, ih]

theorem UsedNames.jobs_map_fst (names : UsedNames) (icons : List IconSource) :
    (names.jobs icons).map Prod.fst = icons :=
  List.map_fst_zip (by simp [length_allocateSlots])

namespace Generator

variable {generator : Generator} {accepts : String → Bool}

theorem successes_map_handles {package : String} {groupClass : Symbol}
    (jobs : List (IconSource × String)) :
    (successes (jobs.map fun (source, slot) =>
      generator.generateIcon package groupClass source slot)).map IconOutput.handle =
        (jobs.filter fun (source, slot) =>
          (generator.generateIcon package groupClass source slot).isOk).map
            fun (source, _) => .topLevel package source.name := by
  induction jobs with
  | nil => rfl
  | cons job others ih =>
    rw [List.map_cons, List.filter_cons]
    cases hjob : generator.generateIcon package groupClass job.1 job.2 with
    | error failure =>
      simp only [hjob, successes, List.filterMap_cons, Except.toOption] at ih ⊢
      exact ih
    | ok icon =>
      simp only [hjob, successes, List.filterMap_cons, Except.toOption, List.map_cons,
        (generateIcon_ok hjob).1] at ih ⊢
      exact congrArg _ ih

theorem runIcons_handles {package : String} {groupClass : Symbol} {sources : List IconSource}
    {names after : UsedNames} {output : IconsOutput}
    (h : generator.runIcons package groupClass accepts sources names = .ok (output, after)) :
    output.handles =
      ((names.jobs (sources.filter fun icon => accepts icon.name)).filter fun (icon, slot) =>
        (generator.generateIcon package groupClass icon slot).isOk).map
          fun (icon, _) => .topLevel package icon.name := by
  simp only [runIcons, bind_eq_ok_iff, pure_eq_ok_iff, runJobs_eq_settle] at h
  obtain ⟨⟨icons, failures⟩, hsettle, heq⟩ := h
  cases heq
  rw [IconsOutput.handles, (settle_ok hsettle).1]
  exact successes_map_handles _

theorem runPart_isCollected {group : IconGroup} {names after : UsedNames} {part : GroupPart}
    (h : generator.runPart accepts group names = .ok (part, after)) :
    part.IsCollected generator accepts := by
  obtain ⟨rfl, between, hown, -, hbuild⟩ := runPart_ok h
  obtain ⟨-, -, taken, -, hfile⟩ := GroupCollection.build_eq_ok hbuild
  constructor
  case file => exact ⟨taken, hfile⟩
  case assigned => exact GroupCollection.assignment_mem_members _ _ _
  case written => exact fun imports => GroupCollection.render_initialValue imports
  case slotLine =>
    have hwritten := SourceFile.ofMembers_isWritten taken generator.collectionName
      generator.context.style.indent (part.collectionMembers generator)
    rw [GroupPart.collectionMembers, ← hfile] at hwritten
    exact ⟨_, hwritten, GroupCollection.isPart_assignment hwritten⟩
  case handles => exact ⟨names, UsedNames.jobs_map_fst _ _, runIcons_handles hown⟩

end Generator

/-! ### Expansion -/

/-- Terms with each term of a child replaced by the terms of its collection, all the way down. -/
inductive Expands (terms? : Symbol → Symbol → Option (List CollectionTerm)) :
    List CollectionTerm → List Symbol → Prop
  | nil : Expands terms? [] []
  | icons {handles : List Symbol} {others : List CollectionTerm} {rest : List Symbol} :
    Expands terms? others rest → Expands terms? (.icons handles :: others) (handles ++ rest)
  | child {groupClass collection : Symbol} {inner others : List CollectionTerm}
    {first rest : List Symbol} :
    terms? groupClass collection = some inner → Expands terms? inner first →
      Expands terms? others rest →
        Expands terms? (.child groupClass collection :: others) (first ++ rest)

namespace Expands

variable {terms? : Symbol → Symbol → Option (List CollectionTerm)}
  {terms others : List CollectionTerm} {symbols rest : List Symbol}

theorem append (h : Expands terms? terms symbols) (hothers : Expands terms? others rest) :
    Expands terms? (terms ++ others) (symbols ++ rest) := by
  induction h with
  | nil => exact hothers
  | icons _ ih =>
    rw [List.append_assoc]
    exact ih.icons
  | child hterms hinner _ _ ih =>
    rw [List.append_assoc]
    exact .child hterms hinner ih

theorem unique (h : Expands terms? terms symbols) (h' : Expands terms? terms rest) :
    symbols = rest := by
  induction h generalizing rest with
  | nil =>
    cases h'
    rfl
  | icons _ ih =>
    cases h' with
    | icons hothers => rw [ih hothers]
  | child hterms _ _ ihInner ihOthers =>
    cases h' with
    | child hterms' hinner hothers =>
      rw [hterms] at hterms'
      cases hterms'
      rw [ihInner hinner, ihOthers hothers]

end Expands

namespace GroupPart

variable {collection : String} {parts : List GroupPart}

/-- The terms of the collection of a class among parts. -/
def termsOf? (collection : String) (parts : List GroupPart) (groupClass property : Symbol) :
    Option (List CollectionTerm) :=
  (parts.find? fun part =>
    part.group.classSymbol = groupClass ∧ part.collection.handle = property).map (terms collection)

/-- The collection of every part belongs to its class. -/
def HaveHandles (collection : String) (parts : List GroupPart) : Prop :=
  ∀ part ∈ parts, part.collection.handle = .extension part.group.package collection

theorem termsOf?_of_mem (hclasses : (parts.map (·.group.classSymbol)).Nodup)
    (hhandles : HaveHandles collection parts) {part : GroupPart} (hpart : part ∈ parts) :
    termsOf? collection parts part.group.classSymbol
      (.extension part.group.package collection) = some (part.terms collection) := by
  have hfind : parts.find? (fun other => other.group.classSymbol = part.group.classSymbol ∧
      other.collection.handle = .extension part.group.package collection) = some part := by
    cases hfound : parts.find? (fun other =>
        other.group.classSymbol = part.group.classSymbol ∧
          other.collection.handle = .extension part.group.package collection) with
    | none =>
      have hmissing := List.find?_eq_none.mp hfound part hpart
      simp [hhandles part hpart] at hmissing
    | some other =>
      have hclass := List.find?_some hfound
      simp only [decide_eq_true_eq] at hclass
      rw [List.inj_on_of_nodup_map hclasses (List.mem_of_find?_eq_some hfound) hpart hclass.1]
  rw [termsOf?, hfind, Option.map_some]

mutual

/-- The parts of a tree, in their order, are what the collection of its root expands to. -/
theorem expands_inOrder (all : List GroupPart)
    (hclasses : (all.map (·.group.classSymbol)).Nodup) (hhandles : HaveHandles collection all)
    (group : IconGroup) (parts : List GroupPart)
    (hgroups : parts.map GroupPart.group = group.inOrder) (hparts : parts ⊆ all) :
    ∃ terms,
      termsOf? collection all group.classSymbol (.extension group.package collection) =
          some terms ∧
        Expands (termsOf? collection all) terms (parts.flatMap (·.own.handles)) := by
  match group with
  | ⟨package, className, icons, children⟩ =>
    rw [IconGroup.inOrder, List.map_eq_append_iff] at hgroups
    obtain ⟨before, last, rfl, hchildren, hlast⟩ := hgroups
    obtain ⟨part, rfl, hgroup⟩ := List.map_eq_singleton_iff.mp hlast
    have hinner := expands_inOrders all hclasses hhandles children before hchildren
      fun part hpart => hparts (List.mem_append_left _ hpart)
    have hterms := termsOf?_of_mem hclasses hhandles
      (hparts (List.mem_append_right before List.mem_cons_self))
    rw [hgroup] at hterms
    refine ⟨part.terms collection, hterms, ?_⟩
    rw [GroupPart.terms, GroupCollection.terms, hgroup, List.map_map, List.flatMap_append]
    exact hinner.append (Expands.icons .nil)

theorem expands_inOrders (all : List GroupPart)
    (hclasses : (all.map (·.group.classSymbol)).Nodup) (hhandles : HaveHandles collection all)
    (groups : List IconGroup) (parts : List GroupPart)
    (hgroups : parts.map GroupPart.group = IconGroup.inOrders groups) (hparts : parts ⊆ all) :
    Expands (termsOf? collection all)
      (groups.map fun group =>
        .child group.classSymbol (.extension group.package collection))
      (parts.flatMap (·.own.handles)) := by
  match groups with
  | [] =>
    obtain rfl := List.map_eq_nil_iff.mp hgroups
    exact .nil
  | group :: others =>
    rw [IconGroup.inOrders, List.map_eq_append_iff] at hgroups
    obtain ⟨first, rest, rfl, hfirst, hrest⟩ := hgroups
    obtain ⟨terms, hterms, hinner⟩ := expands_inOrder all hclasses hhandles group first hfirst
      fun part hpart => hparts (List.mem_append_left _ hpart)
    rw [List.flatMap_append]
    exact .child hterms hinner (expands_inOrders all hclasses hhandles others rest hrest
      fun part hpart => hparts (List.mem_append_right first hpart))

end

end GroupPart

/-- Every group of a run with distinct classes has the collection of its children and its icons, and
expanding the collection of the root yields every icon that was generated, and no other, once. -/
theorem generateWith_expands {parser : IconParser} {root : IconGroup} {accepts : String → Bool}
    {config : GenerationConfig} {output : GroupOutput}
    (hclasses : (root.inOrder.map IconGroup.classSymbol).Nodup)
    (h : generateWith parser root accepts config = .ok output) :
    ∃ parts after,
      (config.generator parser).runParts accepts root.inOrder .empty = .ok (parts, after) ∧
        parts.map GroupPart.group = root.inOrder ∧
        output.files = parts.flatMap GroupPart.files ∧
        (∀ part ∈ parts, part.IsCollected (config.generator parser) accepts) ∧
        ∃ terms,
          GroupPart.termsOf? config.collectionName parts output.handle output.collection =
              some terms ∧
            (∀ symbols,
              Expands (GroupPart.termsOf? config.collectionName parts) terms symbols ↔
                symbols = parts.flatMap (·.own.handles)) ∧
            (parts.flatMap (·.own.handles)).length = output.generated := by
  obtain ⟨parts, after, hparts, rfl⟩ := generateWith_ok h
  obtain ⟨hgroups, hruns⟩ := Generator.of_mem_parts hparts
  have hhandles : GroupPart.HaveHandles config.collectionName parts := by
    intro part hpart
    obtain ⟨before, left, hrun⟩ := hruns part hpart
    obtain ⟨-, between, -, -, hbuild⟩ := Generator.runPart_ok hrun
    exact (GroupCollection.build_eq_ok hbuild).2.1
  have hall : (parts.map (·.group.classSymbol)).Nodup := by
    rw [← hgroups, List.map_map] at hclasses
    exact hclasses
  obtain ⟨terms, hterms, hexpands⟩ :=
    GroupPart.expands_inOrder parts hall hhandles root parts hgroups (List.Subset.refl parts)
  refine ⟨parts, after, hparts, hgroups, rfl, ?_, terms, hterms, ?_, ?_⟩
  · intro part hpart
    obtain ⟨before, left, hrun⟩ := hruns part hpart
    exact Generator.runPart_isCollected hrun
  · intro symbols
    constructor
    · exact fun hsymbols => hsymbols.unique hexpands
    · rintro rfl
      exact hexpands
  · simp [Totals.ofParts, Totals.output, List.length_flatMap, IconsOutput.handles]

def brittleParser : IconParser := fun source =>
  if source.name = "Broken" then .error .malformed else .ok (.square (.zero false) [])

/-- Three icons, and a child group with another one. -/
def partlyBroken : IconGroup :=
  ⟨"icons", "Icons", [⟨"Broken", "", ""⟩, ⟨"Folder", "", ""⟩, ⟨"Hidden", "", ""⟩],
    [⟨"icons.actions", "Actions", [⟨"Add", "", ""⟩], []⟩]⟩

theorem partlyBroken_expands :
    ∃ output parts terms,
      generateWith brittleParser partlyBroken (· ≠ "Hidden") .sequential = .ok output ∧
        GroupPart.termsOf? "AllIcons" parts output.handle output.collection = some terms ∧
          Expands (GroupPart.termsOf? "AllIcons" parts) terms
            [.topLevel "icons.actions" "Add", .topLevel "icons" "Folder"] ∧
          output.generated = 2 := by
  have hsuccess :
      (generateWith brittleParser partlyBroken (· ≠ "Hidden") .sequential).toBool = true := by
    decide +kernel
  have hhandles :
      (((GenerationConfig.sequential.generator brittleParser).runParts (· ≠ "Hidden")
        partlyBroken.inOrder .empty).map fun result => result.1.flatMap (·.own.handles)) =
          .ok [.topLevel "icons.actions" "Add", .topLevel "icons" "Folder"] := by
    decide +kernel
  cases h : generateWith brittleParser partlyBroken (· ≠ "Hidden") .sequential with
  | error e =>
    rw [h] at hsuccess
    cases hsuccess
  | ok output =>
    obtain ⟨parts, after, hparts, -, -, -, terms, hterms, hexpands, hcount⟩ :=
      generateWith_expands (by decide) h
    rw [hparts, Except.map, Except.ok.injEq] at hhandles
    rw [hhandles] at hexpands hcount
    exact ⟨output, parts, terms, rfl, hterms, (hexpands _).mpr rfl, hcount.symm⟩

end IconForge

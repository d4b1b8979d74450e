import IconForge.Proofs.Generation.CollectionImports

/-!
# Spellings in the file of a collection

The file of a collection refers to the container, the icons and the child classes. Aliases belong to
paths, and an icon that is named like the container has the path of the container: the alias that
such an icon is given becomes the spelling of both. If no icon is, all of them are told apart, and
the container and the icons keep their simple names (`build_tellsApart_iff`), unless names with dots
make paths of different symbols the same.
-/

namespace IconForge
namespace GroupCollection

open Template (ofText)
open ImportTable (spelling_of_isTopLevel)

variable {container : Symbol} {collection slot : String} {style : CodeStyle}
  {icons children : List Symbol} {symbol : Symbol}

/-! ### How the file is written -/

def propertyHead (container : Symbol) (collection : String) (style : CodeStyle) : Template :=
  .ofText "public val " ++ .typeName container ++ .ofText "." ++ .name collection ++
    .ofText ": " ++ listType style

/-- How the file of a collection refers to the container, the icons and the children. -/
structure IsWritten (imports : ImportTable) (container : Symbol) (collection : String)
    (style : CodeStyle) (icons children : List Symbol) (built : GroupCollection) : Prop where
  contents : built.file.contents = SourceFile.contentsOf imports style.indent
    (fileBody container collection built.slot style icons children)
  file : built.file.IsWritten imports style.indent
    (fileBody container collection built.slot style icons children)
  /-- The property extends the container. -/
  head : Instruction.statement (propertyHead container collection style) ∈
      fileBody container collection built.slot style icons children ∧
    (propertyHead container collection style).render imports =
      "public val " ++ imports.spelling container ++ "." ++ collection ++ ": " ++
        imports.spelling DrawingLibrary.list ++ "<" ++ imports.spelling style.iconType ++ ">"
  headLine : Text.IsPart ("public val " ++ imports.spelling container ++ "." ++ collection ++ ": " ++
    imports.spelling DrawingLibrary.list ++ "<" ++ imports.spelling style.iconType ++ ">" ++ "\n")
      built.file.contents
  /-- The initial value adds the collections of the children and the list of icons. -/
  value : Instruction.statement
        (.name built.slot ++ ofText " = " ++ initialValue collection icons children) ∈
      fileBody container collection built.slot style icons children ∧
    (initialValue collection icons children).render imports = " + ".intercalate
      (children.map (fun child => imports.spelling child ++ "." ++ collection) ++
        [imports.spelling DrawingLibrary.listOf ++ "(" ++
          ", ".intercalate (icons.map imports.spelling) ++ ")"])
  slotLine : Text.IsPart (built.slot ++ " = " ++ " + ".intercalate
    (children.map (fun child => imports.spelling child ++ "." ++ collection) ++
      [imports.spelling DrawingLibrary.listOf ++ "(" ++
        ", ".intercalate (icons.map imports.spelling) ++ ")"]) ++ "\n") built.file.contents

theorem render_propertyHead (imports : ImportTable) :
    (propertyHead container collection style).render imports =
      "public val " ++ imports.spelling container ++ "." ++ collection ++ ": " ++
        imports.spelling DrawingLibrary.list ++ "<" ++ imports.spelling style.iconType ++ ">" := by
  have htype (symbol : Symbol) :
      (Template.typeName symbol).render imports = imports.spelling symbol :=
    Template.render_ofArgument imports (.typeName symbol)
  have hname (text : String) : (Template.name text).render imports = text :=
    Template.render_ofArgument imports (.name text)
  simp [propertyHead, listType, htype, hname, String.append_assoc]

theorem map_written_terms (imports : ImportTable) :
    (terms collection icons children).map (CollectionTerm.written imports) =
      children.map (fun child => imports.spelling child ++ "." ++ collection) ++
        [imports.spelling DrawingLibrary.listOf ++ "(" ++
          ", ".intercalate (icons.map imports.spelling) ++ ")"] := by
  rw [terms, List.map_append, List.map_map]
  rfl

theorem build_isWritten {used after : UsedNames} {built : GroupCollection}
    (h : build container collection style icons children used = .ok (built, after)) :
    ∃ imports,
      fileImports container collection built.slot style icons children = .ok imports ∧
        IsWritten imports container collection style icons children built := by
  obtain ⟨-, -, taken, htaken, hfile⟩ := build_eq_ok h
  have hwritten := SourceFile.ofMembers_isWritten taken collection style.indent
    (members container collection built.slot style icons children)
  rw [← hfile] at hwritten
  have hhead : Instruction.statement (propertyHead container collection style) ∈
      fileBody container collection built.slot style icons children := by
    simp [fileBody, CodeBlock.joinMembers, members, LazyProperty.slotDeclaration, propertyHead]
  refine ⟨SourceFile.importsOf taken
    (fileBody container collection built.slot style icons children), ?_, ?_⟩
  · unfold fileImports
    rw [htaken]
    rfl
  constructor
  case contents =>
    rw [hfile]
    rfl
  case file => exact hwritten
  case head => exact ⟨hhead, render_propertyHead _⟩
  case headLine =>
    have hline := hwritten.statements _ hhead
    rwa [render_propertyHead] at hline
  case value =>
    refine ⟨assignment_mem_members container built.slot style, ?_⟩
    rw [render_initialValue, map_written_terms]
  case slotLine =>
    rw [← map_written_terms]
    exact isPart_assignment hwritten

/-! ### Symbols that are told apart -/

/-- The container, the icons and the children, each child once. -/
def namedSymbols (container : Symbol) (icons children : List Symbol) : List Symbol :=
  container :: (icons ++ children.dedup)

/-- No two of the symbols have a path in common that has an alias. -/
def ShareNoAlias (imports : ImportTable) (symbols : List Symbol) : Prop :=
  ∀ first ∈ symbols, ∀ second ∈ symbols, first ≠ second →
    first.importPath = second.importPath → imports.alias? first.importPath = none

/-- The file spells the container by its simple name, and the container, the icons and the children
differently. -/
structure TellsApart (imports : ImportTable) (container : Symbol)
    (icons children : List Symbol) : Prop where
  simpleName : imports.spelling container = container.name
  spellings_nodup : ((namedSymbols container icons children).map imports.spelling).Nodup

section

variable {imports : ImportTable} {first second : Symbol}

theorem AreTopLevel.isTopLevel (h : AreTopLevel container icons children)
    (hmem : symbol ∈ namedSymbols container icons children) : symbol.IsTopLevel := by
  unfold namedSymbols at hmem
  rw [List.mem_cons, List.mem_append, List.mem_dedup] at hmem
  rcases hmem with rfl | hicon | hchild
  · exact h.container_isTopLevel
  · exact (h.icons_inPackage symbol hicon).1
  · exact (h.children_elsewhere symbol hchild).1

theorem mem_fileSymbols_of_mem (style : CodeStyle)
    (hmem : symbol ∈ namedSymbols container icons children) :
    symbol ∈ fileSymbols container style icons children := by
  unfold namedSymbols at hmem
  unfold fileSymbols
  rw [List.mem_cons, List.mem_append, List.mem_dedup] at hmem
  simp only [List.mem_cons, List.mem_append]
  rcases hmem with h | h | h
  · exact .inl h
  · exact .inr (.inl (.inl h))
  · exact .inr (.inl (.inr h))

theorem AreTopLevel.listed_nodup (h : AreTopLevel container icons children)
    (hnames : (icons.map Symbol.name).Nodup) : (icons ++ children.dedup).Nodup := by
  refine List.nodup_append'.mpr ⟨hnames.of_map, children.nodup_dedup, ?_⟩
  intro symbol hicon hchild
  exact (h.children_elsewhere symbol (List.mem_dedup.mp hchild)).2
    (h.icons_inPackage symbol hicon).2

theorem AreTopLevel.named_nodup_iff (h : AreTopLevel container icons children)
    (hnames : (icons.map Symbol.name).Nodup) :
    (namedSymbols container icons children).Nodup ↔
      ∀ icon ∈ icons, icon.name ≠ container.name := by
  unfold namedSymbols
  rw [List.nodup_cons, and_iff_left (h.listed_nodup hnames), List.mem_append, not_or,
    List.mem_dedup]
  constructor
  · rintro ⟨hicons, -⟩ icon hicon hname
    obtain ⟨htop, hpackage⟩ := h.icons_inPackage icon hicon
    have hsame : icon = container := by
      refine htop.eq_of_importPath_eq h.container_isTopLevel hname ?_
      unfold Symbol.importPath
      rw [htop.importName_eq, h.container_isTopLevel.importName_eq, hname, hpackage]
    exact hicons (hsame ▸ hicon)
  · intro hne
    refine ⟨fun hicon => hne container hicon rfl, fun hchild => ?_⟩
    exact (h.children_elsewhere container hchild).2 rfl

/-- Different symbols are spelled alike exactly if they share a path that has an alias. -/
theorem spelling_eq_iff (htop : AreTopLevel container icons children)
    (h : fileImports container collection slot style icons children = .ok imports)
    (hfirst : first ∈ namedSymbols container icons children)
    (hsecond : second ∈ namedSymbols container icons children) (hne : first ≠ second) :
    imports.spelling first = imports.spelling second ↔
      first.importPath = second.importPath ∧ imports.alias? first.importPath ≠ none := by
  obtain ⟨hnodup, hbinds⟩ := fileImports_binds h
  have hfirstTop := htop.isTopLevel hfirst
  have hsecondTop := htop.isTopLevel hsecond
  have hfirstBinds := hbinds first (mem_fileSymbols_of_mem style hfirst) hfirstTop.isExtension
  have hsecondBinds := hbinds second (mem_fileSymbols_of_mem style hsecond) hsecondTop.isExtension
  rw [spelling_of_isTopLevel hfirstTop, spelling_of_isTopLevel hsecondTop]
  constructor
  · intro heads
    have hpath := ImportTable.importPath_eq_of_head_eq hnodup hfirstBinds hsecondBinds heads
    refine ⟨hpath, ?_⟩
    intro hnone
    refine hne (hfirstTop.eq_of_importPath_eq hsecondTop ?_ hpath)
    unfold ImportTable.head at heads
    rw [← hpath, hnone, Option.getD_none, Option.getD_none, hfirstTop.importName_eq,
      hsecondTop.importName_eq] at heads
    exact heads
  · rintro ⟨hpath, halias⟩
    obtain ⟨name, hname⟩ := Option.ne_none_iff_exists'.mp halias
    unfold ImportTable.head
    rw [← hpath, hname, Option.getD_some, Option.getD_some]

theorem tellsApart_iff (htop : AreTopLevel container icons children)
    (hnames : (icons.map Symbol.name).Nodup)
    (h : fileImports container collection slot style icons children = .ok imports) :
    TellsApart imports container icons children ↔
      (∀ icon ∈ icons, icon.name ≠ container.name) ∧
        imports.alias? container.importPath = none ∧
          ShareNoAlias imports (namedSymbols container icons children) := by
  have hcontainer : imports.spelling container = container.name ↔
      imports.alias? container.importPath = none := by
    rw [spelling_of_isTopLevel htop.container_isTopLevel,
      ← htop.container_isTopLevel.importName_eq]
    unfold ImportTable.head
    cases halias : imports.alias? container.importPath with
    | none => simp
    | some name =>
      have hne := ImportTable.owner?_ne_alias? (fileImports_binds h).1 (fileImports_owner h) halias
      simp [Ne.symm hne]
  rw [← htop.named_nodup_iff hnames, ← hcontainer]
  constructor
  · intro happart
    refine ⟨happart.spellings_nodup.of_map, happart.simpleName, ?_⟩
    intro first hfirst second hsecond hne hpath
    by_contra halias
    refine hne (List.inj_on_of_nodup_map happart.spellings_nodup hfirst hsecond ?_)
    exact (spelling_eq_iff htop h hfirst hsecond hne).mpr ⟨hpath, halias⟩
  · rintro ⟨hsymbols, hname, haliases⟩
    refine ⟨hname, hsymbols.map_on ?_⟩
    intro first hfirst second hsecond heq
    by_contra hne
    obtain ⟨hpath, halias⟩ := (spelling_eq_iff htop h hfirst hsecond hne).mp heq
    exact halias (haliases first hfirst second hsecond hne hpath)

/-! ### Paths that tell names -/

theorem AreTopLevel.eq_of_importPath_eq (htop : AreTopLevel container icons children)
    (hpaths : Symbol.HaveNamesOfPaths (fileSymbols container style icons children))
    (hfirst : first ∈ namedSymbols container icons children)
    (hsecond : second ∈ namedSymbols container icons children)
    (h : first.importPath = second.importPath) : first = second := by
  have hname := hpaths first (mem_fileSymbols_of_mem style hfirst) second
    (mem_fileSymbols_of_mem style hsecond) h
  have hfirstTop := htop.isTopLevel hfirst
  have hsecondTop := htop.isTopLevel hsecond
  rw [hfirstTop.importName_eq, hsecondTop.importName_eq] at hname
  exact hfirstTop.eq_of_importPath_eq hsecondTop hname h

theorem listed_spellings_nodup (htop : AreTopLevel container icons children)
    (hnames : (icons.map Symbol.name).Nodup)
    (h : fileImports container collection slot style icons children = .ok imports)
    (hpaths : Symbol.HaveNamesOfPaths (fileSymbols container style icons children)) :
    ((icons ++ children.dedup).map imports.spelling).Nodup := by
  refine (htop.listed_nodup hnames).map_on ?_
  intro first hfirst second hsecond heq
  have hfirst' := List.mem_cons_of_mem container hfirst
  have hsecond' := List.mem_cons_of_mem container hsecond
  by_contra hne
  obtain ⟨hpath, -⟩ := (spelling_eq_iff htop h hfirst' hsecond' hne).mp heq
  exact hne (htop.eq_of_importPath_eq hpaths hfirst' hsecond' hpath)

theorem spelling_of_mem_icons (htop : AreTopLevel container icons children)
    (h : fileImports container collection slot style icons children = .ok imports)
    (hpaths : Symbol.HaveNamesOfPaths (fileSymbols container style icons children))
    {icon : Symbol} (hicon : icon ∈ icons) (hne : icon.name ≠ container.name) :
    imports.spelling icon = icon.name := by
  have hnamed : ∀ icon ∈ icons, icon ∈ namedSymbols container icons children := by
    intro icon hmem
    exact List.mem_cons_of_mem _ (List.mem_append_left _ hmem)
  have hown : imports.OwnsName icon := by
    refine fileImports_ownsName htop h hpaths (List.mem_cons_of_mem _ hicon) ?_
    intro other hother hname hpath
    rw [htop.eq_of_importPath_eq hpaths (hnamed other hother) (hnamed icon hicon) hpath] at hname
    exact hne hname
  have hiconTop := (htop.icons_inPackage icon hicon).1
  rw [spelling_of_isTopLevel hiconTop, hown.head_eq, hiconTop.importName_eq]

/-- Where paths tell names, only an icon that is named like the container is in the way. -/
theorem tellsApart_iff_of_paths (htop : AreTopLevel container icons children)
    (hnames : (icons.map Symbol.name).Nodup)
    (h : fileImports container collection slot style icons children = .ok imports)
    (hpaths : Symbol.HaveNamesOfPaths (fileSymbols container style icons children)) :
    TellsApart imports container icons children ↔
      ∀ icon ∈ icons, icon.name ≠ container.name := by
  rw [tellsApart_iff htop hnames h, and_iff_left_iff_imp]
  intro hicons
  have hown : imports.OwnsName container := by
    refine fileImports_ownsName htop h hpaths List.mem_cons_self ?_
    intro icon hicon hname
    exact absurd hname (hicons icon hicon)
  refine ⟨hown.unaliased, ?_⟩
  intro first hfirst second hsecond hne hpath
  exact absurd (htop.eq_of_importPath_eq hpaths hfirst hsecond hpath) hne

end

/-- In the file of a collection that is built, the container is spelled by its simple name, and it,
the icons and the children are spelled differently, if and only if no icon is named like the
container, the container has no alias, and no two of them share a path that has one. Where paths
tell simple names, as they do if no name has a dot, only the first is needed; then icons and
children are told apart in any case, and every other icon keeps its simple name. -/
theorem build_tellsApart_iff {used after : UsedNames} {built : GroupCollection}
    (htop : AreTopLevel container icons children)
    (h : build container collection style icons children used = .ok (built, after)) :
    ∃ imports,
      fileImports container collection built.slot style icons children = .ok imports ∧
        IsWritten imports container collection style icons children built ∧
        (TellsApart imports container icons children ↔
          (∀ icon ∈ icons, icon.name ≠ container.name) ∧
            imports.alias? container.importPath = none ∧
              ShareNoAlias imports (namedSymbols container icons children)) ∧
        (Symbol.HaveNamesOfPaths (fileSymbols container style icons children) →
          (TellsApart imports container icons children ↔
            ∀ icon ∈ icons, icon.name ≠ container.name) ∧
          (∀ icon ∈ icons, icon.name ≠ container.name → imports.spelling icon = icon.name) ∧
            ((icons ++ children.dedup).map imports.spelling).Nodup) := by
  obtain ⟨imports, himports, hwritten⟩ := build_isWritten h
  have hicons : ∀ icon ∈ icons, icon.enclosing = none := by
    intro icon hicon
    exact (htop.icons_inPackage icon hicon).1.enclosing
  have hnames := (build_ok htop.container_isTopLevel.enclosing hicons h).2.2.icons_nodup
  refine ⟨imports, himports, hwritten, tellsApart_iff htop hnames himports, ?_⟩
  intro hpaths
  refine ⟨tellsApart_iff_of_paths htop hnames himports hpaths, ?_,
    listed_spellings_nodup htop hnames himports hpaths⟩
  intro icon hicon hne
  exact spelling_of_mem_icons htop himports hpaths hicon hne

/-- A child class that is named like an icon gets an alias, and all are told apart. -/
theorem namesakeChild_tellsApart :
    let icons := [.topLevel "icons" "Folder", .topLevel "icons" "Actions"]
    let children := [.topLevel "icons.actions" "Actions", .topLevel "icons.nodes" "Nodes"]
    let used := UsedNames.empty.reserveAll ["Folder", "Actions"]
    AreTopLevel iconsClass icons children ∧
      ∃ built after imports,
        build iconsClass "AllIcons" .standard icons children used = .ok (built, after) ∧
          fileImports iconsClass "AllIcons" built.slot .standard icons children = .ok imports ∧
          TellsApart imports iconsClass icons children := by
  intro icons children used
  have hbuilt : (build iconsClass "AllIcons" .standard icons children used).toBool = true := by
    decide +kernel
  obtain ⟨⟨built, after⟩, h⟩ := exists_eq_ok_of_toBool hbuilt
  have htop : AreTopLevel iconsClass icons children := by decide
  obtain ⟨imports, himports, -, -, hpaths⟩ := build_tellsApart_iff htop h
  have hdots : ∀ symbol ∈ fileSymbols iconsClass .standard icons children,
      '.' ∉ symbol.importName.toList := by
    decide
  refine ⟨htop, built, after, imports, h, himports, ?_⟩
  exact (hpaths (Symbol.haveNamesOfPaths_of_no_dots hdots)).1.mpr (by decide)

/-- The container and the icon that is named like it are both spelled by the alias of the icon. -/
theorem iconsClass_not_tellsApart :
    let icons := [iconsClass, .topLevel "icons" "Folder"]
    let used := UsedNames.empty.reserveAll ["Icons", "Folder"]
    AreTopLevel iconsClass icons [] ∧
      ∃ built after imports,
        build iconsClass "AllIcons" .standard icons [] used = .ok (built, after) ∧
          IsWritten imports iconsClass "AllIcons" .standard icons [] built ∧
          imports.spelling iconsClass = "___Icons" ∧
          icons.map imports.spelling = ["___Icons", "Folder"] ∧
          ¬ TellsApart imports iconsClass icons [] := by
  intro icons used
  have hbuilt : (build iconsClass "AllIcons" .standard icons [] used).map
      (fun result => result.1.slot) = .ok "__AllIcons" := by
    decide +kernel
  have hspellings : (fileImports iconsClass "AllIcons" "__AllIcons" .standard icons []).map
      (fun imports => (imports.spelling iconsClass, icons.map imports.spelling)) =
        .ok ("___Icons", ["___Icons", "Folder"]) := by
    decide +kernel
  obtain ⟨⟨built, after⟩, h, hslot⟩ := map_eq_ok_iff.mp hbuilt
  obtain ⟨imports, himports, hwritten⟩ := build_isWritten h
  have hslot' : built.slot = "__AllIcons" := hslot
  rw [hslot'] at himports
  rw [himports, Except.map, Except.ok.injEq, Prod.mk.injEq] at hspellings
  obtain ⟨hcontainer, hicons⟩ := hspellings
  refine ⟨by decide, built, after, imports, h, hwritten, hcontainer, hicons, ?_⟩
  intro happart
  have hname := happart.simpleName
  rw [hcontainer] at hname
  exact absurd hname (by decide)

end GroupCollection
end IconForge

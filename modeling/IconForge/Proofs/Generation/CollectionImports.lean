import IconForge.Proofs.Generation.Clashes
import IconForge.Proofs.Generation.Initializers
import IconForge.Proofs.Imports.Binding
import IconForge.Proofs.Imports.SimpleNames

/-!
# The import table of a collection

The file of a collection is written with the names that are taken for the container, the icons and
the child classes, and with those of all symbols that its body refers to. All of them are bound; the
container and the icons keep their simple names, but for the icon that is named like the container.
-/

namespace IconForge
namespace GroupCollection

open Template (ofText)
open ImportTable (Call OwnsName Session)

variable {container : Symbol} {collection slot : String} {style : CodeStyle}
  {icons children : List Symbol} {table taken : ImportTable} {symbol : Symbol}

/-! ### The symbols of the file -/

/-- The symbols other than extensions that the file of a collection refers to. -/
def fileSymbols (container : Symbol) (style : CodeStyle) (icons children : List Symbol) :
    List Symbol :=
  container :: (icons ++ children ++
    [DrawingLibrary.list, DrawingLibrary.listOf, style.iconType, style.composable])

def fileBody (container : Symbol) (collection slot : String) (style : CodeStyle)
    (icons children : List Symbol) : CodeBlock :=
  CodeBlock.joinMembers (members container collection slot style icons children)

theorem arguments_initialValue :
    (initialValue collection icons children).arguments =
      children.flatMap (fun child =>
        [.typeName child, .member (.extension child.package collection)]) ++
          .member DrawingLibrary.listOf :: icons.map .member := by
  have hchild (child : Symbol) : (childTerm collection child).arguments =
      [.typeName child, .member (.extension child.package collection)] := rfl
  have hmember (icon : Symbol) : (Template.member icon).arguments = [.member icon] := rfl
  have hicons : (iconTerm icons).arguments =
      .member DrawingLibrary.listOf :: icons.map .member := by
    have hlist : (icons.map Template.member).flatMap Template.arguments =
        icons.map Argument.member := by
      rw [List.flatMap_map]
      exact List.flatMap_pure_eq_map Argument.member icons
    rw [iconTerm, Template.arguments_append, Template.arguments_append, Template.arguments_append,
      Template.arguments_join, hlist]
    exact congrArg _ (List.append_nil _)
  rw [initialValue, Template.arguments_join, List.flatMap_append, List.flatMap_singleton, hicons,
    List.flatMap_map]
  simp only [hchild]

theorem symbols_initialValue :
    (initialValue collection icons children).arguments.filterMap Argument.symbol? =
      children.flatMap (fun child => [child, .extension child.package collection]) ++
        DrawingLibrary.listOf :: icons := by
  have hmembers : (icons.map Argument.member).filterMap Argument.symbol? = icons := by
    rw [List.filterMap_map]
    exact List.filterMap_some
  have hlistOf : (Argument.member DrawingLibrary.listOf :: icons.map .member).filterMap
      Argument.symbol? = DrawingLibrary.listOf :: icons := by
    rw [List.filterMap_cons, hmembers]
    rfl
  rw [arguments_initialValue, List.filterMap_append, List.filterMap_flatMap, hlistOf]
  rfl

theorem mem_symbols_fileBody :
    symbol ∈ (fileBody container collection slot style icons children).symbols ↔
      symbol ∈ fileSymbols container style icons children ∨
        ∃ child ∈ children, symbol = .extension child.package collection := by
  have harguments : (fileBody container collection slot style icons children).flatMap
      (·.template.arguments) =
        ([.name slot, .typeName DrawingLibrary.list, .typeName style.iconType, .typeName container,
          .name collection, .typeName DrawingLibrary.list, .typeName style.iconType,
          .typeName style.composable, .name slot, .name slot, .name slot] : List Argument) ++
            ((initialValue collection icons children).arguments ++ [.name slot]) := by
    have hempty : Template.empty.arguments = [] := rfl
    have htext (text : String) : (ofText text).arguments = [] := rfl
    have htype (symbol : Symbol) : (Template.typeName symbol).arguments = [.typeName symbol] := rfl
    have hname (text : String) : (Template.name text).arguments = [.name text] := rfl
    simp [fileBody, CodeBlock.joinMembers, members, listType, LazyProperty.getter,
      LazyProperty.slotDeclaration, Instruction.statement, Instruction.openBlock,
      Instruction.closeBlock, Instruction.indent, Instruction.unindent, Instruction.blank,
      Template.arguments_append, hempty, htext, htype, hname]
  have hsymbols : ((fileBody container collection slot style icons children).flatMap
      (·.template.arguments)).filterMap Argument.symbol? =
        [DrawingLibrary.list, style.iconType, container, DrawingLibrary.list, style.iconType,
          style.composable] ++
            ((children.flatMap (fun child => [child, .extension child.package collection]) ++
              DrawingLibrary.listOf :: icons) ++ []) := by
    rw [harguments, List.filterMap_append, List.filterMap_append, symbols_initialValue]
    rfl
  unfold CodeBlock.symbols fileSymbols
  rw [List.mem_eraseDups, hsymbols]
  have hchildren : (∃ child ∈ children, symbol = child ∨
      symbol = .extension child.package collection) ↔
        symbol ∈ children ∨ ∃ child ∈ children, symbol = .extension child.package collection := by
    simp [and_or_left, exists_or]
  simp only [List.mem_append, List.mem_cons, List.mem_flatMap, List.not_mem_nil, or_false,
    hchildren]
  grind

/-! ### The import table of the file -/

/-- The import table with which the file of a collection is written. -/
def fileImports (container : Symbol) (collection slot : String) (style : CodeStyle)
    (icons children : List Symbol) : Except NameCollision ImportTable :=
  (takenNames container collection slot icons children).map fun taken =>
    SourceFile.importsOf taken (fileBody container collection slot style icons children)

theorem exists_calls_of_takeIcons {session : Session} {seen : List String}
    (h : takeIcons container seen icons session.table = .ok taken) :
    ∃ calls : List Call, (calls.foldl Session.call session).table = taken := by
  induction icons generalizing session seen with
  | nil =>
    cases h
    exact ⟨[], rfl⟩
  | cons icon others ih =>
    rw [takeIcons] at h
    split at h
    · cases h
    split at h
    · have hothers : takeIcons container (icon.name :: seen) others
          (session.call (.assignAlias icon ImportTable.authorMarker)).table = .ok taken := h
      obtain ⟨calls, hcalls⟩ := ih hothers
      exact ⟨.assignAlias icon ImportTable.authorMarker :: calls, hcalls⟩
    · obtain ⟨next, hadopt, hothers⟩ := bind_eq_ok_iff.mp h
      have hcall : (session.call (.adopt icon)).table = next := by simp [Session.call, hadopt]
      rw [← hcall] at hothers
      obtain ⟨calls, hcalls⟩ := ih hothers
      exact ⟨.adopt icon :: calls, hcalls⟩

theorem exists_calls_of_takeChildren (session : Session) (children : List Symbol) :
    ∃ calls : List Call, (calls.foldl Session.call session).table =
      children.foldl takeChild session.table := by
  induction children generalizing session with
  | nil => exact ⟨[], rfl⟩
  | cons child others ih =>
    have hchild : ∃ call, (session.call call).table = takeChild session.table child := by
      unfold takeChild
      split
      · next adopted hadopt => exact ⟨.adopt child, by simp [Session.call, hadopt]⟩
      · exact ⟨.assignAlias child ImportTable.authorMarker, rfl⟩
    obtain ⟨call, hcall⟩ := hchild
    obtain ⟨calls, hcalls⟩ := ih (session.call call)
    rw [hcall] at hcalls
    exact ⟨call :: calls, hcalls⟩

/-- The container owns its name before any icon is taken, and nothing has an alias yet. -/
theorem takenNames_steps (h : takenNames container collection slot icons children = .ok taken) :
    ∃ (calls : List Call) (listed : ImportTable),
      (Session.after container.package calls).table.owner? container.importName =
          some (.imported container.importPath) ∧
        (∀ path, (Session.after container.package calls).table.alias? path = none) ∧
        takeIcons container [] icons (Session.after container.package calls).table = .ok listed ∧
        taken = children.foldl takeChild listed := by
  simp only [takenNames, bind_eq_ok_iff, pure_eq_ok_iff] at h
  obtain ⟨declared, hdeclare, slotted, hslot, adopted, hadopt, listed, hlisted, rfl⟩ := h
  have hsession : (Session.after container.package
      [.declare collection, .declare slot, .adopt container]).table = adopted := by
    simp [Session.after, Session.call, hdeclare, hslot, hadopt]
  have hnone (path : String) : adopted.alias? path = none := by
    rw [ImportTable.alias?_of_adopt hadopt]
    refine (ImportTable.declare_ok hslot).1.alias?_eq_none ?_ ?_
    · intro symbol hsymbol
      cases hsymbol
    refine (ImportTable.declare_ok hdeclare).1.alias?_eq_none ?_ rfl
    intro symbol hsymbol
    cases hsymbol
  refine ⟨[.declare collection, .declare slot, .adopt container], listed, ?_⟩
  rw [hsession]
  exact ⟨(ImportTable.adopt_ok hadopt).2, hnone, hlisted, rfl⟩

/-- Every symbol of the file is bound by its import table, in which no name is visible twice. -/
theorem fileImports_binds {imports : ImportTable}
    (h : fileImports container collection slot style icons children = .ok imports) :
    imports.visibleNames.Nodup ∧
      ∀ symbol ∈ fileSymbols container style icons children, symbol.isExtension = false →
        imports.Binds symbol := by
  obtain ⟨taken, htaken, rfl⟩ := map_eq_ok_iff.mp h
  obtain ⟨calls, listed, -, -, hlisted, rfl⟩ := takenNames_steps htaken
  obtain ⟨iconCalls, rfl⟩ := exists_calls_of_takeIcons hlisted
  rw [← Session.after_append]
  obtain ⟨childCalls, htable⟩ := exists_calls_of_takeChildren
    (Session.after container.package (calls ++ iconCalls)) children
  rw [← htable, ← Session.after_append, SourceFile.importsOf_after]
  generalize calls ++ iconCalls ++ childCalls = before
  have hrecord := Session.after_recorded container.package (before ++
    (fileBody container collection slot style icons children).symbols.map .reference)
  constructor
  · exact Session.visibleNames_nodup container.package _
  · intro symbol hmem hext
    have hbody : symbol ∈ (fileBody container collection slot style icons children).symbols :=
      mem_symbols_fileBody.mpr (.inl hmem)
    refine hrecord.binds symbol ?_ hext
    rw [Session.after_append, ImportTable.references_registered]
    exact List.mem_append_left _ (List.mem_reverse.mpr hbody)

theorem fileImports_owner {imports : ImportTable}
    (h : fileImports container collection slot style icons children = .ok imports) :
    imports.owner? container.importName = some (.imported container.importPath) := by
  obtain ⟨taken, htaken, rfl⟩ := map_eq_ok_iff.mp h
  obtain ⟨calls, listed, howner, -, hlisted, rfl⟩ := takenNames_steps htaken
  have hextends := ((takeIcons_ok hlisted).1.trans (takeChildren_extends listed children)).trans
    (ImportTable.references_extends _
      (fileBody container collection slot style icons children).symbols)
  exact hextends.owner? howner

/-! ### Symbols without aliases -/

/-- Only an icon that is named like the container gets an alias, for its own import path. -/
theorem takeIcons_alias?_eq_none {seen : List String} {path : String}
    (h : takeIcons container seen icons table = .ok taken)
    (hother : ∀ icon ∈ icons, icon.name = container.name → icon.importPath ≠ path)
    (hnone : table.alias? path = none) : taken.alias? path = none := by
  induction icons generalizing seen table with
  | nil =>
    cases h
    exact hnone
  | cons icon others ih =>
    obtain ⟨hicon, hothers⟩ := List.forall_mem_cons.mp hother
    rw [takeIcons] at h
    split at h
    · cases h
    split at h
    · next hname =>
      have hgrow := (table.assignAlias_spec (.assignAlias icon ImportTable.authorMarker) rfl
        ImportTable.authorMarker).1
      refine ih h hothers (hgrow.alias?_eq_none ?_ hnone)
      intro symbol hsymbol
      obtain rfl := Option.some.inj hsymbol
      exact hicon hname
    · obtain ⟨next, hadopt, hnext⟩ := bind_eq_ok_iff.mp h
      refine ih hnext hothers ?_
      rw [ImportTable.alias?_of_adopt hadopt]
      exact hnone

theorem takeChild_ownsName {child : Symbol} (h : table.OwnsName symbol)
    (hname : child.importPath = symbol.importPath → child.importName = symbol.importName) :
    (takeChild table child).OwnsName symbol := by
  unfold takeChild
  cases hadopt : table.adopt child with
  | ok adopted => exact h.adopt hadopt
  | error collision =>
    have hgrow := (table.assignAlias_spec (.assignAlias child ImportTable.authorMarker) rfl
      ImportTable.authorMarker).1
    refine h.grow hgrow ?_
    intro other hother hpath
    obtain rfl := Option.some.inj hother
    have hblocks := ImportTable.adopt_error_iff.mp ⟨collision, hadopt⟩
    refine hblocks.2 ?_
    rw [hname hpath, hpath]
    exact h.owner

theorem takeChildren_ownsName (h : table.OwnsName symbol)
    (hnames : ∀ child ∈ children,
      child.importPath = symbol.importPath → child.importName = symbol.importName) :
    (children.foldl takeChild table).OwnsName symbol := by
  induction children generalizing table with
  | nil => exact h
  | cons child others ih =>
    obtain ⟨hchild, hothers⟩ := List.forall_mem_cons.mp hnames
    exact ih (takeChild_ownsName h hchild) hothers

/-- A class with icons of its package and classes of other packages. -/
structure AreTopLevel (container : Symbol) (icons children : List Symbol) : Prop where
  container_isTopLevel : container.IsTopLevel
  icons_inPackage : ∀ icon ∈ icons, icon.IsTopLevel ∧ icon.package = container.package
  children_elsewhere : ∀ child ∈ children, child.IsTopLevel ∧ child.package ≠ container.package

instance (container : Symbol) (icons children : List Symbol) :
    Decidable (AreTopLevel container icons children) :=
  decidable_of_iff
    (container.IsTopLevel ∧
      (∀ icon ∈ icons, icon.IsTopLevel ∧ icon.package = container.package) ∧
        ∀ child ∈ children, child.IsTopLevel ∧ child.package ≠ container.package)
    ⟨fun h => ⟨h.1, h.2.1, h.2.2⟩, fun h =>
      ⟨h.container_isTopLevel, h.icons_inPackage, h.children_elsewhere⟩⟩

/-- Where paths tell names, the container and the icons keep their simple names, except for those
whose path is that of an icon named like the container. -/
theorem fileImports_ownsName {imports : ImportTable}
    (htop : AreTopLevel container icons children)
    (h : fileImports container collection slot style icons children = .ok imports)
    (hnames : Symbol.HaveNamesOfPaths (fileSymbols container style icons children))
    (hmem : symbol ∈ container :: icons)
    (hother : ∀ icon ∈ icons, icon.name = container.name →
      icon.importPath ≠ symbol.importPath) : imports.OwnsName symbol := by
  obtain ⟨taken, htaken, rfl⟩ := map_eq_ok_iff.mp h
  obtain ⟨calls, listed, howner, hnone, hlisted, rfl⟩ := takenNames_steps htaken
  obtain ⟨hextends, -, hall⟩ := takeIcons_ok hlisted
  have hfile : symbol ∈ fileSymbols container style icons children := by
    unfold fileSymbols
    rw [List.mem_cons] at hmem
    simp only [List.mem_cons, List.mem_append]
    tauto
  have hlistedOwns : listed.OwnsName symbol := by
    refine ⟨?_, takeIcons_alias?_eq_none hlisted hother (hnone _)⟩
    rcases List.mem_cons.mp hmem with rfl | hicon
    · exact hextends.owner? howner
    · rcases (hall symbol hicon).2 with hname | howned
      · exact absurd rfl (hother symbol hicon hname)
      · exact howned
  have hchildren : (children.foldl takeChild listed).OwnsName symbol := by
    refine takeChildren_ownsName hlistedOwns ?_
    intro child hchild
    refine hnames child ?_ symbol hfile
    unfold fileSymbols
    simp [hchild]
  refine hchildren.references ?_
  intro other hother' hext
  rcases mem_symbols_fileBody.mp hother' with hin | ⟨child, -, rfl⟩
  · exact hnames other hin symbol hfile
  · cases hext

end GroupCollection
end IconForge

import IconForge.Proofs.Imports.Lines

/-!
# Where names come from

A file refers to a symbol by a name that is an alias of its path, the simple name by which its path
is imported, or the simple name by which the package of the file knows it. By the imports for
symbols other than extensions it is exactly one of these (`IsFilled.existsUnique_source`). The lines
of the file also import extensions, and an alias that is the simple name itself then stands beside
that name imported for an extension with the same path. There is no other way to read two sources
off the lines (`IsFilled.existsUnique_line_source_iff`), if no path of an import has a blank.
-/

namespace IconForge
namespace ImportTable

variable {table : ImportTable} {symbol : Symbol}

/-- Where the name that stands for a symbol in a file may come from. -/
inductive NameSource where
  | renamed
  | imported
  | samePackage

/-- The name that a symbol is spelled with comes from a source, given the imports that are
written. -/
def HasSource (table : ImportTable) (written : Import → Prop) (symbol : Symbol) :
    NameSource → Prop
  | .renamed => written ⟨symbol.importPath, some (table.head symbol)⟩
  | .imported => table.head symbol = symbol.importName ∧ symbol.package ≠ table.package ∧
      written ⟨symbol.importPath, none⟩
  | .samePackage => table.head symbol = symbol.importName ∧ symbol.package = table.package ∧
      ∀ entry ∈ table.symbolImports, entry.name ≠ table.head symbol

def HasLine (table : ImportTable) (entry : Import) : Prop := entry.line ∈ table.lines

/-- The alias of a symbol is its simple name, by which an extension of the same path is imported. -/
structure IsDoubled (table : ImportTable) (symbol : Symbol) : Prop where
  alias_eq : table.alias? symbol.importPath = some symbol.importName
  package_ne : symbol.package ≠ table.package
  extension : symbol.importPath ∈ table.extensions

/-! ### Lines -/

theorem hasLine_of_mem {entry : Import} (h : entry ∈ table.allImports) : table.HasLine entry :=
  (mem_lines table entry.line).mpr ⟨entry, h, rfl⟩

theorem hasLine_iff (hblanks : ∀ entry ∈ table.allImports, ' ' ∉ entry.path.toList) {entry : Import}
    (h : ' ' ∉ entry.path.toList) : table.HasLine entry ↔ entry ∈ table.allImports := by
  refine ⟨fun hline => ?_, hasLine_of_mem⟩
  obtain ⟨other, hother, heq⟩ := (mem_lines table entry.line).mp hline
  rwa [← Import.eq_of_line_eq (hblanks other hother) h heq]

theorem hasLine_path_iff {path : String} (h : ' ' ∉ path.toList) :
    table.HasLine ⟨path, none⟩ ↔ ⟨path, none⟩ ∈ table.allImports := by
  refine ⟨fun hline => ?_, hasLine_of_mem⟩
  obtain ⟨other, hother, heq⟩ := (mem_lines table _).mp hline
  rwa [← Import.eq_of_line_eq_path h heq]

theorem alias_mem_allImports_iff {path name : String} :
    ⟨path, some name⟩ ∈ table.allImports ↔ ⟨path, some name⟩ ∈ table.symbolImports := by
  refine ⟨fun h => ?_, List.mem_append_left _⟩
  rcases List.mem_append.mp h with hmem | hmem
  · exact hmem
  · cases (extensionImports_plain hmem).1

theorem mem_extensionImports_iff (hplain : symbol.IsPlain) :
    ⟨symbol.importPath, none⟩ ∈ table.extensionImports ↔
      symbol.importPath ∈ table.extensions ∧ symbol.package ≠ table.package := by
  rw [← isElsewhere_importPath table hplain]
  constructor
  · exact fun h => (extensionImports_plain h).2
  · exact fun h => List.mem_map.mpr ⟨_, List.mem_filter.mpr h, rfl⟩

namespace IsFilled

/-- Two imports for symbols that bring in the same name bring in the same declaration. -/
theorem path_eq_of_name_eq (hfilled : table.IsFilled) {first second : Import}
    (hfirst : first ∈ table.symbolImports) (hsecond : second ∈ table.symbolImports)
    (h : first.name = second.name) : first.path = second.path := by
  rcases hfilled.import_cases hfirst with
    ⟨-, hf⟩ | ⟨-, hf, -⟩ <;>
  rcases hfilled.import_cases hsecond with
    ⟨-, hs⟩ | ⟨-, hs, -⟩
  · exact congrArg Prod.fst (alias_injective hfilled.names (mem_of_lookup hf) (mem_of_lookup hs) h)
  · exact absurd h.symm (owner?_ne_alias? hfilled.names hs hf)
  · exact absurd h (owner?_ne_alias? hfilled.names hf hs)
  · rw [h, hs] at hf
    exact (NameOwner.imported.inj (Option.some.inj hf)).symm

theorem name_ne_of_declared (hfilled : table.IsFilled) {entry : Import}
    (h : entry ∈ table.symbolImports) {name : String}
    (hname : table.owner? name = some .declared) : entry.name ≠ name := by
  rcases hfilled.import_cases h with
    ⟨-, halias⟩ | ⟨-, howner, -⟩
  · exact (owner?_ne_alias? hfilled.names hname halias).symm
  · rintro rfl
    rw [hname] at howner
    cases howner

/-- An import that brings in the name of a bound symbol brings in that symbol. -/
theorem path_eq_of_name_eq_head (hfilled : table.IsFilled) (hbinds : table.Binds symbol)
    {entry : Import} (h : entry ∈ table.symbolImports) (hname : entry.name = table.head symbol) :
    entry.path = symbol.importPath := by
  rcases hfilled.import_cases h with
    ⟨-, halias⟩ | ⟨-, howner, -⟩ <;>
  rcases hbinds.head_cases with halias' | ⟨-, hhead, howner'⟩
  · exact congrArg Prod.fst
      (alias_injective hfilled.names (mem_of_lookup halias) (mem_of_lookup halias') hname)
  · exact absurd (hhead.symm.trans hname.symm) (owner?_ne_alias? hfilled.names howner' halias)
  · exact absurd hname (owner?_ne_alias? hfilled.names howner halias')
  · rw [hname, hhead, howner'] at howner
    exact (NameOwner.imported.inj (Option.some.inj howner)).symm

theorem alias?_eq_of_mem (hfilled : table.IsFilled) {name : String}
    (h : ⟨symbol.importPath, some name⟩ ∈ table.symbolImports) :
    table.alias? symbol.importPath = some name := by
  rcases hfilled.import_cases h with ⟨hsome, halias⟩ | ⟨hsome, -, -⟩
  · rw [halias, ← hsome]
  · cases hsome

/-- No import for a symbol brings in a simple name that is the alias of its path. -/
theorem not_mem_of_alias? (hfilled : table.IsFilled) (hplain : symbol.IsPlain)
    (halias : table.alias? symbol.importPath = some symbol.importName) :
    ⟨symbol.importPath, none⟩ ∉ table.symbolImports := by
  intro hmem
  rcases hfilled.import_cases hmem with ⟨hsome, -⟩ | ⟨-, howner, -⟩
  · cases hsome
  · rw [Import.name_of_plain hplain] at howner
    exact owner?_ne_alias? hfilled.names howner halias rfl

/-! ### Sources -/

theorem existsUnique_source_of_alias (hfilled : table.IsFilled) (hplain : symbol.IsPlain)
    (halias : table.alias? symbol.importPath = some (table.head symbol)) :
    ∃! source, table.HasSource (· ∈ table.symbolImports) symbol source := by
  have hrenamed := mem_symbolImports_of_alias? halias
  refine ⟨.renamed, hrenamed, fun other hother => ?_⟩
  cases other with
  | renamed => rfl
  | imported =>
    obtain ⟨hname, -, himport⟩ := hother
    rw [hname] at halias
    exact absurd himport (hfilled.not_mem_of_alias? hplain halias)
  | samePackage => exact absurd rfl (hother.2.2 _ hrenamed)

/-- No import for a symbol brings in the name of a bound symbol without an alias that lies in the
package of the file. -/
theorem name_ne_head_of_samePackage (hfilled : table.IsFilled) (hplain : symbol.IsPlain)
    (hbinds : table.Binds symbol) (hnone : table.alias? symbol.importPath = none)
    (hpackage : symbol.package = table.package) {entry : Import}
    (h : entry ∈ table.symbolImports) : entry.name ≠ table.head symbol := by
  intro hname
  have hpath := hfilled.path_eq_of_name_eq_head hbinds h hname
  rcases hfilled.import_cases h with ⟨-, halias⟩ | ⟨-, -, helsewhere⟩
  · rw [hpath, hnone] at halias
    cases halias
  · rw [hpath, isElsewhere_importPath table hplain] at helsewhere
    exact helsewhere hpackage

theorem existsUnique_source_of_owner (hfilled : table.IsFilled) (hplain : symbol.IsPlain)
    (hbinds : table.Binds symbol) (hnone : table.alias? symbol.importPath = none)
    (hhead : table.head symbol = symbol.importName)
    (howner : table.owner? symbol.importName = some (.imported symbol.importPath)) :
    ∃! source, table.HasSource (· ∈ table.symbolImports) symbol source := by
  have hnot : ¬ table.HasSource (· ∈ table.symbolImports) symbol .renamed := by
    intro hrenamed
    rw [hfilled.alias?_eq_of_mem hrenamed] at hnone
    cases hnone
  by_cases hpackage : symbol.package = table.package
  · refine ⟨.samePackage, ⟨hhead, hpackage, ?_⟩, fun other hother => ?_⟩
    · exact fun _ hentry => hfilled.name_ne_head_of_samePackage hplain hbinds hnone hpackage hentry
    · cases other with
      | renamed => exact absurd hother hnot
      | imported => exact absurd hpackage hother.2.1
      | samePackage => rfl
  · have helsewhere := (isElsewhere_importPath table hplain).mpr hpackage
    refine ⟨.imported, ⟨hhead, hpackage, ?_⟩, fun other hother => ?_⟩
    · exact mem_symbolImports_of_owner? howner helsewhere
    · cases other with
      | renamed => exact absurd hother hnot
      | imported => rfl
      | samePackage => exact absurd hother.2.1 hpackage

/-- By the imports for symbols, the name of a bound symbol comes from exactly one source. -/
theorem existsUnique_source (hfilled : table.IsFilled) (hplain : symbol.IsPlain)
    (hbinds : table.Binds symbol) :
    ∃! source, table.HasSource (· ∈ table.symbolImports) symbol source := by
  rcases hbinds.head_cases with halias | ⟨hnone, hhead, howner⟩
  · exact hfilled.existsUnique_source_of_alias hplain halias
  · exact hfilled.existsUnique_source_of_owner hplain hbinds hnone hhead howner

theorem extension_imported_iff (hfilled : table.IsFilled) (hplain : symbol.IsPlain)
    (hmem : symbol.importPath ∈ table.extensions) :
    ⟨symbol.importPath, none⟩ ∈ table.allImports ↔ symbol.package ≠ table.package := by
  constructor
  · intro h
    rcases List.mem_append.mp h with h | h
    · rcases hfilled.import_cases h with ⟨hsome, -⟩ | ⟨-, -, helsewhere⟩
      · cases hsome
      · exact (isElsewhere_importPath table hplain).mp helsewhere
    · exact ((mem_extensionImports_iff hplain).mp h).2
  · intro hpackage
    exact List.mem_append_right _ ((mem_extensionImports_iff hplain).mpr ⟨hmem, hpackage⟩)

end IsFilled

/-! ### Sources by lines -/

theorem HasSource.hasLine {source : NameSource}
    (h : table.HasSource (· ∈ table.symbolImports) symbol source) :
    table.HasSource table.HasLine symbol source := by
  cases source with
  | renamed => exact hasLine_of_mem (List.mem_append_left _ h)
  | imported => exact ⟨h.1, h.2.1, hasLine_of_mem (List.mem_append_left _ h.2.2)⟩
  | samePackage => exact h

theorem IsDoubled.sources (h : table.IsDoubled symbol) (hplain : symbol.IsPlain) :
    table.HasSource table.HasLine symbol .renamed ∧
      table.HasSource table.HasLine symbol .imported := by
  have hhead : table.head symbol = symbol.importName := by
    rw [head, h.alias_eq, Option.getD_some]
  have hvia := mem_symbolImports_of_alias? h.alias_eq
  have hextension := (mem_extensionImports_iff hplain).mpr ⟨h.extension, h.package_ne⟩
  refine ⟨hasLine_of_mem (List.mem_append_left _ ?_), hhead, h.package_ne,
    hasLine_of_mem (List.mem_append_right _ hextension)⟩
  rwa [hhead]

/-- The lines say one source, unless they import the path by its simple name as an alias and for an
extension. -/
theorem IsFilled.existsUnique_line_source_iff (hfilled : table.IsFilled)
    (hplain : symbol.IsPlain) (hbinds : table.Binds symbol)
    (hblanks : ∀ entry ∈ table.allImports, ' ' ∉ entry.path.toList)
    (h : ' ' ∉ symbol.importPath.toList) :
    (∃! source, table.HasSource table.HasLine symbol source) ↔ ¬ table.IsDoubled symbol := by
  constructor
  · intro hunique hdoubled
    obtain ⟨hrenamed, himported⟩ := hdoubled.sources hplain
    cases hunique.unique hrenamed himported
  · intro hsingle
    obtain ⟨source, hsource, honly⟩ := hfilled.existsUnique_source hplain hbinds
    refine ⟨source, hsource.hasLine, fun other hother => ?_⟩
    cases other with
    | renamed =>
      refine honly .renamed (alias_mem_allImports_iff.mp ?_)
      exact (hasLine_iff hblanks h).mp hother
    | imported =>
      obtain ⟨hhead, hpackage, hline⟩ := hother
      rcases List.mem_append.mp ((hasLine_iff hblanks h).mp hline) with hmem | hmem
      · exact honly .imported ⟨hhead, hpackage, hmem⟩
      · cases source with
        | renamed =>
          have halias := hfilled.alias?_eq_of_mem hsource
          rw [hhead] at halias
          exact absurd ⟨halias, hpackage, ((mem_extensionImports_iff hplain).mp hmem).1⟩ hsingle
        | imported => rfl
        | samePackage => exact absurd hsource.2.1 hpackage
    | samePackage => exact honly .samePackage hother

end ImportTable
end IconForge

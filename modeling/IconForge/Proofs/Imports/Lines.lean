import IconForge.Proofs.Imports.Ownership
import IconForge.Proofs.Text.Separated

/-!
# Import lines

An import line is the text of an `Import`. The paths of symbols are assumed to be made of a package
and a name without dots, as only then does a path say what the name is that it imports. A table that
is filled by calls about such symbols imports an alias for its path, and an owned name for the path
that owns it.
-/

namespace IconForge

/-- A symbol that is told by its import path: it has a package, and its imported name has no dot. -/
structure Symbol.IsPlain (symbol : Symbol) : Prop where
  package_ne : symbol.package ≠ ""
  no_dot : '.' ∉ symbol.importName.toList

namespace Symbol

instance (symbol : Symbol) : Decidable symbol.IsPlain :=
  decidable_of_iff (symbol.package ≠ "" ∧ '.' ∉ symbol.importName.toList)
    ⟨fun h => ⟨h.1, h.2⟩, fun h => ⟨h.1, h.2⟩⟩

variable {symbol : Symbol}

theorem IsPlain.splitLast?_importPath (h : symbol.IsPlain) :
    Text.splitLast? '.' symbol.importPath.toList =
      some (symbol.package.toList, symbol.importName.toList) := by
  have hpath : symbol.importPath.toList =
      symbol.package.toList ++ '.' :: symbol.importName.toList := by
    simp [importPath, h.package_ne]
  rw [hpath]
  exact Text.splitLast?_append _ h.no_dot

end Symbol

/-- The import of the declaration with a path, under its simple name or under an alias. -/
structure Import where
  path : String
  alias? : Option String
  deriving DecidableEq

namespace Import

def line : Import → String
  | ⟨path, none⟩ => ImportTable.importLine path
  | ⟨path, some name⟩ => ImportTable.aliasLine path name

/-- The name that an import brings into scope: its alias, or else what follows the last dot of its
path. -/
def name (entry : Import) : String :=
  entry.alias?.getD
    (match Text.splitLast? '.' entry.path.toList with
    | some (_, simple) => String.ofList simple
    | none => entry.path)

theorem name_of_plain {symbol : Symbol} (h : symbol.IsPlain) :
    Import.name ⟨symbol.importPath, none⟩ = symbol.importName := by
  simp [name, h.splitLast?_importPath]

def lineEnd : Option String → List Char
  | none => []
  | some name => ' ' :: 'a' :: 's' :: ' ' :: name.toList

theorem lineEnd_injective {first second : Option String} (h : lineEnd first = lineEnd second) :
    first = second := by
  cases first <;> cases second <;> simp_all [lineEnd, String.toList_inj]

theorem toList_line (entry : Import) :
    entry.line.toList = "import ".toList ++ (entry.path.toList ++ lineEnd entry.alias?) := by
  obtain ⟨path, name?⟩ := entry
  cases name? <;> simp [line, lineEnd, ImportTable.importLine, ImportTable.aliasLine]

theorem takeWhile_append_lineEnd {path : List Char} (h : ' ' ∉ path) (name? : Option String) :
    (path ++ lineEnd name?).takeWhile (· ≠ ' ') = path := by
  have hall : ∀ c ∈ path, decide (c ≠ ' ') = true :=
    fun c hc => decide_eq_true fun heq => h (heq ▸ hc)
  rw [List.takeWhile_append_of_pos hall]
  cases name? <;> simp [lineEnd]

theorem eq_of_line_eq {first second : Import} (hfirst : ' ' ∉ first.path.toList)
    (hsecond : ' ' ∉ second.path.toList) (h : first.line = second.line) : first = second := by
  obtain ⟨path, name?⟩ := first
  obtain ⟨path', name?'⟩ := second
  have htail := congrArg String.toList h
  rw [toList_line, toList_line] at htail
  have hrest := List.append_cancel_left htail
  have hpath : path = path' := by
    rw [← String.toList_inj, ← takeWhile_append_lineEnd hfirst name?, hrest]
    exact takeWhile_append_lineEnd hsecond name?'
  subst hpath
  exact congrArg (Import.mk path) (lineEnd_injective (List.append_cancel_left hrest))

theorem eq_of_line_eq_path {entry : Import} {path : String} (h : ' ' ∉ path.toList)
    (heq : entry.line = line ⟨path, none⟩) : entry = ⟨path, none⟩ := by
  obtain ⟨other, name?⟩ := entry
  have hlist := congrArg String.toList heq
  rw [toList_line, toList_line] at hlist
  have hrest : other.toList ++ lineEnd name? = path.toList := by
    simpa [lineEnd] using hlist
  cases name? with
  | none =>
    rw [lineEnd, List.append_nil, String.toList_inj] at hrest
    rw [hrest]
  | some name =>
    rw [← hrest] at h
    exact absurd (by simp [lineEnd]) h

end Import

namespace ImportTable

variable {table grown : ImportTable} {call : Call}

/-- The imports for symbols other than extensions. -/
def symbolImports (table : ImportTable) : List Import :=
  (table.owners.filterMap fun entry => table.ownerPath? entry.2).map (⟨·, none⟩) ++
    table.aliases.map fun entry => ⟨entry.1, some entry.2⟩

def extensionImports (table : ImportTable) : List Import :=
  (table.extensions.filter table.isElsewhere).map (⟨·, none⟩)

def allImports (table : ImportTable) : List Import := table.symbolImports ++ table.extensionImports

theorem lines_eq (table : ImportTable) :
    table.lines = ((table.allImports.map Import.line).eraseDups).mergeSort
      fun first second => decide (first ≤ second) := by
  simp [lines, allImports, symbolImports, extensionImports, Import.line, List.map_map,
    Function.comp_def]

theorem mem_lines (table : ImportTable) (line : String) :
    line ∈ table.lines ↔ ∃ entry ∈ table.allImports, entry.line = line := by
  rw [lines_eq, List.mem_mergeSort, List.mem_eraseDups, List.mem_map]

theorem isElsewhere_importPath (table : ImportTable) {symbol : Symbol} (h : symbol.IsPlain) :
    table.isElsewhere symbol.importPath = true ↔ symbol.package ≠ table.package := by
  simp [isElsewhere, h.splitLast?_importPath]

/-- Every path of a table is that of a symbol that can be told by it, and an owned name is the
imported name of that symbol. -/
structure IsRooted (table : ImportTable) : Prop where
  owners : ∀ name path, (name, NameOwner.imported path) ∈ table.owners →
    ∃ symbol : Symbol, symbol.IsPlain ∧ symbol.importName = name ∧ symbol.importPath = path
  aliases : ∀ entry ∈ table.aliases, ∃ symbol : Symbol, symbol.IsPlain ∧ symbol.importPath = entry.1

theorem Grows.isRooted (h : table.Grows call grown)
    (hplain : ∀ symbol, call.symbol? = some symbol → symbol.IsPlain) (hroot : table.IsRooted) :
    grown.IsRooted := by
  cases h with
  | same => exact hroot
  | declare other free =>
    refine ⟨fun name path hmem => ?_, hroot.aliases⟩
    rcases List.mem_cons.mp hmem with heq | hmem
    · simp at heq
    · exact hroot.owners name path hmem
  | own subject free =>
    refine ⟨fun name path hmem => ?_, hroot.aliases⟩
    rcases List.mem_cons.mp hmem with heq | hmem
    · simp only [Prod.mk.injEq, NameOwner.imported.injEq] at heq
      exact ⟨_, hplain _ subject, heq.1.symm, heq.2.symm⟩
    · exact hroot.owners name path hmem
  | assign subject other free fresh =>
    refine ⟨hroot.owners, fun entry hmem => ?_⟩
    rcases List.mem_cons.mp hmem with rfl | hmem
    · exact ⟨_, hplain _ subject, rfl⟩
    · exact hroot.aliases entry hmem
  | extension subject => exact ⟨hroot.owners, hroot.aliases⟩

theorem mem_symbolImports_of_alias? {path name : String} (h : table.alias? path = some name) :
    ⟨path, some name⟩ ∈ table.symbolImports :=
  List.mem_append_right _ (List.mem_map.mpr ⟨_, mem_of_lookup h, rfl⟩)

theorem mem_symbolImports_of_owner? {path name : String}
    (h : table.owner? name = some (.imported path)) (helsewhere : table.isElsewhere path = true) :
    ⟨path, none⟩ ∈ table.symbolImports := by
  refine List.mem_append_left _ (List.mem_map.mpr ⟨path, ?_, rfl⟩)
  exact List.mem_filterMap.mpr ⟨_, mem_of_lookup h, by simp [ownerPath?, helsewhere]⟩

theorem extensionImports_plain {entry : Import} (h : entry ∈ table.extensionImports) :
    entry.alias? = none ∧ entry.path ∈ table.extensions ∧
      table.isElsewhere entry.path = true := by
  obtain ⟨path, hpath, rfl⟩ := List.mem_map.mp h
  exact ⟨rfl, List.mem_filter.mp hpath⟩

/-- A table that is filled by calls about symbols that can be told by their paths. -/
structure IsFilled (table : ImportTable) : Prop where
  rooted : table.IsRooted
  names : table.visibleNames.Nodup
  paths : (table.aliases.map Prod.fst).Nodup

theorem after_isFilled (package : String) {calls : List Call}
    (hplain : ∀ next ∈ calls, ∀ symbol ∈ next.symbol?, symbol.IsPlain) :
    (Session.after package calls).table.IsFilled where
  rooted := by
    have hstart : (ImportTable.empty package).IsRooted := ⟨by simp [empty], by simp [empty]⟩
    exact Session.after_induction hstart calls fun next hmem _ _ hgrow =>
      hgrow.isRooted (hplain next hmem)
  names := Session.visibleNames_nodup package calls
  paths := Session.aliasPaths_nodup package calls

/-- What an import for a symbol says: that its name is the alias of its path, or that its name is
owned by its path, whose declaration lies in another package. -/
theorem IsFilled.import_cases (hfilled : table.IsFilled) {entry : Import}
    (h : entry ∈ table.symbolImports) :
    entry.alias? = some entry.name ∧ table.alias? entry.path = some entry.name ∨
      entry.alias? = none ∧ table.owner? entry.name = some (.imported entry.path) ∧
        table.isElsewhere entry.path = true := by
  rcases List.mem_append.mp h with hmem | hmem
  · obtain ⟨path, hpath, rfl⟩ := List.mem_map.mp hmem
    obtain ⟨⟨name, owner⟩, howner, hown⟩ := List.mem_filterMap.mp hpath
    cases owner with
    | declared => simp [ownerPath?] at hown
    | imported other =>
      simp only [ownerPath?, Option.ite_none_right_eq_some, Option.some.injEq] at hown
      obtain ⟨helsewhere, rfl⟩ := hown
      obtain ⟨symbol, hplain, rfl, rfl⟩ := hfilled.rooted.owners _ _ howner
      have hlookup := lookup_of_mem (List.nodup_append.mp hfilled.names).1 howner
      refine .inr ⟨rfl, ?_, helsewhere⟩
      rw [Import.name_of_plain hplain]
      exact hlookup
  · obtain ⟨⟨path, name⟩, halias, rfl⟩ := List.mem_map.mp hmem
    exact .inl ⟨rfl, lookup_of_mem hfilled.paths halias⟩

end ImportTable
end IconForge

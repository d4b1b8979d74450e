import IconForge.Code.ImportTable
import IconForge.Proofs.Lookups

/-!
# Growth of import tables

A call on an import table adds at most one entry and takes none away. A name that it adds was not
visible before, and a path that gets an alias had none: that is `Grows`, which says all that a call
can do to a table. What else is known after a call is in `declare_ok`, `adopt_ok`,
`assignAlias_spec` and `reference_spec`.
-/

namespace IconForge
namespace ImportTable

def padded (count : Nat) (name : String) : String :=
  String.ofList (List.replicate count '_') ++ name

theorem toList_padded (count : Nat) (name : String) :
    (padded count name).toList = List.replicate count '_' ++ name.toList := by
  simp [padded]

theorem padded_zero (name : String) : padded 0 name = name := by
  simp [padded]

theorem padded_underscore (count : Nat) (name : String) :
    padded count ("_" ++ name) = padded (count + 1) name := by
  apply String.toList_inj.mp
  have h : List.replicate count '_' ++ ['_'] = List.replicate (count + 1) '_' :=
    List.replicate_succ'.symm
  simp [toList_padded, ← h]

theorem padded_injective (name : String) {i j : Nat} (h : padded i name = padded j name) :
    i = j := by
  have hl := congrArg (fun text : String => text.toList.length) h
  simp only [toList_padded, List.length_append, List.length_replicate] at hl
  omega

/-- The free alias has the fewest underscores before the candidate that make it free. -/
theorem freeAlias_spec (taken : List String) (candidate : String) :
    ∃ count, freeAlias taken candidate = padded count candidate ∧
      padded count candidate ∉ taken ∧ ∀ i < count, padded i candidate ∈ taken := by
  fun_induction freeAlias taken candidate with
  | case1 taken candidate occupied ih =>
    obtain ⟨count, heq, hfree, hleast⟩ := ih
    rw [padded_underscore] at heq hfree
    refine ⟨count + 1, heq, ?_, ?_⟩
    · intro hmem
      refine hfree ((List.mem_erase_of_ne ?_).mpr hmem)
      intro hself
      have hzero := hself.trans (padded_zero candidate).symm
      exact absurd (padded_injective candidate hzero) (Nat.succ_ne_zero count)
    · intro i hi
      cases i with
      | zero => rwa [padded_zero]
      | succ i =>
        rw [← padded_underscore]
        exact List.mem_of_mem_erase (hleast i (by omega))
  | case2 taken candidate free =>
    exact ⟨0, (padded_zero candidate).symm, by rwa [padded_zero], fun i hi => by omega⟩

variable {table grown : ImportTable}

theorem isVisible_iff (name : String) : table.isVisible name = true ↔ name ∈ table.visibleNames :=
  List.contains_iff_mem

theorem mem_visibleNames (name : String) :
    name ∈ table.visibleNames ↔
      name ∈ table.owners.map Prod.fst ∨ name ∈ table.aliases.map Prod.snd :=
  List.mem_append

theorem mem_visibleNames_of_owner? {name : String} {owner : NameOwner}
    (h : table.owner? name = some owner) : name ∈ table.visibleNames :=
  (mem_visibleNames name).mpr (.inl (List.mem_map.mpr ⟨_, mem_of_lookup h, rfl⟩))

/-- A call that may change a table. -/
inductive Call where
  | declare (name : String)
  | adopt (symbol : Symbol)
  | assignAlias (symbol : Symbol) (marker : String)
  | reference (symbol : Symbol)

def Call.symbol? : Call → Option Symbol
  | declare _ => none
  | adopt symbol | assignAlias symbol _ | reference symbol => some symbol

/-- How a table changes in a call. -/
inductive Grows (table : ImportTable) : Call → ImportTable → Prop
  | same (call : Call) : Grows table call table
  | declare (name : String) (free : name ∉ table.visibleNames) :
      Grows table (.declare name) (table.own name .declared)
  | own {call : Call} {symbol : Symbol} (subject : call.symbol? = some symbol)
      (free : symbol.importName ∉ table.visibleNames) :
      Grows table call (table.own symbol.importName (.imported symbol.importPath))
  | assign {call : Call} {symbol : Symbol} (subject : call.symbol? = some symbol) (name : String)
      (free : name ∉ table.visibleNames) (fresh : table.alias? symbol.importPath = none) :
      Grows table call { table with aliases := (symbol.importPath, name) :: table.aliases }
  | extension {call : Call} {symbol : Symbol} (subject : call.symbol? = some symbol) :
      Grows table call { table with extensions := symbol.importPath :: table.extensions }

theorem owner?_own (table : ImportTable) (name : String) (owner : NameOwner) :
    (table.own name owner).owner? name = some owner := by
  simp [owner?, own]

theorem owner?_own_of_free {name other : String} {owner new : NameOwner}
    (free : other ∉ table.visibleNames) (h : table.owner? name = some owner) :
    (table.own other new).owner? name = some owner := by
  have hne : (name == other) = false := by
    rw [beq_eq_false_iff_ne]
    rintro rfl
    exact free (mem_visibleNames_of_owner? h)
  simpa [owner?, own, List.lookup_cons, hne] using h

namespace Grows

variable {call : Call}

theorem package_eq (h : Grows table call grown) : grown.package = table.package := by
  cases h <;> rfl

theorem owner? (h : Grows table call grown) {name : String} {owner : NameOwner}
    (hname : table.owner? name = some owner) : grown.owner? name = some owner := by
  cases h with
  | declare other free => exact owner?_own_of_free free hname
  | own subject free => exact owner?_own_of_free free hname
  | _ => exact hname

theorem alias? (h : Grows table call grown) {path name : String}
    (hpath : table.alias? path = some name) : grown.alias? path = some name := by
  cases h with
  | @assign _ symbol _ _ _ fresh =>
    have hne : (path == symbol.importPath) = false := by
      rw [beq_eq_false_iff_ne]
      rintro rfl
      rw [fresh] at hpath
      cases hpath
    simpa [ImportTable.alias?, List.lookup_cons, hne] using hpath
  | _ => exact hpath

end Grows

/-- A table that calls have led to. -/
structure Extends (table grown : ImportTable) : Prop where
  package_eq : grown.package = table.package
  owner? : ∀ {name owner}, table.owner? name = some owner → grown.owner? name = some owner
  alias? : ∀ {path name}, table.alias? path = some name → grown.alias? path = some name

theorem Extends.refl (table : ImportTable) : Extends table table := ⟨rfl, id, id⟩

theorem Extends.trans {first second third : ImportTable} (h : Extends first second)
    (h' : Extends second third) : Extends first third :=
  ⟨h'.package_eq.trans h.package_eq, h'.owner? ∘ h.owner?, h'.alias? ∘ h.alias?⟩

theorem Grows.extends {call : Call} (h : Grows table call grown) : Extends table grown :=
  ⟨h.package_eq, h.owner?, h.alias?⟩

/-- A table that refers to a symbol by its simple name or by an alias. -/
def Binds (table : ImportTable) (symbol : Symbol) : Prop :=
  (∃ name, table.alias? symbol.importPath = some name) ∨
    table.owner? symbol.importName = some (.imported symbol.importPath)

theorem Grows.binds {call : Call} (h : Grows table call grown) {symbol : Symbol}
    (hb : table.Binds symbol) : grown.Binds symbol := by
  rcases hb with ⟨name, hname⟩ | howner
  · exact .inl ⟨name, h.alias? hname⟩
  · exact .inr (h.owner? howner)

theorem declare_ok {name : String} (h : table.declare name = .ok grown) :
    Grows table (.declare name) grown ∧ grown.owner? name = some .declared := by
  simp only [declare] at h
  split at h
  · cases h
  · cases h
  · split at h
    · cases h
    · next hfree =>
      cases h
      rw [isVisible_iff] at hfree
      exact ⟨.declare name hfree, owner?_own table name .declared⟩

/-- A symbol that takes its simple name has it already, or the name was free. -/
theorem adopt_cases {symbol : Symbol} (h : table.adopt symbol = .ok grown) :
    table.owner? symbol.importName = some (.imported symbol.importPath) ∧ grown = table ∨
      symbol.importName ∉ table.visibleNames ∧
        grown = table.own symbol.importName (.imported symbol.importPath) := by
  simp only [adopt] at h
  split at h
  · next path howner =>
    split at h
    · next hpath =>
      cases h
      exact .inl ⟨by rw [howner, hpath], rfl⟩
    · cases h
  · cases h
  · split at h
    · cases h
    · next hfree =>
      cases h
      rw [isVisible_iff] at hfree
      exact .inr ⟨hfree, rfl⟩

theorem adopt_ok {symbol : Symbol} (h : table.adopt symbol = .ok grown) :
    Grows table (.adopt symbol) grown ∧
      grown.owner? symbol.importName = some (.imported symbol.importPath) := by
  rcases adopt_cases h with ⟨howner, rfl⟩ | ⟨hfree, rfl⟩
  · exact ⟨.same _, howner⟩
  · exact ⟨.own rfl hfree, owner?_own _ _ _⟩

/-- Whatever call asks for an alias of its symbol, the table grows by a free one at most. -/
theorem assignAlias_spec (table : ImportTable) (call : Call) {symbol : Symbol}
    (subject : call.symbol? = some symbol) (marker : String) :
    Grows table call (table.assignAlias symbol marker).2 ∧
      (table.assignAlias symbol marker).2.alias? symbol.importPath =
        some (table.assignAlias symbol marker).1 := by
  simp only [assignAlias]
  split
  · next name halias => exact ⟨.same call, halias⟩
  · next halias =>
    obtain ⟨count, heq, hfree, -⟩ :=
      freeAlias_spec table.visibleNames.reverse (marker ++ symbol.importName)
    rw [← heq, List.mem_reverse] at hfree
    exact ⟨.assign subject _ hfree halias, by simp [alias?]⟩

theorem assignAlias_extends (table : ImportTable) (symbol : Symbol) (marker : String) :
    Extends table (table.assignAlias symbol marker).2 :=
  (table.assignAlias_spec (.assignAlias symbol marker) rfl marker).1.extends

theorem reference_spec (table : ImportTable) (symbol : Symbol) :
    Grows table (.reference symbol) (table.reference symbol).2 ∧
      if symbol.isExtension then symbol.importPath ∈ (table.reference symbol).2.extensions
      else (table.reference symbol).2.Binds symbol := by
  have byAlias := table.assignAlias_spec (.reference symbol) rfl libraryMarker
  have bound : (table.assignAlias symbol libraryMarker).2.Binds symbol := .inl ⟨_, byAlias.2⟩
  unfold reference
  cases hext : symbol.isExtension with
  | true => exact ⟨.extension rfl, List.mem_cons_self⟩
  | false =>
    simp only [Bool.false_eq_true, ↓reduceIte]
    split
    · next name halias => exact ⟨.same _, .inl ⟨name, halias⟩⟩
    · split
      · next path howner =>
        split
        · next hpath => exact ⟨.same _, .inr (by rw [howner, hpath])⟩
        · exact ⟨byAlias.1, bound⟩
      · exact ⟨byAlias.1, bound⟩
      · split
        · exact ⟨byAlias.1, bound⟩
        · next hfree =>
          rw [isVisible_iff] at hfree
          exact ⟨.own rfl hfree, .inr (owner?_own _ _ _)⟩

end ImportTable
end IconForge

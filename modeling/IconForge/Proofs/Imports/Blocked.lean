import IconForge.Proofs.Imports.Growth

/-!
# Names that are blocked

A table refuses to give a symbol its simple name exactly if the name is visible and belongs to
something else (`adopt_error_iff`). Names that other symbols take do not change this. An alias is
the candidate with the fewest underscores that was free, and blocks a symbol of that name.
-/

namespace IconForge
namespace ImportTable

variable {table grown : ImportTable} {symbol other : Symbol} {name : String}

/-! ### Free aliases -/

/-- The name has the fewest underscores before a candidate that make it free. -/
def IsFreeAlias (taken : List String) (candidate name : String) : Prop :=
  ∃ count, name = padded count candidate ∧ name ∉ taken ∧ ∀ i < count, padded i candidate ∈ taken

theorem isFreeAlias_iff {taken : List String} {candidate : String} :
    IsFreeAlias taken candidate name ↔ name = freeAlias taken candidate := by
  obtain ⟨count, heq, hfree, hleast⟩ := freeAlias_spec taken candidate
  rw [heq]
  constructor
  · rintro ⟨count', rfl, hfree', hleast'⟩
    have hge : ¬ count' < count := fun hlt => hfree' (hleast count' hlt)
    have hle : ¬ count < count' := fun hlt => hfree (hleast' count hlt)
    rw [show count' = count by omega]
  · rintro rfl
    exact ⟨count, rfl, hfree, hleast⟩

theorem IsFreeAlias.congr {taken taken' : List String} {candidate : String}
    (h : ∀ name, name ∈ taken ↔ name ∈ taken') :
    IsFreeAlias taken candidate name ↔ IsFreeAlias taken' candidate name := by
  simp only [IsFreeAlias, h]

theorem IsFreeAlias.notMem {taken : List String} {candidate : String}
    (h : IsFreeAlias taken candidate name) : name ∉ taken := by
  obtain ⟨count, -, hfree, -⟩ := h
  exact hfree

theorem assignAlias_eq_of_alias?_eq_none (marker : String)
    (h : table.alias? symbol.importPath = none) :
    ∃ name, IsFreeAlias table.visibleNames (marker ++ symbol.importName) name ∧
      table.assignAlias symbol marker =
        (name, { table with aliases := (symbol.importPath, name) :: table.aliases }) := by
  refine ⟨freeAlias table.visibleNames.reverse (marker ++ symbol.importName), ?_, ?_⟩
  · rw [IsFreeAlias.congr fun _ => List.mem_reverse.symm, isFreeAlias_iff]
  · simp [assignAlias, h]

theorem assignAlias_of_alias?_eq_none (marker : String)
    (h : table.alias? symbol.importPath = none) :
    ∃ name, IsFreeAlias table.visibleNames (marker ++ symbol.importName) name ∧
      (table.assignAlias symbol marker).2 =
        { table with aliases := (symbol.importPath, name) :: table.aliases } := by
  obtain ⟨name, hfree, heq⟩ := assignAlias_eq_of_alias?_eq_none marker h
  exact ⟨name, hfree, congrArg Prod.snd heq⟩

/-! ### Names that are blocked -/

/-- The simple name of a symbol is visible, but does not belong to it. -/
def Blocks (table : ImportTable) (symbol : Symbol) : Prop :=
  symbol.importName ∈ table.visibleNames ∧
    table.owner? symbol.importName ≠ some (.imported symbol.importPath)

theorem adopt_error_iff : (∃ e, table.adopt symbol = .error e) ↔ table.Blocks symbol := by
  simp only [adopt, Blocks, ← isVisible_iff]
  cases howner : table.owner? symbol.importName with
  | none => by_cases hvisible : table.isVisible symbol.importName <;> simp [hvisible]
  | some owner =>
    have hvisible := (isVisible_iff _).mpr (mem_visibleNames_of_owner? howner)
    cases owner with
    | declared => simp [hvisible]
    | imported path => by_cases hpath : path = symbol.importPath <;> simp [hvisible, hpath]

@[simp] theorem mem_visibleNames_own {owner : NameOwner} {new : String} :
    name ∈ (table.own new owner).visibleNames ↔ name = new ∨ name ∈ table.visibleNames := by
  simp [visibleNames, own]

@[simp] theorem notMem_visibleNames_empty (package : String) :
    name ∉ (empty package).visibleNames :=
  List.not_mem_nil

theorem owner?_own_of_ne {owner : NameOwner} {new : String} (h : name ≠ new) :
    (table.own new owner).owner? name = table.owner? name := by
  rw [owner?, own, List.lookup_cons, beq_eq_false_iff_ne.mpr h]
  rfl

theorem mem_visibleNames_of_adopt (h : table.adopt symbol = .ok grown) :
    name ∈ grown.visibleNames ↔ name = symbol.importName ∨ name ∈ table.visibleNames := by
  rcases adopt_cases h with ⟨howner, rfl⟩ | ⟨-, rfl⟩
  · have hmem := mem_visibleNames_of_owner? howner
    constructor
    · exact .inr
    · rintro (rfl | h)
      · exact hmem
      · exact h
  · exact mem_visibleNames_own

theorem alias?_of_adopt (h : table.adopt symbol = .ok grown) (path : String) :
    grown.alias? path = table.alias? path := by
  rcases adopt_cases h with ⟨-, rfl⟩ | ⟨-, rfl⟩ <;> rfl

theorem blocks_of_adopt (h : table.adopt symbol = .ok grown)
    (hne : other.importName ≠ symbol.importName) : grown.Blocks other ↔ table.Blocks other := by
  rcases adopt_cases h with ⟨-, rfl⟩ | ⟨-, rfl⟩
  · rfl
  · simp only [Blocks, mem_visibleNames_own, hne, false_or, owner?_own_of_ne hne]

theorem blocks_alias {path : String} (hfree : name ∉ table.visibleNames) :
    { table with aliases := (path, name) :: table.aliases : ImportTable }.Blocks other ↔
      other.importName = name ∨ table.Blocks other := by
  have hmem : other.importName ∈
      { table with aliases := (path, name) :: table.aliases : ImportTable }.visibleNames ↔
        other.importName = name ∨ other.importName ∈ table.visibleNames := by
    simp [visibleNames, or_left_comm]
  rw [Blocks, Blocks, hmem]
  constructor
  · rintro ⟨hname | hvisible, howner⟩
    · exact .inl hname
    · exact .inr ⟨hvisible, howner⟩
  · rintro (hname | ⟨hvisible, howner⟩)
    · refine ⟨.inl hname, fun (howner : table.owner? _ = _) => hfree ?_⟩
      exact hname ▸ mem_visibleNames_of_owner? howner
    · exact ⟨.inr hvisible, howner⟩

end ImportTable

end IconForge

import IconForge.Proofs.Imports.Blocked
import IconForge.Proofs.Imports.Lines

/-!
# Symbols that keep their simple names

A symbol that owns its simple name and has no alias is spelled by that name. It stays so in every
call about a symbol with another import path; it stays so too when it is referred to, and when a
symbol takes its name, whatever the symbol is. Only an alias for its import path ends it. Names
without dots are what their import paths end with, so symbols have a path in common only if they
have the same name.
-/

namespace IconForge

/-! ### Symbols with an import path in common -/

/-- A symbol that is neither nested nor an extension. -/
structure Symbol.IsTopLevel (symbol : Symbol) : Prop where
  enclosing : symbol.enclosing = none
  isExtension : symbol.isExtension = false

instance (symbol : Symbol) : Decidable symbol.IsTopLevel :=
  decidable_of_iff (symbol.enclosing = none ∧ symbol.isExtension = false)
    ⟨fun h => ⟨h.1, h.2⟩, fun h => ⟨h.enclosing, h.isExtension⟩⟩

namespace Symbol

variable {first second : Symbol}

theorem package_eq_of_importPath_eq (hname : first.importName = second.importName)
    (hpath : first.importPath = second.importPath) : first.package = second.package := by
  have hlonger (package name : String) : package ++ "." ++ name ≠ name := by
    intro heq
    have hlength := congrArg (fun text : String => text.toList.length) heq
    simp only [String.toList_append, List.length_append] at hlength
    have hdot : ".".toList.length = 1 := rfl
    omega
  unfold importPath at hpath
  rw [hname] at hpath
  split at hpath
  · next hempty =>
    split at hpath
    · next hempty' => rw [hempty, hempty']
    · exact absurd hpath.symm (hlonger _ _)
  · split at hpath
    · exact absurd hpath (hlonger _ _)
    · have hlist := congrArg String.toList hpath
      simp only [String.toList_append, List.append_assoc, List.append_cancel_right_eq] at hlist
      exact String.toList_injective hlist

theorem IsTopLevel.importName_eq (h : first.IsTopLevel) : first.importName = first.name :=
  importName_of_enclosing h.enclosing

theorem IsTopLevel.eq_of_importPath_eq (hfirst : first.IsTopLevel) (hsecond : second.IsTopLevel)
    (hname : first.name = second.name) (hpath : first.importPath = second.importPath) :
    first = second := by
  have hnames : first.importName = second.importName := by
    rw [hfirst.importName_eq, hsecond.importName_eq, hname]
  have hpackage := package_eq_of_importPath_eq hnames hpath
  obtain ⟨package, enclosing, name, isExtension⟩ := first
  obtain ⟨package', enclosing', name', isExtension'⟩ := second
  obtain ⟨rfl, rfl⟩ := hfirst
  obtain ⟨rfl, rfl⟩ := hsecond
  subst hname
  subst hpackage
  rfl

/-- Symbols among which an import path says what the simple name is. -/
def HaveNamesOfPaths (symbols : List Symbol) : Prop :=
  ∀ first ∈ symbols, ∀ second ∈ symbols,
    first.importPath = second.importPath → first.importName = second.importName

theorem name_importPath_of_no_dot {symbol : Symbol} (h : '.' ∉ symbol.importName.toList) :
    Import.name ⟨symbol.importPath, none⟩ = symbol.importName := by
  by_cases hpackage : symbol.package = ""
  · have hpath : symbol.importPath = symbol.importName := if_pos hpackage
    unfold Import.name
    rw [hpath, Text.splitLast?_eq_none h]
    rfl
  · exact Import.name_of_plain ⟨hpackage, h⟩

theorem haveNamesOfPaths_of_no_dots {symbols : List Symbol}
    (h : ∀ symbol ∈ symbols, '.' ∉ symbol.importName.toList) : HaveNamesOfPaths symbols := by
  intro first hfirst second hsecond hpath
  rw [← name_importPath_of_no_dot (h first hfirst), hpath,
    name_importPath_of_no_dot (h second hsecond)]

end Symbol

namespace ImportTable

variable {table grown : ImportTable} {call : Call} {symbol other : Symbol}

/-! ### Simple names -/

theorem spelling_of_isTopLevel (h : symbol.IsTopLevel) :
    table.spelling symbol = table.head symbol := by
  rw [spelling_eq table h.isExtension]
  unfold Symbol.memberSuffix
  rw [h.enclosing, String.append_empty]

structure OwnsName (table : ImportTable) (symbol : Symbol) : Prop where
  owner : table.owner? symbol.importName = some (.imported symbol.importPath)
  unaliased : table.alias? symbol.importPath = none

theorem OwnsName.head_eq (h : table.OwnsName symbol) : table.head symbol = symbol.importName := by
  unfold head
  rw [h.unaliased, Option.getD_none]

theorem Grows.alias?_eq_none (h : Grows table call grown) {path : String}
    (hother : ∀ symbol, call.symbol? = some symbol → symbol.importPath ≠ path)
    (hnone : table.alias? path = none) : grown.alias? path = none := by
  cases h with
  | @assign _ symbol subject name free fresh =>
    have hne : (path == symbol.importPath) = false := by
      rw [beq_eq_false_iff_ne]
      exact Ne.symm (hother symbol subject)
    rw [ImportTable.alias?, List.lookup_cons, hne]
    exact hnone
  | _ => exact hnone

theorem OwnsName.grow (h : table.OwnsName symbol) (hgrow : Grows table call grown)
    (hother : ∀ other, call.symbol? = some other → other.importPath ≠ symbol.importPath) :
    grown.OwnsName symbol :=
  ⟨hgrow.owner? h.owner, hgrow.alias?_eq_none hother h.unaliased⟩

theorem OwnsName.adopt (h : table.OwnsName symbol) (hadopt : table.adopt other = .ok grown) :
    grown.OwnsName symbol := by
  refine ⟨(adopt_ok hadopt).1.owner? h.owner, ?_⟩
  rw [alias?_of_adopt hadopt]
  exact h.unaliased

/-- A symbol with the same import path is referred to by the same name, if it has that name. -/
theorem OwnsName.reference (h : table.OwnsName symbol)
    (hname : other.isExtension = false → other.importPath = symbol.importPath →
      other.importName = symbol.importName) :
    (table.reference other).2.OwnsName symbol := by
  by_cases hpath : other.importPath = symbol.importPath
  · cases hext : other.isExtension with
    | true =>
      unfold ImportTable.reference
      rw [if_pos hext]
      exact ⟨h.owner, h.unaliased⟩
    | false =>
      have hsame : (table.reference other).2 = table := by
        unfold ImportTable.reference
        simp [hext, hpath, hname hext hpath, h.owner, h.unaliased]
      rw [hsame]
      exact h
  · refine h.grow (table.reference_spec other).1 ?_
    intro subject hsubject
    obtain rfl := Option.some.inj hsubject
    exact hpath

theorem OwnsName.references {symbols : List Symbol} (h : table.OwnsName symbol)
    (hnames : ∀ other ∈ symbols, other.isExtension = false →
      other.importPath = symbol.importPath → other.importName = symbol.importName) :
    (symbols.foldl (fun table other => (table.reference other).2) table).OwnsName symbol := by
  induction symbols generalizing table with
  | nil => exact h
  | cons first others ih =>
    obtain ⟨hfirst, hothers⟩ := List.forall_mem_cons.mp hnames
    exact ih (h.reference hfirst) hothers

theorem references_extends (table : ImportTable) (symbols : List Symbol) :
    Extends table (symbols.foldl (fun table other => (table.reference other).2) table) := by
  induction symbols generalizing table with
  | nil => exact Extends.refl table
  | cons first others ih => exact (table.reference_spec first).1.extends.trans (ih _)

end ImportTable
end IconForge

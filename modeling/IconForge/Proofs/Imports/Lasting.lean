import IconForge.Proofs.Imports.SimpleNames

/-!
# Spellings that last

The body of a file is written long after its symbols were referred to, and every call in between may
add an alias. A symbol has settled on a name once that name is its alias, or once it owns its simple
name and has no alias. No call takes the first away. The second only ends with an alias for the path
of the symbol, which a reference does not ask for as long as names have no dots. So what a symbol
was answered stays its spelling through all later calls (`Session.spellings_last`).
-/

namespace IconForge
namespace ImportTable

variable {table grown : ImportTable} {symbol other : Symbol} {name : String}

/-- The import path that a call asks an alias for. -/
def Call.aliasedPath? : Call → Option String
  | assignAlias symbol _ => some symbol.importPath
  | declare _ | adopt _ | reference _ => none

/-- The table spells a symbol with a name, as its alias or as the simple name that it owns. -/
inductive Settled (table : ImportTable) (symbol : Symbol) : String → Prop
  | alias {name : String} (h : table.alias? symbol.importPath = some name) :
      Settled table symbol name
  | simple (h : table.OwnsName symbol) : Settled table symbol symbol.importName

namespace Settled

theorem head_eq (h : table.Settled symbol name) : table.head symbol = name := by
  cases h with
  | «alias» halias => rw [head, halias, Option.getD_some]
  | simple howns => exact howns.head_eq

theorem reference_eq (h : table.Settled symbol name) (hext : symbol.isExtension = false) :
    table.reference symbol = (name, table) := by
  cases h with
  | «alias» halias => simp [reference, hext, halias]
  | simple howns => simp [reference, hext, howns.unaliased, howns.owner]

end Settled

theorem settled_of_adopt (hnone : table.alias? symbol.importPath = none)
    (h : table.adopt symbol = .ok grown) : grown.Settled symbol symbol.importName := by
  refine .simple ⟨(adopt_ok h).2, ?_⟩
  rw [alias?_of_adopt h, hnone]

theorem settled_of_reference (table : ImportTable) (hext : symbol.isExtension = false) :
    (table.reference symbol).2.Settled symbol (table.reference symbol).1 := by
  have byAlias : (table.assignAlias symbol libraryMarker).2.Settled symbol
      (table.assignAlias symbol libraryMarker).1 :=
    .alias (table.assignAlias_spec (.reference symbol) rfl libraryMarker).2
  unfold reference
  simp only [hext, Bool.false_eq_true, ↓reduceIte]
  split
  · next halias => exact .alias halias
  · next hnone =>
    split
    · next howner =>
      split
      · next hpath => exact .simple ⟨by rw [howner, hpath], hnone⟩
      · exact byAlias
    · exact byAlias
    · split
      · exact byAlias
      · exact .simple ⟨owner?_own table _ _, hnone⟩

namespace Session

variable {session : Session}

theorem calls_extends (session : Session) (further : List Call) :
    Extends session.table (further.foldl call session).table := by
  induction further generalizing session with
  | nil => exact Extends.refl session.table
  | cons next others ih => exact (call_grows session next).extends.trans (ih (session.call next))

/-- A call that asks for no alias of the symbol leaves it its simple name. -/
theorem ownsName_call (h : session.table.OwnsName symbol) {next : Call}
    (hdot : '.' ∉ symbol.importName.toList)
    (hdots : ∀ other, next.symbol? = some other → '.' ∉ other.importName.toList)
    (hasks : next.aliasedPath? ≠ some symbol.importPath) :
    (session.call next).table.OwnsName symbol := by
  cases next with
  | declare name => exact h.grow (call_grows session _) nofun
  | adopt other =>
    simp only [call]
    split
    · next hadopt => exact h.adopt hadopt
    · exact h
  | assignAlias other marker =>
    refine h.grow (call_grows session _) fun subject hsubject hpath => hasks ?_
    obtain rfl := Option.some.inj hsubject
    exact congrArg some hpath
  | reference other =>
    refine h.reference fun _ hpath => ?_
    have hnames : Symbol.HaveNamesOfPaths [other, symbol] :=
      Symbol.haveNamesOfPaths_of_no_dots (by simpa using ⟨hdots other rfl, hdot⟩)
    exact hnames other (by simp) symbol (by simp) hpath

theorem settled_call (h : session.table.Settled symbol name) {next : Call}
    (hdot : '.' ∉ symbol.importName.toList)
    (hdots : ∀ other, next.symbol? = some other → '.' ∉ other.importName.toList)
    (hasks : next.aliasedPath? ≠ some symbol.importPath) :
    (session.call next).table.Settled symbol name := by
  cases h with
  | «alias» halias => exact .alias ((call_grows session next).alias? halias)
  | simple howns => exact .simple (ownsName_call howns hdot hdots hasks)

/-- Calls with some symbols, none of them for an alias of this one, leave it its name. -/
theorem settled_calls {further : List Call} (h : session.table.Settled symbol name)
    (hdot : '.' ∉ symbol.importName.toList)
    (hdots : ∀ next ∈ further, ∀ other ∈ next.symbol?, '.' ∉ other.importName.toList)
    (hasks : ∀ next ∈ further, next.aliasedPath? ≠ some symbol.importPath) :
    (further.foldl call session).table.Settled symbol name := by
  induction further generalizing session with
  | nil => exact h
  | cons next others ih =>
    obtain ⟨hdots, hdots'⟩ := List.forall_mem_cons.mp hdots
    obtain ⟨hasks, hasks'⟩ := List.forall_mem_cons.mp hasks
    exact ih (settled_call h hdot hdots hasks) hdots' hasks'

/-- What further calls leave as it is. -/
structure Lasting (session : Session) (further : List Call) : Prop where
  /-- A symbol that takes its simple name keeps it. -/
  adopted : ∀ symbol grown, '.' ∉ symbol.importName.toList →
    session.table.adopt symbol = .ok grown → session.table.alias? symbol.importPath = none →
      (∀ next ∈ further, next.aliasedPath? ≠ some symbol.importPath) →
        (further.foldl call (session.call (.adopt symbol))).table.spelling symbol =
          if symbol.isExtension then symbol.name else symbol.importName ++ symbol.memberSuffix
  /-- A name that the file declares stays the file's, and no symbol is spelled with it. -/
  declared : ∀ name grown, session.table.declare name = .ok grown →
    let later := further.foldl call (session.call (.declare name))
    later.table.owner? name = some .declared ∧
      ∀ symbol ∈ later.registered, symbol.isExtension = false → later.table.head symbol ≠ name
  /-- A symbol keeps the name that it was referred to by, and is referred to by it again. -/
  referenced : ∀ symbol, '.' ∉ symbol.importName.toList → symbol.isExtension = false →
    (∀ next ∈ further, next.aliasedPath? ≠ some symbol.importPath) →
      let answer := (session.table.reference symbol).1
      let later := (further.foldl call (session.call (.reference symbol))).table
      later.spelling symbol = answer ++ symbol.memberSuffix ∧
        later.reference symbol = (answer, later)

/-- After any calls, further calls with symbols whose names have no dots change the spelling of no
symbol that was answered its name, unless one of them asks for an alias of its import path. -/
theorem spellings_last (package : String) (calls further : List Call)
    (hdots : ∀ next ∈ further, ∀ other ∈ next.symbol?, '.' ∉ other.importName.toList) :
    Lasting (after package calls) further := by
  constructor
  case adopted =>
    intro symbol grown hdot hadopt hnone hasks
    have htable : ((after package calls).call (.adopt symbol)).table = grown := by
      simp only [call, hadopt]
    have hsettled : ((after package calls).call (.adopt symbol)).table.Settled symbol
        symbol.importName := by
      rw [htable]
      exact settled_of_adopt hnone hadopt
    split
    · next hext => exact spelling_extension _ hext
    · next hext =>
      rw [spelling_eq _ (Bool.eq_false_of_not_eq_true hext),
        (settled_calls hsettled hdot hdots hasks).head_eq]
  case declared =>
    intro name grown hdeclare later
    have htable : ((after package calls).call (.declare name)).table = grown := by
      simp only [call, hdeclare]
    have howner : later.table.owner? name = some .declared := by
      refine (calls_extends _ further).owner? ?_
      rw [htable]
      exact (declare_ok hdeclare).2
    have hlater : later = after package (calls ++ Call.declare name :: further) := by
      rw [after_append]
      rfl
    refine ⟨howner, fun symbol hmem hext => ?_⟩
    rw [hlater] at hmem howner ⊢
    exact head_ne_of_declared (visibleNames_nodup package _)
      ((after_recorded package _).binds symbol hmem hext) howner
  case referenced =>
    intro symbol hdot hext hasks answer later
    have hsettled : later.Settled symbol answer :=
      settled_calls (settled_of_reference _ hext) hdot hdots hasks
    rw [spelling_eq _ hext, hsettled.head_eq]
    exact ⟨rfl, hsettled.reference_eq hext⟩

theorem spellings_last_set :
    let session := after "icons" [.declare "Folder", .adopt (.topLevel "icons" "List")]
    let further : List Call :=
      [.reference (.topLevel "java.util" "Set"),
        .assignAlias (.topLevel "icons.a" "Set") authorMarker,
        .adopt (.topLevel "icons" "____List")]
    (further.foldl call (session.call (.adopt (.topLevel "icons" "Set")))).table.spelling
        (.topLevel "icons" "Set") = "Set" ∧
      (further.foldl call (session.call (.declare "Set"))).table.owner? "Set" = some .declared ∧
        (further.foldl call (session.call
          (.reference (.topLevel "kotlin.collections" "List")))).table.spelling
            (.topLevel "kotlin.collections" "List") = "____List" := by
  intro session further
  have hlasting : Lasting session further := spellings_last "icons" _ further (by decide)
  refine ⟨?_, ?_, ?_⟩
  · exact hlasting.adopted (.topLevel "icons" "Set") _ (by decide) (by rfl) (by rfl) (by decide)
  · exact (hlasting.declared "Set" _ (by rfl)).1
  · exact (hlasting.referenced (.topLevel "kotlin.collections" "List") (by decide) rfl
      (by decide)).1.trans (by cbv)

end Session
end ImportTable
end IconForge

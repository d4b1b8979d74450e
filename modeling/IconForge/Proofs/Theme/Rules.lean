import IconForge.Proofs.Drawing.Reading
import IconForge.Proofs.Theme.Colors
import IconForge.Theme.Document

/-!
# Rules of themes

A rule decides about the colours whose normal form is its own colour, unless an earlier rule does.
The colour of a rule is the normal form of the literal that it was made from, and the check of a
theme takes the normal form of this once more. So a literal with a second mark before its digits, or
with white space after the mark, is accepted, but the colour of its rule keeps what the first step
leaves and is the normal form of no hexadecimal colour: the rule never decides, though no earlier
one shadows it. No other rule of an accepted theme is like that (`MadeFrom.accepted_rules`).
-/

namespace IconForge

open Color (IsNormal)

/-! ### Rules and the pairs that they are made from -/

def ColorRule.ofPair (pair : String × String) : ColorRule := .ofLiteral pair.1 pair.2

theorem ColorRule.check_eq_ok_iff {rule : ColorRule} :
    rule.check = .ok () ↔ Color.isHex rule.literal = true ∧ isIdentifier rule.token = true := by
  unfold check
  split
  · simp_all
  · split <;> simp_all

namespace Toml

/-- The literal and the token that one element of a theme document gives. -/
def Value.colorPair? (value : Value) : Option (String × String) := do
  let entries ← value.entries?
  return (← entries.required "color" string?, ← entries.required "token" string?)

/-- The literals and tokens that a theme document gives. -/
def Entries.colorPairs? (entries : Entries) : Option (List (String × String)) := do
  (← entries.withDefault "colors" Value.array? []).mapM Value.colorPair?

theorem Value.colorRule?_eq (value : Value) :
    value.colorRule? = value.colorPair?.map .ofPair := by
  cases hentries : value.entries? with
  | none => simp [colorRule?, colorPair?, hentries]
  | some entries =>
    cases hcolor : entries.required "color" string? with
    | none => simp [colorRule?, colorPair?, hentries, hcolor]
    | some color =>
      cases htoken : entries.required "token" string? with
      | none => simp [colorRule?, colorPair?, hentries, hcolor, htoken]
      | some token => simp [colorRule?, colorPair?, hentries, hcolor, htoken, ColorRule.ofPair]

theorem mapM_colorRule? (values : List Value) :
    values.mapM Value.colorRule? =
      (values.mapM Value.colorPair?).map (List.map ColorRule.ofPair) := by
  induction values with
  | nil => rfl
  | cons value others ih =>
    rw [List.mapM_cons, List.mapM_cons, ih, Value.colorRule?_eq]
    cases value.colorPair? with
    | none => rfl
    | some pair =>
      cases others.mapM Value.colorPair? with
      | none => rfl
      | some pairs => rfl

theorem Entries.rules_of_theme? {entries : Entries} {theme : Theme} {pairs : List (String × String)}
    (htheme : entries.theme? = some theme) (hpairs : entries.colorPairs? = some pairs) :
    theme.rules = pairs.map .ofPair := by
  simp only [theme?, Option.bind_eq_bind, Option.bind_eq_some_iff, Option.pure_def,
    Option.some.injEq] at htheme
  obtain ⟨metadata, -, name, -, description, -, values, hvalues, rules, hrules, rfl⟩ := htheme
  simp only [colorPairs?, Option.bind_eq_bind, hvalues, Option.bind_some] at hpairs
  rw [mapM_colorRule?, hpairs, Option.map_some, Option.some.injEq] at hrules
  exact hrules.symm

end Toml

namespace Theme

variable {theme : Theme} {pairs : List (String × String)}

/-- A theme is made from pairs of a literal and a token: they are given, or a document that is read
as the theme has them. -/
inductive MadeFrom (pairs : List (String × String)) : Theme → Prop
  | given : MadeFrom pairs (ofPairs pairs)
  | read {document : String} {entries : Toml.Entries} {theme : Theme} :
    Toml.parse? document = some entries → entries.colorPairs? = some pairs →
      ofDocument document = .ok theme → MadeFrom pairs theme

theorem MadeFrom.rules_eq (h : MadeFrom pairs theme) : theme.rules = pairs.map .ofPair := by
  cases h with
  | given => rfl
  | @read document entries theme hparse hpairs hread =>
    rw [ofDocument, hparse, Option.bind_some] at hread
    cases htheme : entries.theme? with
    | none =>
      rw [htheme] at hread
      cases hread
    | some accepted =>
      simp only [htheme, bind_eq_ok_iff, pure_eq_ok_iff] at hread
      obtain ⟨-, -, rfl⟩ := hread
      exact Toml.Entries.rules_of_theme? htheme hpairs

/-! ### The rule that decides -/

/-- The place of the rule that decides about a colour. -/
def place? (theme : Theme) (color : String) : Option Nat :=
  theme.rules.findIdx? (·.literal = Color.normalize color)

theorem token?_eq (theme : Theme) (color : String) :
    theme.token? color =
      (theme.place? color).bind fun place => theme.rules[place]?.map ColorRule.token := by
  simp only [token?, place?]
  rw [List.find?_eq_bind_findIdx?_getElem?]
  cases theme.rules.findIdx? (·.literal = Color.normalize color) <;> rfl

/-- The rule at a place is for the same colour as one before it. -/
def IsShadowed (rules : List ColorRule) (place : Nat) : Prop :=
  ∃ rule ∈ rules[place]?, ∃ earlier ∈ rules.take place, earlier.literal = rule.literal

instance (rules : List ColorRule) (place : Nat) : Decidable (IsShadowed rules place) :=
  match h : rules[place]? with
  | none => .isFalse (by simp [IsShadowed, h])
  | some rule =>
    decidable_of_iff (∃ earlier ∈ rules.take place, earlier.literal = rule.literal)
      (by simp [IsShadowed, h])

/-- Some colour that drawings may have is decided about by the rule at a place. -/
def IsLive (theme : Theme) (place : Nat) : Prop :=
  ∃ color, Color.isHex color = true ∧ (∀ node, Color.check color node = .ok ()) ∧
    theme.place? color = some place

theorem place?_eq_some_iff {color : String} {place : Nat} :
    theme.place? color = some place ↔
      ∃ rule ∈ theme.rules[place]?,
        rule.literal = Color.normalize color ∧ ¬ IsShadowed theme.rules place := by
  rw [place?, List.findIdx?_eq_some_iff_getElem]
  constructor
  · rintro ⟨hplace, hrule, hearlier⟩
    have hat : theme.rules[place]? = some theme.rules[place] := List.getElem?_eq_getElem hplace
    rw [decide_eq_true_eq] at hrule
    refine ⟨_, hat, hrule, ?_⟩
    rintro ⟨rule, hshadowed, earlier, htake, heq⟩
    cases hat.symm.trans hshadowed
    obtain ⟨j, hj, rfl⟩ := List.mem_take_iff_getElem.mp htake
    exact hearlier j (by omega) (decide_eq_true (heq.trans hrule))
  · rintro ⟨rule, hat, hrule, hshadowed⟩
    obtain ⟨hplace, rfl⟩ := List.getElem?_eq_some_iff.mp hat
    refine ⟨hplace, decide_eq_true hrule, fun j hj hearlier => hshadowed ?_⟩
    have htake : theme.rules[j] ∈ theme.rules.take place :=
      List.mem_take_iff_getElem.mpr ⟨j, by omega, rfl⟩
    exact ⟨_, hat, _, htake, (of_decide_eq_true hearlier).trans hrule.symm⟩

/-- A rule decides about some hexadecimal colour if its own colour is a normal form and no earlier
rule is for it. -/
theorem isLive_iff {place : Nat} :
    theme.IsLive place ↔
      ∃ rule ∈ theme.rules[place]?, IsNormal rule.literal ∧ ¬ IsShadowed theme.rules place := by
  simp only [IsLive, place?_eq_some_iff]
  constructor
  · rintro ⟨color, hhex, -, rule, hat, hrule, hshadowed⟩
    exact ⟨rule, hat, hrule ▸ Color.isHex_iff.mp hhex, hshadowed⟩
  · rintro ⟨rule, hat, hnormal, hshadowed⟩
    exact ⟨rule.literal, hnormal.isHex, fun node => Color.check_eq_ok_iff.mpr hnormal.isHex,
      rule, hat, hnormal.normalize_eq.symm, hshadowed⟩

/-! ### Shadowed rules -/

theorem shadowedAfter_eq (before rules : List ColorRule) {seen : List String}
    (hseen : ∀ literal, literal ∈ seen ↔ ∃ rule ∈ before, rule.literal = literal) :
    shadowedAfter seen rules =
      ((rules.zipIdx before.length).filter fun entry =>
        IsShadowed (before ++ rules) entry.2).map Prod.fst := by
  induction rules generalizing before seen with
  | nil => rfl
  | cons rule rest ih =>
    have hsplit : before ++ rule :: rest = before ++ [rule] ++ rest := by simp
    have hfirst : IsShadowed (before ++ rule :: rest) before.length ↔ rule.literal ∈ seen := by
      simp [IsShadowed, hseen]
    have hrest {seen' : List String}
        (h : ∀ literal, literal ∈ seen' ↔ literal = rule.literal ∨ literal ∈ seen) :
        shadowedAfter seen' rest =
          ((rest.zipIdx (before.length + 1)).filter fun entry =>
            IsShadowed (before ++ rule :: rest) entry.2).map Prod.fst := by
      rw [ih (before ++ [rule]) (by simp [h, hseen, or_comm, eq_comm]), ← hsplit,
        List.length_append, List.length_singleton]
    rw [shadowedAfter, List.zipIdx_cons]
    split
    · next hmem =>
      rw [List.filter_cons_of_pos (by simpa using hfirst.mpr hmem), List.map_cons,
        hrest (by simp [hmem])]
    · next hmem =>
      rw [List.filter_cons_of_neg (by simpa using mt hfirst.mp hmem), hrest (by simp)]

theorem shadowedRules_eq (theme : Theme) :
    theme.shadowedRules =
      (theme.rules.zipIdx.filter fun entry => IsShadowed theme.rules entry.2).map Prod.fst :=
  shadowedAfter_eq [] theme.rules (by simp)

/-! ### Accepted themes -/

theorem check_eq_ok_iff : theme.check = .ok () ↔ ∀ rule ∈ theme.rules, rule.check = .ok () :=
  forM_eq_ok_iff

/-- Every rule is for a colour in normal form, and it decides about some colour unless an earlier
rule is for the same one. -/
structure HasNoDeadRules (theme : Theme) : Prop where
  normal : ∀ rule ∈ theme.rules,
    IsNormal rule.literal ∧ Color.normalize rule.literal = rule.literal
  live : ∀ place < theme.rules.length, ¬ IsShadowed theme.rules place → theme.IsLive place

theorem hasNoDeadRules_iff :
    theme.HasNoDeadRules ↔ ∀ rule ∈ theme.rules, IsNormal rule.literal := by
  constructor
  · intro h rule hrule
    exact (h.normal rule hrule).1
  · intro h
    constructor
    · intro rule hrule
      exact ⟨h rule hrule, (h rule hrule).normalize_eq⟩
    · intro place hplace hshadowed
      have hat : theme.rules[place]? = some theme.rules[place] := List.getElem?_eq_getElem hplace
      exact isLive_iff.mpr ⟨_, hat, h _ (List.getElem_mem hplace), hshadowed⟩

/-- A theme is accepted if the literals are hexadecimal once their normal form has been taken; its
rules are not dead if the literals are so as they are written. Each rule decides about some colour
exactly if its own literal is hexadecimal and it is not shadowed. -/
theorem MadeFrom.accepted_rules (h : MadeFrom pairs theme) :
    (theme.check = .ok () ↔
      ∀ pair ∈ pairs, Color.isHex (Color.normalize pair.1) = true ∧ isIdentifier pair.2 = true) ∧
    (theme.HasNoDeadRules ↔ ∀ pair ∈ pairs, Color.isHex pair.1 = true) ∧
    (∀ place, theme.IsLive place ↔
      ∃ pair ∈ pairs[place]?, Color.isHex pair.1 = true ∧ ¬ IsShadowed theme.rules place) ∧
    theme.shadowedRules =
      (theme.rules.zipIdx.filter fun entry => IsShadowed theme.rules entry.2).map Prod.fst ∧
    ∀ color, theme.token? color =
      (theme.place? color).bind fun place => theme.rules[place]?.map ColorRule.token := by
  refine ⟨?_, ?_, ?_, theme.shadowedRules_eq, theme.token?_eq⟩
  · simp only [Theme.check_eq_ok_iff, h.rules_eq, List.forall_mem_map, ColorRule.check_eq_ok_iff]
    rfl
  · simp only [hasNoDeadRules_iff, h.rules_eq, List.forall_mem_map, Color.isHex_iff]
    rfl
  · intro place
    rw [isLive_iff]
    simp only [h.rules_eq, List.getElem?_map, Option.mem_def, Option.map_eq_some_iff,
      Color.isHex_iff]
    constructor
    · rintro ⟨-, ⟨pair, hpair, rfl⟩, hnormal, hshadowed⟩
      exact ⟨pair, hpair, hnormal, hshadowed⟩
    · rintro ⟨pair, hpair, hnormal, hshadowed⟩
      exact ⟨_, ⟨pair, hpair, rfl⟩, hnormal, hshadowed⟩

/-- Three pairs that are accepted: the literal of the first has a mark too many, and the last is for
the colour of the second. -/
def somePairs : List (String × String) :=
  [("##FF0000", "primary"), (" #00ff00", "accent"), ("0x00FF00", "other")]

def someDocument : String :=
  "[[colors]]\ncolor = '##FF0000'\ntoken = 'primary'\n" ++
  "[[colors]]\ncolor = ' #00ff00'\ntoken = 'accent'\n" ++
  "[[colors]]\ncolor = '0x00FF00'\ntoken = 'other'\n"

/-- Of these pairs, only the second gives a rule that decides, though only the last is shadowed. -/
theorem someDocument_accepted_rules :
    MadeFrom somePairs (ofPairs somePairs) ∧ (ofPairs somePairs).check = .ok () ∧
      ¬ (ofPairs somePairs).HasNoDeadRules ∧
      ¬ (ofPairs somePairs).IsLive 0 ∧ (ofPairs somePairs).IsLive 1 ∧
      (ofPairs somePairs).shadowedRules = [⟨"00FF00", "other"⟩] := by
  obtain ⟨entries, hparse, hpairs⟩ : ∃ entries, Toml.parse? someDocument = some entries ∧
      entries.colorPairs? = some somePairs :=
    Option.bind_eq_some_iff.mp (by decide +kernel)
  have hread : ofDocument someDocument = .ok (ofPairs somePairs) := by decide +kernel
  have h : MadeFrom somePairs (ofPairs somePairs) := .read hparse hpairs hread
  obtain ⟨hcheck, hdead, hlive, hshadowed, -⟩ := h.accepted_rules
  refine ⟨h, hcheck.mpr (by decide), mt hdead.mp (by decide), ?_, ?_, ?_⟩
  · rw [hlive]
    decide
  · rw [hlive]
    exact ⟨_, rfl, by decide⟩
  · rw [hshadowed]
    decide

/-- A theme is accepted whose only rule is dead: its colour is written with a mark, and no
hexadecimal colour has a normal form with one. -/
theorem doublyMarked_is_dead :
    let theme := ofPairs [("##FF0000", "primary")]
    theme.check = .ok () ∧ theme.rules = [⟨"#FF0000", "primary"⟩] ∧ theme.shadowedRules = [] ∧
      ¬ IsNormal "#FF0000" ∧ Color.normalize "#FF0000" = "FF0000" ∧
      ∀ color, Color.isHex color = true →
        theme.place? color = none ∧ theme.token? color = none := by
  intro theme
  have hnormal : ¬ IsNormal "#FF0000" := by decide
  have hrules : theme.rules = [⟨"#FF0000", "primary"⟩] := rfl
  refine ⟨check_eq_ok_iff.mpr (by decide), hrules, rfl, hnormal, by decide, ?_⟩
  intro color hhex
  have hdifferent : "#FF0000" ≠ Color.normalize color :=
    fun heq => hnormal (heq ▸ Color.isHex_iff.mp hhex)
  have hplace : theme.place? color = none := by
    rw [place?, hrules, List.findIdx?_eq_none_iff]
    simpa using hdifferent
  exact ⟨hplace, by rw [token?_eq, hplace, Option.bind_none]⟩

end Theme
end IconForge

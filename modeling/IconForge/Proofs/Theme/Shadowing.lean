import IconForge.Proofs.Theme.Rules

/-!
# Rules that are shadowed and rules that are left

The rules of a theme fall into those that an earlier one for the same colour shadows and those that
are left: the first for each colour that occurs. The rules that are left are for different colours,
so once the shadowed ones are taken out, their order makes no difference. Where shadowed rules stand
among them it may: two themes decide alike if and only if they are left with the same rules
(`token?_eq_iff`), and a rule that moves behind one that it shadowed is left no longer
(`swapped_decide_otherwise`).

The colour of a rule is the normal form of its literal, and a colour is looked up by its normal form
as it is written. So a literal finds the first rule whose literal has the same normal form, although
the normal form of a normal form may be another one.
-/

namespace IconForge
namespace Theme

variable {rule : ColorRule} {rules : List ColorRule}

/-! ### The rules that are left -/

/-- The rules that no earlier rule shadows, in order. -/
def unshadowed (rules : List ColorRule) : List ColorRule :=
  (rules.zipIdx.filter fun entry => ¬ IsShadowed rules entry.2).map Prod.fst

theorem not_isShadowed_zero (rules : List ColorRule) : ¬ IsShadowed rules 0 := by
  simp [IsShadowed]

theorem isShadowed_succ {place : Nat} (first : ColorRule) (h : rules[place]? = some rule) :
    IsShadowed (first :: rules) (place + 1) ↔
      rule.literal = first.literal ∨ IsShadowed rules place := by
  simp [IsShadowed, h, eq_comm]

/-- The first rule is left, and of the others those that are left among themselves and are for
another colour. -/
theorem unshadowed_cons (first : ColorRule) (others : List ColorRule) :
    unshadowed (first :: others) =
      first :: (unshadowed others).filter fun rule => rule.literal ≠ first.literal := by
  have hothers : ∀ entry ∈ others.zipIdx,
      decide (¬ IsShadowed (first :: others) (entry.2 + 1)) =
        (decide (entry.1.literal ≠ first.literal) && decide (¬ IsShadowed others entry.2)) := by
    intro entry hentry
    rw [← Bool.decide_and, decide_eq_decide,
      isShadowed_succ first (List.mem_zipIdx_iff_getElem?.mp hentry), not_or]
  have hplaces : others.zipIdx 1 = others.zipIdx.map fun entry => (entry.1, entry.2 + 1) :=
    List.zipIdx_succ
  rw [unshadowed, List.zipIdx_cons, List.filter_cons_of_pos (by simpa using not_isShadowed_zero _),
    List.map_cons, hplaces, List.filter_map, List.map_map, unshadowed, List.filter_map,
    List.filter_filter]
  simp only [Function.comp_def, List.filter_congr hothers]

theorem find?_unshadowed (rules : List ColorRule) (color : String) :
    (unshadowed rules).find? (·.literal = color) = rules.find? (·.literal = color) := by
  induction rules with
  | nil => rfl
  | cons first others ih =>
    rw [unshadowed_cons, List.find?_cons, List.find?_cons]
    split
    · rfl
    · next hfirst =>
      rw [List.find?_filter, ← ih]
      refine List.find?_congr fun rule _ => ?_
      rw [decide_eq_false_iff_not] at hfirst
      rw [Bool.eq_iff_iff]
      simp only [decide_eq_true_eq, and_iff_right_iff_imp]
      rintro rfl heq
      exact hfirst heq.symm

theorem nodup_unshadowed (rules : List ColorRule) :
    ((unshadowed rules).map ColorRule.literal).Nodup := by
  induction rules with
  | nil => exact List.nodup_nil
  | cons first others ih =>
    rw [unshadowed_cons, List.map_cons, List.nodup_cons]
    constructor
    · simp
    · exact ih.sublist (List.filter_sublist.map _)

theorem mem_literals_unshadowed {color : String} :
    color ∈ (unshadowed rules).map ColorRule.literal ↔ color ∈ rules.map ColorRule.literal := by
  have h := congrArg Option.isSome (find?_unshadowed rules color)
  rw [Bool.eq_iff_iff, List.find?_isSome, List.find?_isSome] at h
  simpa using h

theorem unshadowed_of_nodup (h : (rules.map ColorRule.literal).Nodup) :
    unshadowed rules = rules := by
  induction rules with
  | nil => rfl
  | cons first others ih =>
    rw [List.map_cons, List.nodup_cons] at h
    rw [unshadowed_cons, ih h.2, List.filter_eq_self.mpr]
    intro rule hrule
    have hne : rule.literal ≠ first.literal := fun heq => h.1 (heq ▸ List.mem_map_of_mem hrule)
    exact decide_eq_true hne

theorem perm_unshadowed (theme : Theme) :
    (theme.shadowedRules ++ unshadowed theme.rules).Perm theme.rules := by
  have hperm := (List.filter_append_perm (fun entry => decide (IsShadowed theme.rules entry.2))
    theme.rules.zipIdx).map Prod.fst
  rw [List.map_append, List.zipIdx_map_fst] at hperm
  rw [shadowedRules_eq, unshadowed]
  simpa only [decide_not] using hperm

/-! ### The order of the rules -/

theorem find?_eq_of_perm {first second : List ColorRule} (h : first.Perm second)
    (hnodup : (first.map ColorRule.literal).Nodup) (color : String) :
    first.find? (·.literal = color) = second.find? (·.literal = color) := by
  induction h with
  | nil => rfl
  | cons rule _ ih =>
    rw [List.find?_cons, List.find?_cons, ih (List.nodup_cons.mp hnodup).2]
  | swap rule other rest =>
    have hne : other.literal ≠ rule.literal := by
      intro heq
      exact (List.nodup_cons.mp hnodup).1 (heq ▸ List.mem_cons_self)
    by_cases hrule : rule.literal = color
    · have hother : other.literal ≠ color := hrule ▸ hne
      simp [hrule, hother]
    · simp [List.find?_cons, hrule]
  | trans h _ ih ih' =>
    exact (ih hnodup).trans (ih' ((h.map ColorRule.literal).nodup_iff.mp hnodup))

theorem token?_eq_of_perm {first second : Theme}
    (h : (unshadowed first.rules).Perm (unshadowed second.rules)) (color : String) :
    first.token? color = second.token? color := by
  rw [token?, token?, ← find?_unshadowed first.rules, ← find?_unshadowed second.rules,
    find?_eq_of_perm h (nodup_unshadowed first.rules)]

/-- A rule that a colour can find is left if and only if the colour finds it. -/
theorem mem_unshadowed_iff {theme : Theme} {color : String}
    (h : Color.normalize color = rule.literal) :
    rule ∈ unshadowed theme.rules ↔ theme.token? color = some rule.token := by
  rw [token?, h, ← find?_unshadowed, Option.map_eq_some_iff]
  constructor
  · intro hmem
    have hsome : ((unshadowed theme.rules).find? (·.literal = rule.literal)).isSome = true :=
      List.find?_isSome.mpr ⟨rule, hmem, decide_eq_true rfl⟩
    obtain ⟨other, hother⟩ := Option.isSome_iff_exists.mp hsome
    have hliteral : other.literal = rule.literal := by simpa using List.find?_some hother
    have heq := List.inj_on_of_nodup_map (nodup_unshadowed theme.rules)
      (List.mem_of_find?_eq_some hother) hmem hliteral
    exact ⟨other, hother, congrArg ColorRule.token heq⟩
  · rintro ⟨other, hother, htoken⟩
    have hliteral : other.literal = rule.literal := by simpa using List.find?_some hother
    have heq : other = rule := by
      cases other
      cases rule
      simp_all
    exact heq ▸ List.mem_of_find?_eq_some hother

/-- Themes decide alike if and only if they are left with the same rules for the colours that can be
looked up. -/
theorem token?_eq_iff {first second : Theme} :
    (∀ color, first.token? color = second.token? color) ↔
      ∀ rule color, Color.normalize color = rule.literal →
        (rule ∈ unshadowed first.rules ↔ rule ∈ unshadowed second.rules) := by
  constructor
  · intro h rule color hcolor
    rw [mem_unshadowed_iff hcolor, mem_unshadowed_iff hcolor, h]
  · intro h color
    ext token
    have hrule := h ⟨Color.normalize color, token⟩ color rfl
    rwa [mem_unshadowed_iff rfl, mem_unshadowed_iff rfl] at hrule

/-- The rule that a literal finds is the first whose literal has the same normal form. -/
theorem exists_first_of_mem {pairs : List (String × String)} {pair : String × String}
    (h : pair ∈ pairs) {color : String} (hcase : Color.SameButCase color pair.1) :
    ∃ before first after, pairs = before ++ first :: after ∧
      Color.normalize first.1 = Color.normalize pair.1 ∧
        (∀ earlier ∈ before, Color.normalize earlier.1 ≠ Color.normalize pair.1) ∧
          (ofPairs pairs).token? color = some first.2 := by
  have hsome : (pairs.find? fun other =>
      Color.normalize other.1 = Color.normalize pair.1).isSome = true :=
    List.find?_isSome.mpr ⟨pair, h, decide_eq_true rfl⟩
  obtain ⟨first, hfirst⟩ := Option.isSome_iff_exists.mp hsome
  have htoken : (ofPairs pairs).token? color = some first.2 := by
    simp only [token?, hcase.normalize_eq, ofPairs, List.find?_map, Function.comp_def,
      ColorRule.ofLiteral, hfirst, Option.map_some]
  obtain ⟨heq, before, after, hpairs, hbefore⟩ := List.find?_eq_some_iff_append.mp hfirst
  refine ⟨before, first, after, hpairs, of_decide_eq_true heq, ?_, htoken⟩
  intro earlier hearlier
  simpa using hbefore earlier hearlier

/-- How the rules of a theme fall into those that are shadowed and those that are left. -/
structure IsSplit (theme : Theme) : Prop where
  /-- The shadowed rules are those for whose colour there is an earlier one, in order. -/
  shadowed_eq : theme.shadowedRules =
    (theme.rules.zipIdx.filter fun entry => IsShadowed theme.rules entry.2).map Prod.fst
  perm : (theme.shadowedRules ++ unshadowed theme.rules).Perm theme.rules
  /-- The rules that are left are for different colours. -/
  nodup : ((unshadowed theme.rules).map ColorRule.literal).Nodup
  /-- There is one for every colour that occurs. -/
  covers : ∀ color, color ∈ (unshadowed theme.rules).map ColorRule.literal ↔
    color ∈ theme.rules.map ColorRule.literal
  /-- The shadowed rules can be taken out. -/
  without_shadowed : ∀ color,
    { theme with rules := unshadowed theme.rules }.token? color = theme.token? color
  /-- The rules that are left can then stand in any order. -/
  reordered : ∀ rules, rules.Perm (unshadowed theme.rules) → ∀ color,
    { theme with rules }.token? color = theme.token? color
  /-- Shadowed rules make no difference, wherever they stand, as long as the same rules are left. -/
  same_left : ∀ other : Theme, (unshadowed other.rules).Perm (unshadowed theme.rules) → ∀ color,
    other.token? color = theme.token? color
  /-- It does make a difference if other rules are left for a colour that can be looked up. -/
  same_left_iff : ∀ other : Theme, (∀ color, other.token? color = theme.token? color) ↔
    ∀ rule color, Color.normalize color = rule.literal →
      (rule ∈ unshadowed other.rules ↔ rule ∈ unshadowed theme.rules)

/-- The first rule for each colour decides. The rules that are shadowed can be taken out, and the
order of those that are left then makes no difference. A literal from which a rule was made, whatever
the case of its letters, finds the first rule whose literal has the same normal form. -/
theorem firstRules_decide (theme : Theme) (pairs : List (String × String)) :
    theme.IsSplit ∧
      ∀ pair ∈ pairs, ∀ color, Color.SameButCase color pair.1 →
        ∃ before first after, pairs = before ++ first :: after ∧
          Color.normalize first.1 = Color.normalize pair.1 ∧
            (∀ earlier ∈ before, Color.normalize earlier.1 ≠ Color.normalize pair.1) ∧
              (ofPairs pairs).token? color = some first.2 := by
  have hnodup := nodup_unshadowed theme.rules
  have hreordered (rules : List ColorRule) (h : rules.Perm (unshadowed theme.rules))
      (color : String) : { theme with rules }.token? color = theme.token? color := by
    refine token?_eq_of_perm ?_ color
    rwa [unshadowed_of_nodup ((h.map ColorRule.literal).nodup_iff.mpr hnodup)]
  refine ⟨?_, fun pair hpair color hcase => exists_first_of_mem hpair hcase⟩
  exact {
    shadowed_eq := theme.shadowedRules_eq
    perm := theme.perm_unshadowed
    nodup := hnodup
    covers := fun _ => mem_literals_unshadowed
    without_shadowed := hreordered _ (.refl _)
    reordered := hreordered
    same_left := fun _ => token?_eq_of_perm
    same_left_iff := fun _ => token?_eq_iff }

/-- Pairs for three colours, one of which has a mark in its normal form. -/
def repeatedPairs : List (String × String) :=
  [("##ff0000", "alarm"), (" 0xff0000", "primary"), ("00ff00", "accent"), ("#FF0000", "other"),
    ("FF0000", "primary"), ("##Ff0000", "late")]

theorem repeatedPairs_decide :
    let theme := ofPairs repeatedPairs
    let left : List ColorRule :=
      [⟨"#FF0000", "alarm"⟩, ⟨"FF0000", "primary"⟩, ⟨"00FF00", "accent"⟩]
    let shadowed : List ColorRule :=
      [⟨"FF0000", "other"⟩, ⟨"FF0000", "primary"⟩, ⟨"#FF0000", "late"⟩]
    theme.shadowedRules = shadowed ∧
      (∀ color, { theme with rules := left.reverse }.token? color = theme.token? color) ∧
        (∀ color, { theme with rules := left.reverse ++ shadowed }.token? color =
          theme.token? color) ∧
          ("##Ff0000", "late") ∈ repeatedPairs ∧ Color.SameButCase "##fF0000" "##Ff0000" ∧
            ∃ before first after, repeatedPairs = before ++ first :: after ∧
              Color.normalize first.1 = "#FF0000" ∧
                (∀ earlier ∈ before, Color.normalize earlier.1 ≠ "#FF0000") ∧
                  theme.token? "##fF0000" = some first.2 ∧ first.2 = "alarm" := by
  intro theme left shadowed
  obtain ⟨hsplit, hpairs⟩ := firstRules_decide theme repeatedPairs
  have hmem : ("##Ff0000", "late") ∈ repeatedPairs := by decide
  have hcase : Color.SameButCase "##fF0000" "##Ff0000" := by decide
  have hfound : theme.token? "##fF0000" = some "alarm" := by decide +kernel
  obtain ⟨before, first, after, heq, hfirst, hbefore, htoken⟩ := hpairs _ hmem _ hcase
  refine ⟨?_, hsplit.reordered left.reverse (by decide), ?_, hmem, hcase,
    before, first, after, heq, hfirst, hbefore, htoken, ?_⟩
  · rw [hsplit.shadowed_eq]
    decide
  · exact hsplit.same_left { theme with rules := left.reverse ++ shadowed } (by decide)
  · exact Option.some.inj (htoken.symm.trans hfound)

/-- Two rules that are left change places around the one that is shadowed. -/
theorem swapped_decide_otherwise :
    let first : ColorRule := ⟨"FF0000", "a"⟩
    let shadowed : ColorRule := ⟨"FF0000", "b"⟩
    let last : ColorRule := ⟨"00FF00", "c"⟩
    let theme := ofPairs [("FF0000", "a"), ("FF0000", "b"), ("00FF00", "c")]
    let swapped := ofPairs [("00FF00", "c"), ("FF0000", "b"), ("FF0000", "a")]
    theme.rules = [first, shadowed, last] ∧ theme.shadowedRules = [shadowed] ∧
      unshadowed theme.rules = [first, last] ∧ swapped.rules = [last, shadowed, first] ∧
        theme.token? "FF0000" = some "a" ∧ swapped.token? "FF0000" = some "b" := by
  intro first shadowed last theme swapped
  refine ⟨by decide +kernel, by decide +kernel, by decide +kernel, by decide +kernel, ?_, ?_⟩
  · decide +kernel
  · decide +kernel

end Theme
end IconForge

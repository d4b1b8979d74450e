import Mathlib

/-!
# Self-delimiting codes

A code recovers a view of what it encodes if the view and the rest of a text can be told from the
text that begins with the code, whatever the rest is. Such codes can be put one after another, and
repeated as long as what follows begins differently.
-/

namespace IconForge

variable {α β γ δ ε : Type}

/-- Texts that begin with the codes of valid objects are equal only if the views of these objects
and the rests are. -/
def Recovers (valid : α → Prop) (code : α → List β) (view : α → γ) : Prop :=
  ∀ ⦃a b : α⦄, valid a → valid b → ∀ ⦃r s : List β⦄, code a ++ r = code b ++ s →
    view a = view b ∧ r = s

namespace Recovers

variable {valid : α → Prop} {code : α → List β} {view : α → γ}

theorem map (h : Recovers valid code view) {f : β → δ} (hf : Function.Injective f) :
    Recovers valid (fun a => (code a).map f) view := by
  have hleading : ∀ ⦃a b⦄, valid a → valid b → ∀ ⦃r s last : List δ⦄,
      (code b).map f = (code a).map f ++ last → r = last ++ s → view a = view b ∧ r = s := by
    intro a b ha hb r s last hcode hrest
    obtain ⟨first, others, hsplit, hfirst, rfl⟩ := List.map_eq_append_iff.mp hcode
    have hcodes : code a ++ others = code b ++ [] := by
      rw [hsplit, (hf.list_map) hfirst, List.append_nil]
    obtain ⟨hview, rfl⟩ := h ha hb hcodes
    exact ⟨hview, hrest⟩
  intro a b ha hb r s heq
  rcases List.append_eq_append_iff.mp heq with ⟨last, hcode, hrest⟩ | ⟨last, hcode, hrest⟩
  · exact hleading ha hb hcode hrest
  · obtain ⟨hview, hrests⟩ := hleading hb ha hcode hrest
    exact ⟨hview.symm, hrests.symm⟩

/-- Repetition, as long as nothing that follows begins with another code. -/
theorem flatMap (h : Recovers valid code view) {as bs : List α} (has : ∀ a ∈ as, valid a)
    (hbs : ∀ b ∈ bs, valid b) {r s : List β} (hr : ∀ b, valid b → ¬ code b <+: r)
    (hs : ∀ a, valid a → ¬ code a <+: s) (heq : as.flatMap code ++ r = bs.flatMap code ++ s) :
    as.map view = bs.map view ∧ r = s := by
  induction as generalizing bs with
  | nil =>
    cases bs with
    | nil => exact ⟨rfl, heq⟩
    | cons b others =>
      rw [List.flatMap_nil, List.nil_append, List.flatMap_cons, List.append_assoc] at heq
      exact absurd (heq ▸ List.prefix_append _ _) (hr b (hbs b List.mem_cons_self))
  | cons a as ih =>
    obtain ⟨ha, has⟩ := List.forall_mem_cons.mp has
    cases bs with
    | nil =>
      rw [List.flatMap_nil, List.nil_append, List.flatMap_cons, List.append_assoc] at heq
      exact absurd (heq ▸ List.prefix_append _ _) (hs a ha)
    | cons b bs =>
      obtain ⟨hb, hbs⟩ := List.forall_mem_cons.mp hbs
      rw [List.flatMap_cons, List.flatMap_cons, List.append_assoc, List.append_assoc] at heq
      obtain ⟨hfirst, hothers⟩ := h ha hb heq
      obtain ⟨hviews, hrests⟩ := ih has hbs hothers
      exact ⟨by rw [List.map_cons, List.map_cons, hfirst, hviews], hrests⟩

end Recovers

/-- A part that may be missing: a mark and a code, or nothing. -/
def optionalCode (mark : List β) (code : α → List β) : Option α → List β
  | some a => mark ++ code a
  | none => []

theorem Recovers.optional {valid : α → Prop} {code : α → List β} {view : α → γ}
    (h : Recovers valid code view) {mark : List β} {a b : Option α} (ha : ∀ x ∈ a, valid x)
    (hb : ∀ x ∈ b, valid x) {r s : List β} (hr : ¬ mark <+: r) (hs : ¬ mark <+: s)
    (heq : optionalCode mark code a ++ r = optionalCode mark code b ++ s) :
    a.map view = b.map view ∧ r = s := by
  cases a with
  | none =>
    cases b with
    | none => exact ⟨rfl, heq⟩
    | some y =>
      rw [optionalCode, optionalCode, List.nil_append, List.append_assoc] at heq
      exact absurd (heq ▸ List.prefix_append _ _) hr
  | some x =>
    cases b with
    | none =>
      rw [optionalCode, optionalCode, List.nil_append, List.append_assoc] at heq
      exact absurd (heq ▸ List.prefix_append _ _) hs
    | some y =>
      rw [optionalCode, optionalCode, List.append_assoc, List.append_assoc] at heq
      obtain ⟨hview, hrest⟩ := h (ha x rfl) (hb y rfl) (List.append_cancel_left heq)
      exact ⟨by rw [Option.map_some, Option.map_some, hview], hrest⟩

/-- Neither of two texts begins the other one. -/
def Apart (first second : List β) : Prop := ¬ first <+: second ∧ ¬ second <+: first

instance [DecidableEq β] (first second : List β) : Decidable (Apart first second) :=
  inferInstanceAs (Decidable (_ ∧ _))

namespace Apart

variable {mark first rest : List β}

theorem not_prefix_append (h : Apart mark first) (rest : List β) : ¬ mark <+: first ++ rest := by
  intro hmark
  rcases List.prefix_or_prefix_of_prefix hmark (List.prefix_append first rest) with h' | h'
  · exact h.1 h'
  · exact h.2 h'

theorem not_prefix_optionalCode (h : Apart mark first) (code : α → List β) (a : Option α)
    (hrest : ¬ mark <+: rest) : ¬ mark <+: optionalCode first code a ++ rest := by
  cases a with
  | none => exact hrest
  | some x =>
    rw [optionalCode, List.append_assoc]
    exact h.not_prefix_append _

end Apart

theorem append_cons_inj {mark : β} {first second rest others : List β} (hfirst : mark ∉ first)
    (hsecond : mark ∉ second) (h : first ++ mark :: rest = second ++ mark :: others) :
    first = second ∧ rest = others := by
  induction first generalizing second with
  | nil =>
    cases second with
    | nil => exact ⟨rfl, (List.cons.inj h).2⟩
    | cons c second =>
      obtain ⟨rfl, -⟩ := List.cons.inj h
      exact absurd List.mem_cons_self hsecond
  | cons c first ih =>
    rw [List.mem_cons, not_or] at hfirst
    cases second with
    | nil => exact absurd (List.cons.inj h).1.symm hfirst.1
    | cons c' second =>
      rw [List.mem_cons, not_or] at hsecond
      obtain ⟨rfl, htail⟩ := List.cons.inj h
      obtain ⟨rfl, hrest⟩ := ih hfirst.2 hsecond.2 htail
      exact ⟨rfl, hrest⟩

end IconForge

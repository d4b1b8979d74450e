import Mathlib

/-!
# Computations that succeed

When a computation that may fail answers a value, and when an error, in terms of the computations
that it is made of.
-/

namespace IconForge

variable {ε δ α β : Type}

@[simp] theorem bind_eq_ok_iff {first : Except ε α} {next : α → Except ε β} {result : β} :
    (first >>= next) = .ok result ↔ ∃ value, first = .ok value ∧ next value = .ok result := by
  cases first with
  | error e => simp [bind, Except.bind]
  | ok value => simp [bind, Except.bind]

theorem bind_eq_error_iff {first : Except ε α} {next : α → Except ε β} {e : ε} :
    (first >>= next) = .error e ↔
      first = .error e ∨ ∃ value, first = .ok value ∧ next value = .error e := by
  cases first with
  | error e' => simp [bind, Except.bind]
  | ok value => simp [bind, Except.bind]

@[simp] theorem pure_eq_ok_iff {value result : α} :
    (pure value : Except ε α) = .ok result ↔ value = result := by
  simp [pure, Except.pure]

@[simp] theorem pure_ne_error {value : α} {e : ε} : (pure value : Except ε α) ≠ .error e := nofun

theorem map_eq_ok_iff {f : α → β} {first : Except ε α} {result : β} :
    f <$> first = .ok result ↔ ∃ value, first = .ok value ∧ f value = result := by
  cases first with
  | error e => simp
  | ok value => simp

@[simp] theorem mapError_eq_ok_iff {first : Except ε α} {describe : ε → δ} {result : α} :
    first.mapError describe = .ok result ↔ first = .ok result := by
  cases first with
  | error e => simp [Except.mapError]
  | ok value => simp [Except.mapError]

theorem mapError_eq_error_iff {first : Except ε α} {describe : ε → δ} {e : δ} :
    first.mapError describe = .error e ↔ ∃ cause, first = .error cause ∧ describe cause = e := by
  cases first with
  | error cause => simp [Except.mapError]
  | ok value => simp [Except.mapError]

def failure? : Except ε α → Option ε
  | .error e => some e
  | .ok _ => none

@[simp] theorem failure?_eq_some_iff {first : Except ε α} {e : ε} :
    failure? first = some e ↔ first = .error e := by
  cases first <;> simp [failure?]

@[simp] theorem failure?_eq_none_iff {first : Except ε α} :
    failure? first = none ↔ ∃ value, first = .ok value := by
  cases first <;> simp [failure?]

theorem failure?_map (f : α → β) (first : Except ε α) :
    failure? (f <$> first) = failure? first := by
  cases first <;> rfl

/-- Of two computations one after the other, the first that fails gives the error. -/
theorem failure?_bind_bind (first : Except ε α) (second : Except ε β) (join : α → β → δ) :
    failure? (first >>= fun a => second >>= fun b => pure (join a b)) =
      (failure? first).or (failure? second) := by
  cases first with
  | error e => rfl
  | ok a => cases second <;> rfl

theorem exists_eq_ok_of_toBool {first : Except ε α} (h : first.toBool = true) :
    ∃ value, first = .ok value := by
  cases first with
  | error e => cases h
  | ok value => exact ⟨value, rfl⟩

end IconForge

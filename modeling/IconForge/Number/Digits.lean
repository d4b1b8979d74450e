/-!
# Digits

The whole number that digits denote. Neighbouring digits are joined to digits of the squared base
until one is left, so that a numeral of any length takes few large products. `numberOfDigits_eq`
says that this is the sum of the digits weighted by the powers of the base.
-/

namespace IconForge

/-! Powers are the built-in ones, whatever algebraic structures are in scope. -/
attribute [local instance (2000)] instPowNat

/-- Neighbouring digits joined to digits of the squared base; the least digit comes first. -/
def joinDigits (base : Nat) : List Nat → List Nat
  | low :: high :: rest => (low + base * high) :: joinDigits base rest
  | rest => rest

/-- The number that digits denote, the least one first, after at most `steps` joinings. -/
def joinedNumber : (steps base : Nat) → List Nat → Nat
  | _, _, [] => 0
  | _, _, [digit] => digit
  | 0, _, digit :: _ => digit
  | steps + 1, base, digits => joinedNumber steps (base * base) (joinDigits base digits)

/-- The number that digits of a base denote, the least digit first. -/
def numberOfDigits (base : Nat) (digits : List Nat) : Nat :=
  joinedNumber digits.length base digits

theorem foldr_joinDigits (base : Nat) (digits : List Nat) :
    (joinDigits base digits).foldr (fun digit value => digit + base * base * value) 0 =
      digits.foldr (fun digit value => digit + base * value) 0 := by
  fun_induction joinDigits base digits with
  | case1 low high rest ih =>
    rw [List.foldr_cons, ih, List.foldr_cons, List.foldr_cons, Nat.mul_add, Nat.mul_assoc,
      Nat.add_assoc]
  | case2 rest short =>
    match rest, short with
    | [], _ => rfl
    | [_], _ => rfl
    | low :: high :: others, short => exact absurd rfl (short low high others)

theorem length_joinDigits_le (base : Nat) (digits : List Nat) :
    2 * (joinDigits base digits).length ≤ digits.length + 1 := by
  fun_induction joinDigits base digits with
  | case1 low high rest ih =>
    simp only [List.length_cons]
    omega
  | case2 rest short =>
    match rest, short with
    | [], _ => exact Nat.zero_le _
    | [_], _ => exact Nat.le_refl _
    | low :: high :: others, short => exact absurd rfl (short low high others)

theorem joinedNumber_eq {steps base : Nat} {digits : List Nat} (h : digits.length ≤ 2 ^ steps) :
    joinedNumber steps base digits =
      digits.foldr (fun digit value => digit + base * value) 0 := by
  fun_induction joinedNumber steps base digits with
  | case1 => rfl
  | case2 => rfl
  | case3 base digit rest long =>
    match rest, h, long with
    | [], _, _ => rfl
    | _ :: _, h, _ => simp at h
  | case4 steps base digits _ _ ih =>
    rw [ih, foldr_joinDigits]
    have joined := length_joinDigits_le base digits
    rw [Nat.pow_succ] at h
    omega

/-- A number is the sum of its digits weighted by the powers of the base. -/
theorem numberOfDigits_eq (base : Nat) (digits : List Nat) :
    numberOfDigits base digits =
      digits.foldr (fun digit value => digit + base * value) 0 :=
  joinedNumber_eq (Nat.le_of_lt digits.length.lt_two_pow_self)

/-- The whole number that a list of decimal digits denotes, the leading digit first. -/
def digitsValue (digits : List Char) : Nat :=
  numberOfDigits 10 (digits.reverse.map fun digit => digit.toNat - '0'.toNat)

/-- The decimal digits of a whole number, the leading digit first. -/
def digitsOf (n : Nat) : List Char := Nat.toDigits 10 n

end IconForge

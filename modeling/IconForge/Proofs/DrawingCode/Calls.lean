import IconForge.DrawingCode.Call
import IconForge.Proofs.Drawing.Contents
import IconForge.Proofs.Number.Literal
import IconForge.Proofs.Text.Recovery

/-!
# Calls tell their commands

The text of a call tells the command that it draws, if the numbers of the command are finite
(`callText_inj`): the function is what stands before the bracket, its arguments are told one after
another, and no two commands are the same call.
-/

namespace IconForge

/-! ### Literals -/

theorem Binary.toList_literal (x : Binary32) : x.literal.toList = x.text.toList ++ ['f'] := by
  rw [literal, String.toList_append]
  rfl

theorem recovers_literal :
    Recovers Binary.IsFinite (fun x : Binary32 => x.literal.toList) id := by
  intro x y hx hy r s heq
  simp only [Binary.toList_literal, List.append_assoc] at heq
  have hend (rest : List Char) : PathData.EndsNumeral (['f'] ++ rest) :=
    .cons rest (by decide)
  obtain ⟨hvalue, hrest⟩ := Binary.text_append_inj hx hy (hend r) (hend s) heq
  exact ⟨hvalue, List.append_cancel_left hrest⟩

theorem Binary.exists_literal_eq_cons {x : Binary32} (h : x.IsFinite) :
    ∃ c rest, x.literal.toList = c :: rest ∧ (c.isDigit = true ∨ c = '-') := by
  obtain ⟨c, rest, htext, hc⟩ := exists_text_eq_cons h
  exact ⟨c, rest ++ ['f'], by rw [toList_literal, htext]; rfl, hc⟩

namespace DrawingCode

/-! ### Arguments -/

def CallArgument.IsFinite : CallArgument → Prop
  | number x => x.IsFinite
  | flag _ => True

/-- An argument begins with a digit, a sign or the letter of a truth value. -/
theorem CallArgument.exists_text_eq_cons {a : CallArgument} (h : a.IsFinite) :
    ∃ c rest, a.text.toList = c :: rest ∧
      ((∃ x, a = number x) ∧ (c.isDigit = true ∨ c = '-') ∨
        (∃ b, a = flag b) ∧ (c = 't' ∨ c = 'f')) := by
  cases a with
  | number x =>
    obtain ⟨c, rest, htext, hc⟩ := Binary.exists_literal_eq_cons h
    exact ⟨c, rest, htext, .inl ⟨⟨x, rfl⟩, hc⟩⟩
  | flag b =>
    cases b with
    | true => exact ⟨'t', "rue".toList, rfl, .inr ⟨⟨_, rfl⟩, .inl rfl⟩⟩
    | false => exact ⟨'f', "alse".toList, rfl, .inr ⟨⟨_, rfl⟩, .inr rfl⟩⟩

theorem recovers_argument :
    Recovers CallArgument.IsFinite (fun a => a.text.toList) id := by
  have hmixed {x : Binary32} (hx : x.IsFinite) (b : Bool) (r s : List Char) :
      (CallArgument.number x).text.toList ++ r ≠ (CallArgument.flag b).text.toList ++ s := by
    intro heq
    obtain ⟨c, rest, htext, hc⟩ := Binary.exists_literal_eq_cons hx
    rw [CallArgument.text, htext] at heq
    cases b with
    | true =>
      obtain ⟨rfl, -⟩ := List.cons.inj heq
      revert hc
      decide
    | false =>
      obtain ⟨rfl, -⟩ := List.cons.inj heq
      revert hc
      decide
  intro a b ha hb r s heq
  cases a with
  | number x =>
    cases b with
    | number y =>
      obtain ⟨rfl, hrest⟩ := recovers_literal ha hb heq
      exact ⟨rfl, hrest⟩
    | flag b => exact absurd heq (hmixed ha b r s)
  | flag a =>
    cases b with
    | number y => exact absurd heq.symm (hmixed hb a s r)
    | flag b =>
      cases a <;> cases b <;> simp_all [CallArgument.text]

def argumentsCode (arguments : List CallArgument) : List Char :=
  (", ".intercalate (arguments.map CallArgument.text)).toList ++ [')']

theorem argumentsCode_cons (first : CallArgument) (others : List CallArgument) :
    argumentsCode (first :: others) =
      first.text.toList ++
        (others.flatMap fun a => ", ".toList ++ a.text.toList) ++ [')'] := by
  induction others generalizing first with
  | nil => simp [argumentsCode]
  | cons second others ih =>
    have hrest := ih second
    simp only [argumentsCode, List.map_cons] at hrest ⊢
    rw [String.intercalate_cons_cons, String.toList_append, String.toList_append]
    simp only [List.append_assoc, List.flatMap_cons] at hrest ⊢
    rw [hrest]

theorem argumentsCode_inj {as bs : List CallArgument} (has : ∀ a ∈ as, a.IsFinite)
    (hbs : ∀ b ∈ bs, b.IsFinite) (h : argumentsCode as = argumentsCode bs) : as = bs := by
  have hempty {first : CallArgument} (hfirst : first.IsFinite) (others : List CallArgument) :
      argumentsCode (first :: others) ≠ argumentsCode [] := by
    intro heq
    obtain ⟨c, rest, htext, hc⟩ := CallArgument.exists_text_eq_cons hfirst
    rw [argumentsCode_cons, htext] at heq
    obtain ⟨rfl, -⟩ := List.cons.inj heq
    revert hc
    simp
  cases as with
  | nil =>
    cases bs with
    | nil => rfl
    | cons b bs => exact absurd h.symm (hempty (hbs b List.mem_cons_self) bs)
  | cons a as =>
    obtain ⟨ha, has⟩ := List.forall_mem_cons.mp has
    cases bs with
    | nil => exact absurd h (hempty ha as)
    | cons b bs =>
      obtain ⟨hb, hbs⟩ := List.forall_mem_cons.mp hbs
      have hseparated : Recovers CallArgument.IsFinite
          (fun a : CallArgument => ", ".toList ++ a.text.toList) id := by
        intro a b ha hb r s heq
        simp only [List.append_assoc] at heq
        exact recovers_argument ha hb (List.append_cancel_left heq)
      have hend (a : CallArgument) : ¬ ", ".toList ++ a.text.toList <+: [')'] := by
        rintro ⟨rest, heq⟩
        cases heq
      rw [argumentsCode_cons, argumentsCode_cons, List.append_assoc, List.append_assoc] at h
      obtain ⟨hfirst, hothers⟩ := recovers_argument ha hb h
      obtain ⟨hviews, -⟩ :=
        hseparated.flatMap has hbs (fun b _ => hend b) (fun a _ => hend a) hothers
      rw [List.map_id, List.map_id] at hviews
      rw [show a = b from hfirst, hviews]

/-! ### Commands -/

def commandOf? : String → List CallArgument → Option PathCommand
  | "close", [] => some .close
  | "moveTo", [.number x, .number y] => some (.moveTo false ⟨x, y⟩)
  | "moveToRelative", [.number x, .number y] => some (.moveTo true ⟨x, y⟩)
  | "lineTo", [.number x, .number y] => some (.lineTo false ⟨x, y⟩)
  | "lineToRelative", [.number x, .number y] => some (.lineTo true ⟨x, y⟩)
  | "horizontalLineTo", [.number x] => some (.horizontalTo false x)
  | "horizontalLineToRelative", [.number x] => some (.horizontalTo true x)
  | "verticalLineTo", [.number y] => some (.verticalTo false y)
  | "verticalLineToRelative", [.number y] => some (.verticalTo true y)
  | "curveTo", [.number a, .number b, .number c, .number d, .number x, .number y] =>
    some (.curveTo false ⟨a, b⟩ ⟨c, d⟩ ⟨x, y⟩)
  | "curveToRelative", [.number a, .number b, .number c, .number d, .number x, .number y] =>
    some (.curveTo true ⟨a, b⟩ ⟨c, d⟩ ⟨x, y⟩)
  | "reflectiveCurveTo", [.number a, .number b, .number x, .number y] =>
    some (.reflectiveCurveTo false ⟨a, b⟩ ⟨x, y⟩)
  | "reflectiveCurveToRelative", [.number a, .number b, .number x, .number y] =>
    some (.reflectiveCurveTo true ⟨a, b⟩ ⟨x, y⟩)
  | "quadTo", [.number a, .number b, .number x, .number y] => some (.quadTo false ⟨a, b⟩ ⟨x, y⟩)
  | "quadToRelative", [.number a, .number b, .number x, .number y] =>
    some (.quadTo true ⟨a, b⟩ ⟨x, y⟩)
  | "reflectiveQuadTo", [.number x, .number y] => some (.reflectiveQuadTo false ⟨x, y⟩)
  | "reflectiveQuadToRelative", [.number x, .number y] => some (.reflectiveQuadTo true ⟨x, y⟩)
  | "arcTo", [.number a, .number b, .number c, .flag d, .flag e, .number x, .number y] =>
    some (.arcTo false ⟨a, b, c, d, e, ⟨x, y⟩⟩)
  | "arcToRelative", [.number a, .number b, .number c, .flag d, .flag e, .number x, .number y] =>
    some (.arcTo true ⟨a, b, c, d, e, ⟨x, y⟩⟩)
  | _, _ => none

theorem commandOf?_callOf (command : PathCommand) :
    commandOf? (callOf command).1 (callOf command).2 = some command := by
  cases command with
  | close => rfl
  | moveTo relative | lineTo relative | horizontalTo relative | verticalTo relative
  | curveTo relative | reflectiveCurveTo relative | quadTo relative | reflectiveQuadTo relative
  | arcTo relative => cases relative <;> rfl

theorem callOf_injective : Function.Injective callOf := by
  intro command other heq
  have hcommand := commandOf?_callOf command
  rw [heq, commandOf?_callOf other, Option.some.injEq] at hcommand
  exact hcommand.symm

theorem bracket_notMem_functionName {absolute : String} (h : '(' ∉ absolute.toList)
    (relative : Bool) : '(' ∉ (functionName absolute relative).toList := by
  cases relative with
  | false => exact h
  | true => simp [functionName, h]

theorem bracket_notMem_function (command : PathCommand) :
    '(' ∉ (callOf command).1.toList := by
  cases command with
  | close => decide
  | moveTo relative | lineTo relative | horizontalTo relative | verticalTo relative
  | curveTo relative | reflectiveCurveTo relative | quadTo relative | reflectiveQuadTo relative
  | arcTo relative => exact bracket_notMem_functionName (by decide) relative

theorem isFinite_of_mem_callOf {command : PathCommand} (h : ∀ x ∈ command.numbers, x.IsFinite) :
    ∀ a ∈ (callOf command).2, a.IsFinite := by
  cases command <;>
    simp_all [PathCommand.numbers, callOf, pointArguments, arcArguments, Point.numbers,
      CallArgument.IsFinite]

theorem callText_inj {command other : PathCommand} (hcommand : ∀ x ∈ command.numbers, x.IsFinite)
    (hother : ∀ x ∈ other.numbers, x.IsFinite) (h : callText command = callText other) :
    command = other := by
  have hcode (c : PathCommand) : (callText c).toList =
      (callOf c).1.toList ++ '(' :: argumentsCode (callOf c).2 := by
    simp [callText, argumentsCode]
  have hcodes := congrArg String.toList h
  rw [hcode, hcode] at hcodes
  obtain ⟨hfunction, harguments⟩ := append_cons_inj (bracket_notMem_function command)
    (bracket_notMem_function other) hcodes
  refine callOf_injective (Prod.ext (String.toList_inj.mp hfunction) ?_)
  exact argumentsCode_inj (isFinite_of_mem_callOf hcommand) (isFinite_of_mem_callOf hother)
    harguments

end DrawingCode
end IconForge

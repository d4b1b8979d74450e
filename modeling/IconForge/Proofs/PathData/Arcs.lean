import IconForge.Proofs.Drawing.Reading
import IconForge.Proofs.PathData.Spacing

/-!
# Arcs

SVG writes the flags of an arc as single characters, after which the next argument may follow with
nothing between. The lexer knows no flags: it takes the longest numeral everywhere, and so a flag as
the first digit of what follows directly, unless a sign does. Arcs are drawn as they are written if
and only if all their flags stand apart in this way, and their numbers are in range
(`parse_arcs_iff`).
-/

namespace IconForge
namespace PathData

/-! ### Arcs as they are written -/

/-- Something that is written, and the separators after it. -/
structure Spaced (α : Type) where
  item : α
  spacing : List Char

/-- An argument of an arc: a number, or a flag. -/
inductive ArcArgument where
  | number (n : Numeral)
  | flag (isSet : Bool)

def flagDigit (isSet : Bool) : Char := if isSet then '1' else '0'

def ArcArgument.text : ArcArgument → List Char
  | number n => n.text
  | flag isSet => [flagDigit isSet]

def argumentsText (arguments : List (Spaced ArcArgument)) : List Char :=
  arguments.flatMap fun argument => argument.item.text ++ argument.spacing

/-- A numeral before a rest goes on as long as it can. -/
def Numeral.IsLongest (n : Numeral) (rest : List Char) : Prop :=
  n.IsWellFormed ∧ ∀ m : Numeral, m.IsWellFormed → m.text <+: n.text ++ rest →
    m.text.length ≤ n.text.length

theorem Numeral.isLongest_iff {n : Numeral} {rest : List Char} :
    n.IsLongest rest ↔ scan (n.text ++ rest) = some (n, rest) := by
  simp [IsLongest, scan_eq_some_iff]

instance (n : Numeral) (rest : List Char) : Decidable (n.IsLongest rest) :=
  decidable_of_iff _ Numeral.isLongest_iff.symm

/-- Numbers end by themselves; a flag is over after its character. -/
def ArcArgument.EndsBefore (rest : List Char) : ArcArgument → Prop
  | number n => n.IsLongest rest
  | flag _ => True

instance (rest : List Char) : DecidablePred (ArcArgument.EndsBefore rest)
  | .number n => inferInstanceAs (Decidable (n.IsLongest rest))
  | .flag _ => inferInstanceAs (Decidable True)

/-- Arguments are written as SVG reads them: one after another, with separators where they are not
told apart without. -/
def AreWritten : List (Spaced ArcArgument) → Prop
  | [] => True
  | first :: others =>
    IsSpacing first.spacing ∧ first.item.EndsBefore (first.spacing ++ argumentsText others) ∧
      AreWritten others

instance decidableAreWritten : DecidablePred AreWritten
  | [] => inferInstanceAs (Decidable True)
  | first :: others =>
    have := decidableAreWritten others
    inferInstanceAs (Decidable (IsSpacing first.spacing ∧
      first.item.EndsBefore (first.spacing ++ argumentsText others) ∧ AreWritten others))

structure WrittenArc where
  radiusX : Spaced Numeral
  radiusY : Spaced Numeral
  rotation : Spaced Numeral
  isLarge : Spaced Bool
  isSweep : Spaced Bool
  x : Spaced Numeral
  y : Spaced Numeral

def Numeral.value (n : Numeral) : Binary32 := .ofDecimal n.toDecimal

namespace WrittenArc

def arguments (a : WrittenArc) : List (Spaced ArcArgument) :=
  [⟨.number a.radiusX.item, a.radiusX.spacing⟩, ⟨.number a.radiusY.item, a.radiusY.spacing⟩,
    ⟨.number a.rotation.item, a.rotation.spacing⟩, ⟨.flag a.isLarge.item, a.isLarge.spacing⟩,
    ⟨.flag a.isSweep.item, a.isSweep.spacing⟩, ⟨.number a.x.item, a.x.spacing⟩,
    ⟨.number a.y.item, a.y.spacing⟩]

def arc (a : WrittenArc) : Arc where
  radiusX := a.radiusX.item.value
  radiusY := a.radiusY.item.value
  rotation := a.rotation.item.value
  isLarge := a.isLarge.item
  isSweep := a.isSweep.item
  stop := ⟨a.x.item.value, a.y.item.value⟩

def IsInRange (a : WrittenArc) : Prop :=
  ∀ n ∈ [a.radiusX.item, a.radiusY.item, a.rotation.item, a.x.item, a.y.item], n.value.IsFinite

instance (a : WrittenArc) : Decidable a.IsInRange :=
  inferInstanceAs (Decidable (∀ n ∈ [_, _, _, _, _], Binary.IsFinite (Numeral.value n)))

/-- A separator follows the first flag, and a separator or a sign the second one. -/
def FlagsApart (a : WrittenArc) : Prop :=
  a.isLarge.spacing ≠ [] ∧ (a.isSweep.spacing ≠ [] ∨ a.x.item.sign ≠ [])

instance (a : WrittenArc) : Decidable a.FlagsApart :=
  inferInstanceAs (Decidable (_ ∧ (_ ∨ _)))

end WrittenArc

/-! ### Flags before other arguments -/

section

variable {d : Char} {text rest whole after : List Char} {fraction : Option (List Char)}

theorem splitMantissa_cons_digit (hd : d.isDigit = true)
    (h : splitMantissa text = some (whole, fraction, after)) :
    splitMantissa (d :: text) = some (d :: whole, fraction, after) := by
  have hdigits : splitDigits (d :: text) = (d :: (splitDigits text).1, (splitDigits text).2) :=
    splitDigits_append_left (List.forall_mem_singleton.mpr hd) text
  simp only [splitMantissa, hdigits] at h ⊢
  split at h
  · next afterPoint hpoint =>
    split at h
    · cases h
    · cases h
      simp
  · next hpoint =>
    split at h
    · cases h
    · cases h
      simp

theorem splitSign_of_isDigit (hd : d.isDigit = true) (text : List Char) :
    splitSign (d :: text) = ([], d :: text) := by
  refine splitSign_eq (.inl rfl) ?_
  rintro _ ⟨⟩
  exact ne_sign_of_isDigit hd

namespace Numeral

variable {n : Numeral}

theorem scan_cons_digit (hd : d.isDigit = true) (h : scan text = some (n, rest))
    (hsign : n.sign = []) :
    scan (d :: text) = some ({ n with whole := d :: n.whole }, rest) := by
  rw [scan] at h
  split at h
  · cases h
  · next whole fraction afterMantissa hmantissa =>
    cases h
    dsimp only at hsign
    have hunsigned := splitSign_append text
    rw [hsign, List.nil_append] at hunsigned
    rw [hunsigned] at hmantissa
    rw [scan, splitSign_of_isDigit hd]
    simp only [splitMantissa_cons_digit hd hmantissa, hsign]

theorem sign_of_scan_cons (hd : d.isDigit = true) (h : scan (d :: text) = some (n, rest)) :
    n.sign = [] := by
  rw [scan, splitSign_of_isDigit hd] at h
  split at h
  · cases h
  · cases h
    rfl

end Numeral

end

theorem isDigit_flagDigit (isSet : Bool) : (flagDigit isSet).isDigit = true := by
  cases isSet <;> rfl

/-- The numeral that an argument is taken for where it stands apart. -/
def ArcArgument.numeral : ArcArgument → Numeral
  | number n => n
  | flag isSet => ⟨[], [flagDigit isSet], none, none⟩

theorem ArcArgument.text_eq (argument : ArcArgument) : argument.text = argument.numeral.text := by
  cases argument <;> rfl

theorem isWellFormed_flag (isSet : Bool) : (ArcArgument.flag isSet).numeral.IsWellFormed where
  sign := .inl rfl
  whole := List.forall_mem_singleton.mpr (isDigit_flagDigit isSet)
  fraction := nofun
  hasDigit := .inl (List.cons_ne_nil _ _)
  exponent := nofun

/-- Before such an argument a flag is taken as a further digit of it. -/
def ArcArgument.TakesDigit : ArcArgument → Prop
  | number n => n.sign = []
  | flag _ => True

/-- An argument is not taken into the next one. -/
def StandsApart (first : Spaced ArcArgument) (others : List (Spaced ArcArgument)) : Prop :=
  match first.item with
  | .number _ => True
  | .flag _ => first.spacing ≠ [] ∨ ∀ next ∈ others.head?, ¬ next.item.TakesDigit

def AreApart : List (Spaced ArcArgument) → Prop
  | [] => True
  | first :: others => StandsApart first others ∧ AreApart others

section

variable {first : Spaced ArcArgument} {others : List (Spaced ArcArgument)}

theorem argumentsText_cons (first : Spaced ArcArgument) (others : List (Spaced ArcArgument)) :
    argumentsText (first :: others) =
      first.item.text ++ (first.spacing ++ argumentsText others) := by
  rw [argumentsText, List.flatMap_cons, List.append_assoc]
  rfl

/-- What follows a flag that stands apart begins with no character that would continue it. -/
theorem head_of_standsApart {isSet : Bool} (hspacing : IsSpacing first.spacing)
    (hothers : AreWritten others) (hitem : first.item = .flag isSet)
    (happart : StandsApart first others) :
    ∀ c ∈ (first.spacing ++ argumentsText others).head?,
      c ∈ [' ', '\t', '\n', '\r', ',', '+', '-'] := by
  simp only [StandsApart, hitem] at happart
  cases hfirst : first.spacing with
  | cons c spacing =>
    rintro _ ⟨⟩
    have hmem := hspacing c (hfirst ▸ List.mem_cons_self)
    exact List.mem_append_left ['+', '-'] hmem
  | nil =>
    rw [List.nil_append]
    cases others with
    | nil => exact nofun
    | cons next others =>
      obtain ⟨-, hends, -⟩ := hothers
      have hdigit := happart.resolve_left (fun hne => hne hfirst) next rfl
      rw [argumentsText_cons]
      cases hnext : next.item with
      | flag isSet =>
        rw [hnext] at hdigit
        exact absurd trivial hdigit
      | number n =>
        rw [hnext] at hends hdigit
        have hsign : n.sign ≠ [] := hdigit
        rcases hends.1.sign with hnil | hplus | hminus
        · exact absurd hnil hsign
        · rw [ArcArgument.text, Numeral.text, hplus]
          rintro _ ⟨⟩
          decide
        · rw [ArcArgument.text, Numeral.text, hminus]
          rintro _ ⟨⟩
          decide

theorem scan_of_standsApart (hwritten : AreWritten (first :: others))
    (happart : StandsApart first others) :
    Numeral.scan (argumentsText (first :: others)) =
      some (first.item.numeral, first.spacing ++ argumentsText others) := by
  obtain ⟨hspacing, hends, hothers⟩ := hwritten
  rw [argumentsText_cons, ArcArgument.text_eq]
  cases hitem : first.item with
  | number n =>
    rw [hitem] at hends
    exact Numeral.isLongest_iff.mp hends
  | flag isSet =>
    have hhead := head_of_standsApart hspacing hothers hitem happart
    have hend (c : Char) (hc : c ∈ (first.spacing ++ argumentsText others).head?) :
        c.isDigit = false ∧ (c ≠ 'e' ∧ c ≠ 'E') ∧ c ≠ '.' := by
      have hmem := hhead c hc
      fin_cases hmem <;> decide
    refine Numeral.scan_text (isWellFormed_flag isSet) ⟨?_, ?_⟩ ?_
    · exact fun c hc => (hend c hc).1
    · exact fun c hc => (hend c hc).2.1
    · exact fun _ _ c hc => (hend c hc).2.2

/-- An argument that does not stand apart is scanned together with what would be scanned after
it. -/
theorem scan_of_not_standsApart (hwritten : AreWritten (first :: others))
    (happart : ¬ StandsApart first others) :
    ∃ n m rest, Numeral.scan (argumentsText others) = some (n, rest) ∧
      Numeral.scan (argumentsText (first :: others)) = some (m, rest) := by
  obtain ⟨-, -, hothers⟩ := hwritten
  cases hitem : first.item with
  | number n => simp [StandsApart, hitem] at happart
  | flag isSet =>
    simp only [StandsApart, hitem, not_or, not_not, not_forall] at happart
    obtain ⟨hspacing, next, hnext, hdigit⟩ := happart
    obtain ⟨others, rfl⟩ := List.head?_eq_some_iff.mp hnext
    have hscan : ∃ n rest, Numeral.scan (argumentsText (next :: others)) = some (n, rest) ∧
        n.sign = [] := by
      obtain ⟨-, hends, -⟩ := hothers
      rw [argumentsText_cons]
      cases hitem' : next.item with
      | number n =>
        rw [hitem'] at hends hdigit
        exact ⟨n, _, Numeral.isLongest_iff.mp hends, hdigit⟩
      | flag isSet' =>
        rw [ArcArgument.text_eq]
        obtain ⟨n, rest, hscan, -⟩ := Numeral.exists_scan (isWellFormed_flag isSet')
          (next.spacing ++ argumentsText others)
        exact ⟨n, rest, hscan, Numeral.sign_of_scan_cons (isDigit_flagDigit isSet') hscan⟩
    obtain ⟨n, rest, hscan, hsign⟩ := hscan
    refine ⟨n, { n with whole := flagDigit isSet :: n.whole }, rest, hscan, ?_⟩
    rw [argumentsText_cons, hitem, hspacing, List.nil_append]
    exact Numeral.scan_cons_digit (isDigit_flagDigit isSet) hscan hsign

end

/-! ### The tokens of arguments -/

section

variable {arguments : List (Spaced ArcArgument)}

theorem tokens_of_scan {text rest : List Char} {n : Numeral} (h : Numeral.scan text = some (n, rest))
    (position : Nat) :
    (lexFrom position text).map Lexeme.token =
      .ofNumeral n :: (lexFrom position rest).map Lexeme.token := by
  rw [lexFrom_numeral h, List.map_cons, tokens_lexFrom _ position rest]

theorem tokens_spacing {spacing : List Char} (h : IsSpacing spacing) (position : Nat)
    (text : List Char) :
    (lexFrom position (spacing ++ text)).map Lexeme.token =
      (lexFrom position text).map Lexeme.token := by
  rw [lexFrom_spacing h, tokens_lexFrom _ position text]

theorem tokens_of_areApart (hwritten : AreWritten arguments) (happart : AreApart arguments)
    (position : Nat) :
    (lexFrom position (argumentsText arguments)).map Lexeme.token =
      arguments.map fun argument => .ofNumeral argument.item.numeral := by
  induction arguments with
  | nil => exact congrArg _ (lexFrom_nil position)
  | cons first others ih =>
    rw [tokens_of_scan (scan_of_standsApart hwritten happart.1), tokens_spacing hwritten.1,
      ih hwritten.2.2 happart.2, List.map_cons]

theorem length_tokens (hwritten : AreWritten arguments) (position : Nat) :
    ((lexFrom position (argumentsText arguments)).map Lexeme.token).length ≤ arguments.length ∧
      (((lexFrom position (argumentsText arguments)).map Lexeme.token).length = arguments.length →
        AreApart arguments) := by
  induction arguments with
  | nil => exact ⟨by simp [argumentsText, lexFrom_nil], fun _ => trivial⟩
  | cons first others ih =>
    obtain ⟨hle, heq⟩ := ih hwritten.2.2
    by_cases happart : StandsApart first others
    · rw [tokens_of_scan (scan_of_standsApart hwritten happart), tokens_spacing hwritten.1,
        List.length_cons, List.length_cons]
      exact ⟨Nat.succ_le_succ hle, fun h => ⟨happart, heq (Nat.succ.inj h)⟩⟩
    · obtain ⟨n, m, rest, hothers, hfirst⟩ := scan_of_not_standsApart hwritten happart
      rw [tokens_of_scan hothers, List.length_cons] at hle
      rw [tokens_of_scan hfirst, List.length_cons, List.length_cons]
      exact ⟨by omega, fun h => by omega⟩

theorem token_ne_command (position : Nat) {text : List Char}
    (h : ∀ c ∈ text, Numeral.IsNumeralChar c ∨ isSeparator c = true) (letter : Letter) :
    .command letter ∉ (lexFrom position text).map Lexeme.token := by
  induction position, text using lexing_induction with
  | nil position => simp [lexFrom_nil]
  | separator position c text hsep ih =>
    rw [lexFrom_separator hsep]
    exact ih (List.forall_mem_cons.mp h).2
  | numeral position n rest hscan ih =>
    rw [lexFrom_numeral hscan, List.map_cons, List.mem_cons, not_or]
    exact ⟨(ofNumeral_ne_command n letter).symm, ih (List.forall_mem_append.mp h).2⟩
  | char position c text hsep hscan ih =>
    rw [lexFrom_char hsep hscan, List.map_cons, List.mem_cons, not_or]
    obtain ⟨hc, htext⟩ := List.forall_mem_cons.mp h
    rw [hsep, Bool.false_eq_true, or_false] at hc
    exact ⟨(ofChar_ne_command hc letter).symm, ih htext⟩

theorem characters_of_areWritten (hwritten : AreWritten arguments) :
    ∀ c ∈ argumentsText arguments, Numeral.IsNumeralChar c ∨ isSeparator c = true := by
  induction arguments with
  | nil => exact nofun
  | cons first others ih =>
    obtain ⟨hspacing, hends, hothers⟩ := hwritten
    have hfirst : first.item.numeral.IsWellFormed := by
      cases hitem : first.item with
      | number n =>
        rw [hitem] at hends
        exact hends.1
      | flag isSet => exact isWellFormed_flag isSet
    rw [argumentsText_cons, ArcArgument.text_eq]
    refine List.forall_mem_append.mpr ⟨fun c hc => .inl (hfirst.isNumeralChar c hc), ?_⟩
    exact List.forall_mem_append.mpr
      ⟨fun c hc => .inr (isSeparator_iff.mpr (hspacing c hc)), ih hothers⟩

end

/-! ### The clause of arcs -/

/-- Lexemes are read as the commands of the clauses that they are the tokens of, if these are
counted. -/
theorem parseLexemes_of_tokens {lexemes : List Lexeme} (clauses : List Clause)
    (h : lexemes.map Lexeme.token = clauses.flatMap Clause.tokens) (drawn : List PathCommand) :
    parseLexemes lexemes = .ok drawn ↔
      (∀ clause ∈ clauses, clause.IsCounted) ∧ drawn = clauses.flatMap Clause.commands := by
  obtain ⟨hclauses, hstrays⟩ := segments_of_tokens h
  rw [parseLexemes_eq_ok_iff, commandsOfSegments_eq_ok_iff, hclauses]
  exact and_iff_right hstrays

theorem groups_flatten {size : Nat} (hsize : 0 < size) {gs : List (List Binary32)}
    (h : ∀ group ∈ gs, group.length = size) : Letter.groups size gs.flatten = gs := by
  induction gs with
  | nil => rw [List.flatten_nil, Letter.groups]
  | cons group others ih =>
    obtain ⟨hgroup, hothers⟩ := List.forall_mem_cons.mp h
    have hne : group ++ others.flatten ≠ [] := by
      rintro hnil
      rw [List.append_eq_nil_iff] at hnil
      rw [hnil.1, List.length_nil] at hgroup
      omega
    rw [List.flatten_cons, Letter.groups_of_ne_nil hsize hne, List.take_left' hgroup,
      List.drop_left' hgroup, ih hothers]

theorem exists_numbers_of_tokens {tokens : List Token} (hcommand : ∀ letter, .command letter ∉ tokens)
    (hunreadable : .unreadable ∉ tokens) : ∃ numbers : List Binary32, tokens = numbers.map .number := by
  induction tokens with
  | nil => exact ⟨[], rfl⟩
  | cons token others ih =>
    simp only [List.mem_cons, not_or] at hcommand hunreadable
    obtain ⟨numbers, rfl⟩ := ih (fun letter => (hcommand letter).2) hunreadable.2
    cases token with
    | command letter => exact absurd rfl (hcommand letter).1
    | number value => exact ⟨value :: numbers, rfl⟩
    | unreadable => exact absurd rfl hunreadable.1

namespace WrittenArc

/-- The values that the arguments of an arc are read as, where its flags stand apart. -/
def values (a : WrittenArc) : List Binary32 :=
  a.arguments.map fun argument => argument.item.numeral.value

theorem length_flatMap_arguments (arcs : List WrittenArc) :
    (arcs.flatMap arguments).length = 7 * arcs.length := by
  induction arcs with
  | nil => rfl
  | cons a others ih =>
    rw [List.flatMap_cons, List.length_append, ih, List.length_cons]
    simp only [arguments, List.length_cons, List.length_nil]
    omega

theorem draw_values (relative isFirst : Bool) (a : WrittenArc) :
    Letter.draw ⟨.arcTo, relative⟩ isFirst a.values = .arcTo relative a.arc := by
  let isSet (b : Bool) : Bool := (ArcArgument.flag b).numeral.value.magnitude ≠ 0
  have hflag (b : Bool) : isSet b = b := by
    cases b <;> decide +kernel
  calc
    Letter.draw ⟨.arcTo, relative⟩ isFirst a.values =
        .arcTo relative
          { a.arc with isLarge := isSet a.isLarge.item, isSweep := isSet a.isSweep.item } := rfl
    _ = .arcTo relative a.arc := by
      rw [hflag, hflag]
      rfl

theorem areApart_iff (arcs : List WrittenArc) :
    AreApart (arcs.flatMap arguments) ↔ ∀ a ∈ arcs, a.FlagsApart := by
  induction arcs with
  | nil => simp [AreApart]
  | cons a others ih =>
    rw [List.forall_mem_cons, ← ih]
    simp [arguments, AreApart, StandsApart, ArcArgument.TakesDigit, FlagsApart, and_assoc]

end WrittenArc

theorem not_isNumeralChar_letter (letter : Letter) (text : List Char) :
    ∀ c ∈ (letter.toChar :: text).head?, ¬ Numeral.IsNumeralChar c := by
  rintro _ ⟨⟩
  exact letter.not_isNumeralChar

theorem Letter.isSeparator_toChar (letter : Letter) : isSeparator letter.toChar = false := by
  obtain ⟨verb, relative⟩ := letter
  cases verb <;> cases relative <;> decide

theorem tokens_letter (position : Nat) (before : List Char) (letter : Letter) (text : List Char) :
    (lexFrom position (before ++ letter.toChar :: text)).map Lexeme.token =
      (lexFrom position before).map Lexeme.token ++
        .command letter :: (lexFrom position text).map Lexeme.token := by
  have hhead := not_isNumeralChar_letter letter text
  have hscan : Numeral.scan (letter.toChar :: text) = none := by
    rw [← List.nil_append (letter.toChar :: text), Numeral.scan_append hhead]
    rfl
  have htoken : Token.ofChar letter.toChar = .command letter := by
    rw [Token.ofChar, letter.ofChar?_toChar]
  rw [lexFrom_append hhead, lexFrom_char letter.isSeparator_toChar hscan, List.map_append,
    List.map_cons, htoken, tokens_lexFrom _ position text]

theorem tokens_lex_letter (before : String) (letter : Letter) (text : List Char) :
    (lex (before ++ .ofList (letter.toChar :: text))).map Lexeme.token =
      (lex before).map Lexeme.token ++ .command letter :: (lexFrom 0 text).map Lexeme.token := by
  rw [lex, String.toList_append, String.toList_ofList, tokens_letter]
  rfl

theorem exists_numbers_of_parse {before : String} {letter : Letter} {text : List Char}
    {drawn : List PathCommand} (htext : ∀ c ∈ text, Numeral.IsNumeralChar c ∨ isSeparator c = true)
    (h : parse (before ++ .ofList (letter.toChar :: text)) = .ok drawn) :
    ∃ numbers : List Binary32, (lexFrom 0 text).map Lexeme.token = numbers.map .number := by
  obtain ⟨clauses, hclauses, -, -⟩ := (parseLexemes_eq_ok_iff_clauses _ _).mp h
  refine exists_numbers_of_tokens (token_ne_command 0 htext) fun hmem => ?_
  apply Clause.unreadable_not_mem_tokens clauses
  rw [← hclauses, tokens_lex_letter]
  exact List.mem_append_right _ (List.mem_cons_of_mem _ hmem)

section

variable {relative : Bool} {arcs : List WrittenArc}

theorem commands_arcs (relative : Bool) (hne : arcs ≠ []) :
    let clause : Clause := ⟨⟨.arcTo, relative⟩, arcs.flatMap WrittenArc.values⟩
    clause.IsCounted ∧ clause.commands = arcs.map fun a => .arcTo relative a.arc := by
  intro clause
  have hverb : clause.letter.verb ≠ .close := nofun
  have hlength : clause.numbers.length = 7 * arcs.length := by
    rw [← WrittenArc.length_flatMap_arguments]
    simp [clause, WrittenArc.values]
  have hdvd : clause.letter.verb.arity ∣ clause.numbers.length := ⟨_, hlength⟩
  have hnumbers : clause.numbers ≠ [] := by
    rw [← List.length_pos_iff, hlength]
    exact Nat.mul_pos (by decide) (List.length_pos_iff.mpr hne)
  have hgroups : clause.groups = arcs.map WrittenArc.values := by
    rw [Clause.groups_eq hverb hdvd]
    refine groups_flatten (Letter.arity_pos hverb) fun group hgroup => ?_
    obtain ⟨a, -, rfl⟩ := List.mem_map.mp hgroup
    rfl
  constructor
  · rw [Clause.IsCounted, if_neg hverb]
    exact ⟨hnumbers, hdvd⟩
  · rw [Clause.commands, if_neg hverb, hgroups]
    refine List.ext_getElem (by simp) fun i hi hi' => ?_
    rw [List.getElem_mapIdx, List.getElem_map, List.getElem_map, WrittenArc.draw_values]

theorem length_numbers {clause : Clause} (hverb : clause.letter.verb ≠ .close)
    (h : clause.IsCounted) :
    clause.numbers.length = clause.letter.verb.arity * clause.commands.length := by
  rw [Clause.IsCounted, if_neg hverb] at h
  rw [Clause.commands, if_neg hverb, List.length_mapIdx, Clause.groups, List.length_map,
    List.length_range, Nat.mul_div_cancel' h.2]

theorem isInRange_iff (a : WrittenArc) : a.IsInRange ↔ ∀ x ∈ a.values, x.IsFinite := by
  have hflag (isSet : Bool) :
      (Numeral.value ⟨[], [flagDigit isSet], none, none⟩).IsFinite := by
    cases isSet <;> decide +kernel
  simp [WrittenArc.IsInRange, WrittenArc.values, WrittenArc.arguments, ArcArgument.numeral, hflag]

theorem isInRange_of_drawn {a : WrittenArc}
    (h : ∀ x ∈ (PathCommand.arcTo relative a.arc).numbers, x.IsFinite) : a.IsInRange := by
  simpa [WrittenArc.IsInRange, PathCommand.numbers, Point.numbers, WrittenArc.arc] using h

theorem tokens_arcs (hwritten : AreWritten (arcs.flatMap WrittenArc.arguments))
    (h : ∀ a ∈ arcs, a.FlagsApart ∧ a.IsInRange) :
    (lexFrom 0 (argumentsText (arcs.flatMap WrittenArc.arguments))).map Lexeme.token =
      (arcs.flatMap WrittenArc.values).map .number := by
  have happart := (WrittenArc.areApart_iff arcs).mpr fun a ha => (h a ha).1
  rw [tokens_of_areApart hwritten happart, List.map_flatMap, List.map_flatMap]
  refine List.flatMap_congr fun a ha => ?_
  have hfinite := (isInRange_iff a).mp (h a ha).2
  rw [WrittenArc.values, List.map_map]
  refine List.map_congr_left fun argument hargument => ?_
  exact if_pos (hfinite _ (List.mem_map_of_mem hargument))

/-- Arcs after path data that can be read are drawn as they are written if and only if all their
flags stand apart and all their numbers are in range. -/
theorem parse_arcs_iff {before : String} {drawn : List PathCommand}
    (hbefore : parse before = .ok drawn) (relative : Bool) {spacing : List Char}
    (hspacing : IsSpacing spacing) (hne : arcs ≠ [])
    (hwritten : AreWritten (arcs.flatMap WrittenArc.arguments)) :
    parse (before ++ .ofList (Letter.toChar ⟨.arcTo, relative⟩ ::
        (spacing ++ argumentsText (arcs.flatMap WrittenArc.arguments)))) =
      .ok (drawn ++ arcs.map fun a => .arcTo relative a.arc) ↔
    ∀ a ∈ arcs, a.FlagsApart ∧ a.IsInRange := by
  obtain ⟨clauses, hclauses, hcounted, rfl⟩ := (parseLexemes_eq_ok_iff_clauses _ _).mp hbefore
  have htokens := tokens_lex_letter before ⟨.arcTo, relative⟩
    (spacing ++ argumentsText (arcs.flatMap WrittenArc.arguments))
  rw [hclauses, tokens_spacing hspacing] at htokens
  have hclause (numbers : List Binary32)
      (hnumbers : (lexFrom 0 (argumentsText (arcs.flatMap WrittenArc.arguments))).map Lexeme.token =
        numbers.map .number) (drawn : List PathCommand) :=
    parseLexemes_of_tokens (clauses ++ [⟨⟨.arcTo, relative⟩, numbers⟩])
      (by rw [htokens, hnumbers, List.flatMap_append, List.flatMap_singleton, Clause.tokens]) drawn
  have hcharacters := List.forall_mem_append.mpr
    ⟨fun c hc => .inr (isSeparator_iff.mpr (hspacing c hc)), characters_of_areWritten hwritten⟩
  constructor
  · intro h a ha
    constructor
    · obtain ⟨numbers, hnumbers⟩ := exists_numbers_of_parse hcharacters h
      rw [tokens_spacing hspacing] at hnumbers
      obtain ⟨hcount, hdrawn⟩ := (hclause numbers hnumbers _).mp h
      rw [List.flatMap_append, List.flatMap_singleton, List.append_cancel_left_eq] at hdrawn
      have hverb : Verb.arcTo ≠ .close := by decide
      have hlength := length_numbers hverb (hcount _ (List.mem_append_right _ List.mem_cons_self))
      rw [← hdrawn, List.length_map] at hlength
      refine (WrittenArc.areApart_iff arcs).mp ((length_tokens hwritten 0).2 ?_) a ha
      rw [hnumbers, List.length_map, hlength, WrittenArc.length_flatMap_arguments]
      rfl
    · exact isInRange_of_drawn
        (isFinite_of_parse h _ (List.mem_append_right _ (List.mem_map_of_mem ha)))
  · intro h
    obtain ⟨hcount, hcommands⟩ := commands_arcs relative hne
    refine (hclause _ (tokens_arcs hwritten h) _).mpr ⟨?_, ?_⟩
    · exact List.forall_mem_append.mpr ⟨hcounted, List.forall_mem_singleton.mpr hcount⟩
    · rw [List.flatMap_append, List.flatMap_singleton, hcommands]

end

/-- The arguments `5,5-30 0 1-10.5.5 5 5 0 1,0 1e1,2` of two arcs, with no more separators than the
lexer needs before the second flag and after it. -/
def tightArcs : List WrittenArc :=
  [{ radiusX := ⟨⟨[], ['5'], none, none⟩, [',']⟩
     radiusY := ⟨⟨[], ['5'], none, none⟩, []⟩
     rotation := ⟨⟨['-'], ['3', '0'], none, none⟩, [' ']⟩
     isLarge := ⟨false, [' ']⟩
     isSweep := ⟨true, []⟩
     x := ⟨⟨['-'], ['1', '0'], some ['5'], none⟩, []⟩
     y := ⟨⟨[], [], some ['5'], none⟩, [' ']⟩ },
   { radiusX := ⟨⟨[], ['5'], none, none⟩, [' ']⟩
     radiusY := ⟨⟨[], ['5'], none, none⟩, [' ']⟩
     rotation := ⟨⟨[], ['0'], none, none⟩, [' ']⟩
     isLarge := ⟨true, [',']⟩
     isSweep := ⟨false, [' ']⟩
     x := ⟨⟨[], ['1'], none, some ⟨'e', [], ['1']⟩⟩, [',']⟩
     y := ⟨⟨[], ['2'], none, none⟩, []⟩ }]

theorem tightArcs_drawn :
    parse "M0 0" = .ok [.moveTo false ⟨.ofInt 0, .ofInt 0⟩] ∧ IsSpacing [' '] ∧ tightArcs ≠ [] ∧
      AreWritten (tightArcs.flatMap WrittenArc.arguments) ∧
        (∀ a ∈ tightArcs, a.FlagsApart ∧ a.IsInRange) ∧
          parse "M0 0A 5,5-30 0 1-10.5.5 5 5 0 1,0 1e1,2" =
            .ok ([.moveTo false ⟨.ofInt 0, .ofInt 0⟩] ++
              tightArcs.map fun a => .arcTo false a.arc) := by
  have hbefore : parse "M0 0" = .ok [.moveTo false ⟨.ofInt 0, .ofInt 0⟩] := by decide +kernel
  have hwritten : AreWritten (tightArcs.flatMap WrittenArc.arguments) := by decide +kernel
  have hapart : ∀ a ∈ tightArcs, a.FlagsApart ∧ a.IsInRange := by decide +kernel
  have hspacing : IsSpacing [' '] := by decide
  refine ⟨hbefore, hspacing, by decide, hwritten, hapart, ?_⟩
  exact (parse_arcs_iff hbefore false hspacing (by decide) hwritten).mpr hapart

/-- The arguments `5 5 0 0110 0` of one arc, with nothing after either flag. -/
def packedArc : WrittenArc where
  radiusX := ⟨⟨[], ['5'], none, none⟩, [' ']⟩
  radiusY := ⟨⟨[], ['5'], none, none⟩, [' ']⟩
  rotation := ⟨⟨[], ['0'], none, none⟩, [' ']⟩
  isLarge := ⟨false, []⟩
  isSweep := ⟨true, []⟩
  x := ⟨⟨[], ['1', '0'], none, none⟩, [' ']⟩
  y := ⟨⟨[], ['0'], none, none⟩, []⟩

/-- The flags are taken as the first digits of the number after them, so that two of the seven
arguments are missing. -/
theorem packedArc_not_drawn :
    parse "M0 0" = .ok [.moveTo false ⟨.ofInt 0, .ofInt 0⟩] ∧ AreWritten packedArc.arguments ∧
      packedArc.arc = ⟨.ofInt 5, .ofInt 5, .ofInt 0, false, true, ⟨.ofInt 10, .ofInt 0⟩⟩ ∧
        "M0 0" ++ .ofList ('a' :: argumentsText packedArc.arguments) = "M0 0a5 5 0 0110 0" ∧
          parse "M0 0a5 5 0 0110 0" = .error ⟨4, 17, .argumentCount ⟨.arcTo, true⟩ 5⟩ := by
  decide +kernel

end PathData
end IconForge

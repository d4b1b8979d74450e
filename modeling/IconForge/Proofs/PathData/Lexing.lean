import IconForge.PathData.Token
import IconForge.Proofs.PathData.Numerals

/-!
# Lexemes

The lexemes of path data are read one after another from the parts of the data between separators:
each from the longest numeral that the rest of the data begins with, or else from one character
(`lex_isLexing`). They are the same if the data is cut off before one of them (`exists_occurs`), or
if it goes on with a character that numerals are not made of (`lexFrom_append`).
-/

namespace IconForge
namespace PathData

/-! ### Positions -/

theorem byteLength_cons (c : Char) (text : List Char) :
    byteLength (c :: text) = c.utf8Size + byteLength text := by
  rw [byteLength, List.map_cons, List.sum_cons]
  rfl

theorem byteLength_append (first second : List Char) :
    byteLength (first ++ second) = byteLength first + byteLength second := by
  rw [byteLength, List.map_append, List.sum_append]
  rfl

theorem byteLength_pos {text : List Char} (h : text ≠ []) : 0 < byteLength text := by
  obtain ⟨c, others, rfl⟩ := List.exists_cons_of_ne_nil h
  rw [byteLength_cons]
  exact Nat.add_pos_left c.utf8Size_pos _

theorem byteLength_eq (text : List Char) : byteLength text = (String.ofList text).utf8ByteSize := by
  induction text with
  | nil => rfl
  | cons c others ih =>
    have hsplit : String.ofList (c :: others) = String.singleton c ++ String.ofList others := by
      rw [String.singleton_eq_ofList, ← String.ofList_append]
      rfl
    rw [byteLength_cons, ih, hsplit, String.utf8ByteSize_append, String.utf8ByteSize_singleton]

theorem byteLength_toList (text : String) : byteLength text.toList = text.utf8ByteSize := by
  rw [byteLength_eq, String.ofList_toList]

/-! ### One lexeme -/

theorem isSeparator_iff {c : Char} : isSeparator c = true ↔ c ∈ [' ', '\t', '\n', '\r', ','] := by
  simp [isSeparator, or_assoc]

theorem isSeparator_of_isNumeralChar {c : Char} (h : Numeral.IsNumeralChar c) :
    isSeparator c = false := by
  apply Bool.eq_false_of_not_eq_true
  intro hsep
  have hmem := isSeparator_iff.mp hsep
  fin_cases hmem <;> revert h <;> decide

theorem lexFrom_nil (position : Nat) : lexFrom position [] = [] := by
  rw [lexFrom]

theorem lexFrom_separator {c : Char} (h : isSeparator c = true) (position : Nat)
    (text : List Char) :
    lexFrom position (c :: text) = lexFrom (position + c.utf8Size) text := by
  rw [lexFrom, if_pos h]

theorem lexFrom_numeral {text rest : List Char} {n : Numeral}
    (h : Numeral.scan text = some (n, rest)) (position : Nat) :
    lexFrom position text =
      ⟨.ofNumeral n, position, position + byteLength n.text⟩ ::
        lexFrom (position + byteLength n.text) rest := by
  obtain ⟨c, others, hn⟩ := List.exists_cons_of_ne_nil (Numeral.text_ne_nil_of_scan h)
  have htext : text = c :: (others ++ rest) := by
    rw [← Numeral.text_append_of_scan h, hn, List.cons_append]
  have hc : Numeral.IsNumeralChar c :=
    (Numeral.isWellFormed_of_scan h).isNumeralChar c (by simp [hn])
  subst htext
  rw [lexFrom, if_neg (by simp [isSeparator_of_isNumeralChar hc])]
  split
  · next hscan =>
    rw [h] at hscan
    cases hscan
    rfl
  · next hscan =>
    rw [h] at hscan
    cases hscan

theorem lexFrom_char {c : Char} {text : List Char} (hc : isSeparator c = false)
    (h : Numeral.scan (c :: text) = none) (position : Nat) :
    lexFrom position (c :: text) =
      ⟨.ofChar c, position, position + c.utf8Size⟩ :: lexFrom (position + c.utf8Size) text := by
  rw [lexFrom, if_neg (by simp [hc])]
  split
  · next hscan =>
    rw [h] at hscan
    cases hscan
  · rfl

/-- The text that lexemes are read from begins with a separator, a numeral or another character. -/
@[elab_as_elim]
theorem lexing_induction {P : Nat → List Char → Prop} (nil : ∀ position, P position [])
    (separator : ∀ position c text, isSeparator c = true →
      P (position + c.utf8Size) text → P position (c :: text))
    (numeral : ∀ position n rest, Numeral.scan (n.text ++ rest) = some (n, rest) →
      P (position + byteLength n.text) rest → P position (n.text ++ rest))
    (char : ∀ position c text, isSeparator c = false → Numeral.scan (c :: text) = none →
      P (position + c.utf8Size) text → P position (c :: text))
    (position : Nat) (text : List Char) : P position text := by
  fun_induction lexFrom position text with
  | case1 position => exact nil position
  | case2 position c text hsep ih => exact separator position c text hsep ih
  | case3 position c text hsep n rest hscan stop =>
    rename_i ih
    have happend := Numeral.text_append_of_scan hscan
    rw [← happend] at hscan ⊢
    exact numeral position n rest hscan ih
  | case4 position c text hsep hscan stop =>
    rename_i ih
    exact char position c text (Bool.eq_false_of_not_eq_true hsep) hscan ih

def commandLetters : List Char := "MmLlHhVvCcSsQqTtAaZz".toList

theorem Letter.toChar_of_ofChar? {c : Char} {letter : Letter} (h : ofChar? c = some letter) :
    letter.toChar = c := by
  unfold ofChar? at h
  split at h <;> cases h <;> rfl

theorem toChar_of_ofChar {c : Char} {letter : Letter} (h : Token.ofChar c = .command letter) :
    letter.toChar = c := by
  unfold Token.ofChar at h
  split at h
  · next hletter =>
    cases h
    exact Letter.toChar_of_ofChar? hletter
  · cases h

theorem Letter.mem_commandLetters (letter : Letter) : letter.toChar ∈ commandLetters := by
  obtain ⟨verb, relative⟩ := letter
  cases verb <;> cases relative <;> decide

theorem ofChar?_ne_none {c : Char} (h : c ∈ commandLetters) : Letter.ofChar? c ≠ none := by
  have hall : (commandLetters.all fun c => (Letter.ofChar? c).isSome) = true := by decide
  exact Option.isSome_iff_ne_none.mp (List.all_eq_true.mp hall c h)

theorem ofChar_spec (c : Char) :
    if c ∈ commandLetters then
      ∃ letter : Letter, letter.toChar = c ∧ Token.ofChar c = .command letter
    else Token.ofChar c = .unreadable := by
  unfold Token.ofChar
  cases hletter : Letter.ofChar? c with
  | some letter =>
    have htoChar := Letter.toChar_of_ofChar? hletter
    rw [if_pos (htoChar ▸ letter.mem_commandLetters)]
    exact ⟨letter, htoChar, rfl⟩
  | none => rw [if_neg fun hmem => ofChar?_ne_none hmem hletter]

/-- A token is read from the front of a text, before the rest of it. -/
structure Token.IsReadFrom (token : Token) (front rest : List Char) : Prop where
  /-- The longest numeral, if there is one, is read as the value that it denotes. -/
  numeral : (∃ other, other <+: front ++ rest ∧ other ∈ Pattern.numeral.matches') →
    front ∈ Pattern.numeral.matches' ∧
      (∀ other, other <+: front ++ rest → other ∈ Pattern.numeral.matches' →
        other.length ≤ front.length) ∧
      ∃ n : Numeral, (∀ m : Numeral, m.IsWellFormed ∧ m.text = front ↔ m = n) ∧
        let value : Binary32 := .ofDecimal n.toDecimal
        token = if value.IsFinite then .number value else .unreadable
  /-- Or else one character is read. -/
  character : (¬ ∃ other, other <+: front ++ rest ∧ other ∈ Pattern.numeral.matches') →
    ∃ c, front = [c] ∧
      if c ∈ commandLetters then ∃ letter : Letter, letter.toChar = c ∧ token = .command letter
      else token = .unreadable

namespace Token.IsReadFrom

variable {front rest : List Char} {n : Numeral}

theorem of_scan (h : Numeral.scan (front ++ rest) = some (n, rest)) :
    (Token.ofNumeral n).IsReadFrom front rest := by
  obtain ⟨hn, happend, hmost⟩ := Numeral.scan_eq_some_iff.mp h
  have htext : n.text = front := List.append_cancel_right happend
  have hfront : front ∈ Pattern.numeral.matches' := mem_numeralPattern_iff.mpr ⟨n, hn, htext⟩
  constructor
  case numeral =>
    rintro -
    refine ⟨hfront, fun other hother hmatch => ?_, n, fun m => ?_, rfl⟩
    · obtain ⟨m, hm, rfl⟩ := mem_numeralPattern_iff.mp hmatch
      rw [← htext]
      exact hmost m hm hother
    · rw [← htext]
      constructor
      · exact fun hm => hm.1.text_inj hn hm.2
      · rintro rfl
        exact ⟨hn, rfl⟩
  case character =>
    intro hnone
    exact absurd ⟨front, List.prefix_append front rest, hfront⟩ hnone

theorem of_scan_eq_none {c : Char} (h : Numeral.scan (c :: rest) = none) :
    (Token.ofChar c).IsReadFrom [c] rest := by
  constructor
  case numeral =>
    rintro ⟨other, hother, hmatch⟩
    obtain ⟨m, hm, rfl⟩ := mem_numeralPattern_iff.mp hmatch
    exact absurd hother (Numeral.scan_eq_none_iff.mp h m hm)
  case character =>
    rintro -
    exact ⟨c, rfl, ofChar_spec c⟩

theorem front_ne_nil {token : Token} (h : token.IsReadFrom front rest) : front ≠ [] := by
  by_cases hmatch : ∃ other, other <+: front ++ rest ∧ other ∈ Pattern.numeral.matches'
  · obtain ⟨hfront, -⟩ := h.numeral hmatch
    obtain ⟨n, hn, rfl⟩ := mem_numeralPattern_iff.mp hfront
    exact hn.text_ne_nil
  · obtain ⟨c, rfl, -⟩ := h.character hmatch
    exact List.cons_ne_nil c []

end Token.IsReadFrom

/-! ### All lexemes -/

/-- A lexeme is read from the front of what comes after some text. -/
structure Lexeme.Occurs (lexeme : Lexeme) (position : Nat) (before front rest : List Char) :
    Prop where
  start_eq : lexeme.start = position + byteLength before
  stop_eq : lexeme.stop = lexeme.start + byteLength front
  token : lexeme.token.IsReadFrom front rest

theorem Lexeme.Occurs.start_lt {lexeme : Lexeme} {position : Nat} {before front rest : List Char}
    (h : lexeme.Occurs position before front rest) : lexeme.start < lexeme.stop := by
  have hfront := byteLength_pos h.token.front_ne_nil
  have hstop := h.stop_eq
  omega

/-- The lexemes before one of them are those of the text before it, and the lexemes after it those
of the rest. -/
theorem exists_occurs {position : Nat} {text : List Char} {earlier later : List Lexeme}
    {lexeme : Lexeme} (h : lexFrom position text = earlier ++ lexeme :: later) :
    ∃ before front rest, text = before ++ (front ++ rest) ∧
      lexeme.Occurs position before front rest ∧
        lexFrom position before = earlier ∧ lexFrom lexeme.stop rest = later := by
  induction position, text using lexing_induction generalizing earlier with
  | nil position => simp [lexFrom_nil] at h
  | separator position c text hsep ih =>
    rw [lexFrom_separator hsep] at h
    obtain ⟨before, front, rest, rfl, hoccurs, hearlier, hlater⟩ := ih h
    refine ⟨c :: before, front, rest, rfl, ⟨?_, hoccurs.stop_eq, hoccurs.token⟩, ?_, hlater⟩
    · rw [hoccurs.start_eq, byteLength_cons, Nat.add_assoc]
    · rw [lexFrom_separator hsep, hearlier]
  | numeral position n rest hscan ih =>
    rw [lexFrom_numeral hscan] at h
    cases earlier with
    | nil =>
      obtain ⟨rfl, hlater⟩ := List.cons.inj h
      exact ⟨[], n.text, rest, rfl, ⟨rfl, rfl, .of_scan hscan⟩, lexFrom_nil position, hlater⟩
    | cons first earlier =>
      obtain ⟨rfl, hothers⟩ := List.cons.inj h
      obtain ⟨before, front, rest, rfl, hoccurs, hearlier, hlater⟩ := ih hothers
      refine ⟨n.text ++ before, front, rest, ?_, ⟨?_, hoccurs.stop_eq, hoccurs.token⟩, ?_, hlater⟩
      · rw [List.append_assoc]
      · rw [hoccurs.start_eq, byteLength_append, ← Nat.add_assoc]
      · rw [← List.append_assoc] at hscan
        rw [lexFrom_numeral (Numeral.scan_of_append hscan), hearlier]
  | char position c text hsep hscan ih =>
    rw [lexFrom_char hsep hscan] at h
    cases earlier with
    | nil =>
      obtain ⟨rfl, hlater⟩ := List.cons.inj h
      refine ⟨[], [c], text, rfl, ⟨rfl, ?_, .of_scan_eq_none hscan⟩, lexFrom_nil position, hlater⟩
      rw [byteLength_cons]
      rfl
    | cons first earlier =>
      obtain ⟨rfl, hothers⟩ := List.cons.inj h
      obtain ⟨before, front, rest, rfl, hoccurs, hearlier, hlater⟩ := ih hothers
      refine ⟨c :: before, front, rest, rfl, ⟨?_, hoccurs.stop_eq, hoccurs.token⟩, ?_, hlater⟩
      · rw [hoccurs.start_eq, byteLength_cons, ← Nat.add_assoc]
      · rw [← List.cons_append] at hscan
        rw [lexFrom_char hsep (Numeral.scan_eq_none_of_append hscan), hearlier]

/-- Text that goes on with no character of numerals has the lexemes of its two parts. -/
theorem lexFrom_append {after : List Char} (hafter : ∀ c ∈ after.head?, ¬ Numeral.IsNumeralChar c)
    (position : Nat) (text : List Char) :
    lexFrom position (text ++ after) =
      lexFrom position text ++ lexFrom (position + byteLength text) after := by
  induction position, text using lexing_induction with
  | nil position => simp [lexFrom_nil, byteLength]
  | separator position c text hsep ih =>
    rw [List.cons_append, lexFrom_separator hsep, ih, lexFrom_separator hsep, byteLength_cons,
      Nat.add_assoc]
  | numeral position n rest hscan ih =>
    have hlonger : Numeral.scan ((n.text ++ rest) ++ after) = some (n, rest ++ after) := by
      rw [Numeral.scan_append hafter, hscan]
      rfl
    rw [lexFrom_numeral hlonger, ih, lexFrom_numeral hscan, byteLength_append, Nat.add_assoc]
    rfl
  | char position c text hsep hscan ih =>
    have hlonger : Numeral.scan (c :: (text ++ after)) = none := by
      rw [← List.cons_append, Numeral.scan_append hafter, hscan]
      rfl
    rw [List.cons_append, lexFrom_char hsep hlonger, ih, lexFrom_char hsep hscan, byteLength_cons,
      Nat.add_assoc]
    rfl

theorem le_start_of_mem {position : Nat} {text : List Char} {lexeme : Lexeme}
    (h : lexeme ∈ lexFrom position text) :
    position ≤ lexeme.start ∧ lexeme.start < lexeme.stop := by
  obtain ⟨earlier, later, hsplit⟩ := List.append_of_mem h
  obtain ⟨before, front, rest, -, hoccurs, -, -⟩ := exists_occurs hsplit
  exact ⟨hoccurs.start_eq ▸ Nat.le_add_right position _, hoccurs.start_lt⟩

theorem lexFrom_pairwise (position : Nat) (text : List Char) :
    (lexFrom position text).Pairwise fun first second => first.stop ≤ second.start := by
  induction position, text using lexing_induction with
  | nil position =>
    rw [lexFrom_nil]
    exact List.Pairwise.nil
  | separator position c text hsep ih => rwa [lexFrom_separator hsep]
  | numeral position n rest hscan ih =>
    rw [lexFrom_numeral hscan]
    exact List.pairwise_cons.mpr ⟨fun lexeme hmem => (le_start_of_mem hmem).1, ih⟩
  | char position c text hsep hscan ih =>
    rw [lexFrom_char hsep hscan]
    exact List.pairwise_cons.mpr ⟨fun lexeme hmem => (le_start_of_mem hmem).1, ih⟩

def Lexeme.Covers (lexeme : Lexeme) (position : Nat) : Prop :=
  lexeme.start ≤ position ∧ position < lexeme.stop

theorem not_covers_of_lt {position place : Nat} {text : List Char} (h : place < position)
    {lexeme : Lexeme} (hmem : lexeme ∈ lexFrom position text) : ¬ lexeme.Covers place :=
  fun hcovers => absurd ((le_start_of_mem hmem).1.trans hcovers.1) (Nat.not_le_of_lt h)

theorem not_isSeparator_of_mem {n : Numeral} (h : n.IsWellFormed) :
    ∀ c ∈ n.text, isSeparator c = false :=
  fun c hc => isSeparator_of_isNumeralChar (h.isNumeralChar c hc)

/-- A first lexeme covers the characters of its front, the other lexemes those of the rest. -/
theorem exists_covers_cons {position : Nat} {token : Token} {front rest before after : List Char}
    {c : Char} (hfront : ∀ d ∈ front, isSeparator d = false)
    (htext : before ++ c :: after = front ++ rest)
    (hrest : ∀ others, others ++ c :: after = rest →
      ((∃ lexeme ∈ lexFrom (position + byteLength front) rest,
        lexeme.Covers (position + byteLength front + byteLength others)) ↔
          isSeparator c = false)) :
    (∃ lexeme ∈ ⟨token, position, position + byteLength front⟩ ::
        lexFrom (position + byteLength front) rest,
      lexeme.Covers (position + byteLength before)) ↔ isSeparator c = false := by
  have hbefore : before <+: front ++ rest := ⟨c :: after, htext⟩
  have hthrough : before ++ [c] <+: front ++ rest := ⟨after, by simpa using htext⟩
  rw [List.exists_mem_cons_iff]
  by_cases hlength : front.length ≤ before.length
  · obtain ⟨others, rfl⟩ :=
      List.prefix_of_prefix_length_le (List.prefix_append front rest) hbefore hlength
    rw [List.append_assoc, List.append_cancel_left_eq] at htext
    rw [byteLength_append, ← Nat.add_assoc, ← hrest others htext, or_iff_right]
    rintro ⟨-, hlt⟩
    dsimp only at hlt
    omega
  · obtain ⟨more, rfl⟩ := List.prefix_of_prefix_length_le hthrough (List.prefix_append front rest)
      (by rw [List.length_append, List.length_singleton]; omega)
    have hc : isSeparator c = false := hfront c (by simp)
    have hpos := byteLength_pos (List.cons_ne_nil c more)
    rw [hc, List.append_assoc, byteLength_append]
    refine iff_of_true (.inl ⟨Nat.le_add_right position _, ?_⟩) rfl
    exact Nat.add_lt_add_left (Nat.lt_add_of_pos_right hpos) position

theorem exists_covers_iff (position : Nat) (before after : List Char) (c : Char) :
    (∃ lexeme ∈ lexFrom position (before ++ c :: after),
      lexeme.Covers (position + byteLength before)) ↔ isSeparator c = false := by
  generalize htext : before ++ c :: after = text
  induction position, text using lexing_induction generalizing before with
  | nil position => simp at htext
  | separator position d text hsep ih =>
    rw [lexFrom_separator hsep]
    cases before with
    | nil =>
      obtain ⟨rfl, rfl⟩ := List.cons.inj htext
      rw [hsep]
      simp only [Bool.true_eq_false, iff_false, not_exists, not_and]
      intro lexeme hmem
      exact not_covers_of_lt (Nat.lt_add_of_pos_right c.utf8Size_pos) hmem
    | cons first others =>
      obtain ⟨rfl, hothers⟩ := List.cons.inj htext
      rw [byteLength_cons, ← Nat.add_assoc]
      exact ih others hothers
  | numeral position n rest hscan ih =>
    rw [lexFrom_numeral hscan]
    exact exists_covers_cons (not_isSeparator_of_mem (Numeral.isWellFormed_of_scan hscan)) htext ih
  | char position d text hsep hscan ih =>
    have hone : byteLength [d] = d.utf8Size := by rw [byteLength_cons]; rfl
    rw [lexFrom_char hsep hscan, ← hone]
    have hsingle : ∀ c ∈ [d], isSeparator c = false := by simpa using hsep
    exact exists_covers_cons hsingle htext (hone ▸ ih)

/-- How the lexemes of path data lie in it. -/
structure IsLexing (data : String) (lexemes : List Lexeme) : Prop where
  /-- The lexemes follow one another. -/
  ordered : lexemes.Pairwise fun first second => first.stop ≤ second.start
  /-- Each has a range between characters that is not empty, and is read from its front of the
  rest. -/
  read : ∀ lexeme ∈ lexemes, ∃ before front rest : String, data = before ++ front ++ rest ∧
    lexeme.start = before.utf8ByteSize ∧ lexeme.stop = (before ++ front).utf8ByteSize ∧
      lexeme.start < lexeme.stop ∧ lexeme.token.IsReadFrom front.toList rest.toList
  /-- They cover the characters that are not separators. -/
  covered : ∀ (before rest : String) (c : Char), data = before ++ String.singleton c ++ rest →
    ((∃ lexeme ∈ lexemes, lexeme.Covers before.utf8ByteSize) ↔ c ∉ [' ', '\t', '\n', '\r', ','])

theorem lex_isLexing (data : String) : IsLexing data (lex data) := by
  constructor
  case ordered => exact lexFrom_pairwise 0 data.toList
  case read =>
    intro lexeme hmem
    obtain ⟨earlier, later, hsplit⟩ := List.append_of_mem hmem
    obtain ⟨before, front, rest, htext, hoccurs, -, -⟩ := exists_occurs hsplit
    have hstart := hoccurs.start_eq
    have hstop := hoccurs.stop_eq
    rw [Nat.zero_add, byteLength_eq] at hstart
    rw [hstart, byteLength_eq, ← String.utf8ByteSize_append] at hstop
    refine ⟨.ofList before, .ofList front, .ofList rest, ?_, hstart, hstop, hoccurs.start_lt, ?_⟩
    · rw [← String.ofList_append, ← String.ofList_append, List.append_assoc, ← htext,
        String.ofList_toList]
    · rw [String.toList_ofList, String.toList_ofList]
      exact hoccurs.token
  case covered =>
    rintro before rest c rfl
    have hcovers := exists_covers_iff 0 before.toList rest.toList c
    rw [Nat.zero_add, byteLength_toList] at hcovers
    rw [lex, String.toList_append, String.toList_append, String.toList_singleton, List.append_assoc,
      List.singleton_append, hcovers, ← isSeparator_iff, Bool.not_eq_true]

end PathData
end IconForge

import IconForge.Proofs.PathData.Clauses
import IconForge.Proofs.PathData.Lexing

/-!
# Where path data goes wrong

Path data that cannot be read has one error. Before it stand clauses that are counted, so that the
part before the error can be read by itself and is plain ASCII text; the error marks the first
clause that is not counted, or the first token that belongs to no clause (`parse_eq_error_iff`).
-/

namespace IconForge
namespace PathData

/-! ### The lexemes of a clause -/

def lastOf (first : Lexeme) (numbers : List Lexeme) : Lexeme :=
  (first :: numbers).getLast (List.cons_ne_nil first numbers)

/-- Lexemes that do not go on with a number. -/
def NoNumber (lexemes : List Lexeme) : Prop :=
  ∀ lexeme ∈ lexemes.head?, ∀ value, lexeme.token ≠ .number value

theorem NoNumber.cons {lexeme : Lexeme} (h : ∀ value, lexeme.token ≠ .number value)
    (others : List Lexeme) : NoNumber (lexeme :: others) := by
  rintro _ ⟨⟩
  exact h

theorem takeNumbers_append (first : Lexeme) {numbers later : List Lexeme} {values : List Binary32}
    (htokens : numbers.map Lexeme.token = values.map .number) (hlater : NoNumber later) :
    takeNumbers first.stop (numbers ++ later) = (values, (lastOf first numbers).stop, later) := by
  induction numbers generalizing first values with
  | nil =>
    rw [List.map_nil, eq_comm, List.map_eq_nil_iff] at htokens
    subst htokens
    rw [List.nil_append]
    unfold takeNumbers
    split
    · next value start stop rest => exact absurd rfl (hlater _ rfl value)
    · rfl
  | cons number others ih =>
    obtain ⟨value, values, rfl, hvalue, hvalues⟩ := List.map_eq_cons_iff.mp htokens.symm
    obtain ⟨token, start, stop⟩ := number
    dsimp only at hvalue
    subst hvalue
    rw [List.cons_append, takeNumbers, ih ⟨.number value, start, stop⟩ hvalues.symm]
    rfl

theorem exists_numbers (lexemes : List Lexeme) :
    ∃ (numbers later : List Lexeme) (values : List Binary32), lexemes = numbers ++ later ∧
      numbers.map Lexeme.token = values.map .number ∧ NoNumber later := by
  induction lexemes with
  | nil => exact ⟨[], [], [], rfl, rfl, nofun⟩
  | cons lexeme others ih =>
    by_cases hnumber : ∃ value, lexeme.token = .number value
    · obtain ⟨value, hvalue⟩ := hnumber
      obtain ⟨numbers, later, values, rfl, htokens, hlater⟩ := ih
      exact ⟨lexeme :: numbers, later, value :: values, rfl, by simp [hvalue, htokens], hlater⟩
    · exact ⟨[], lexeme :: others, [], rfl, rfl, .cons (not_exists.mp hnumber) others⟩

/-- Lexemes begin with all those of a clause, or with one that begins no clause. -/
@[elab_as_elim]
theorem clause_induction {P : List Lexeme → Prop} (nil : P [])
    (stray : ∀ lexeme later, (∀ letter, lexeme.token ≠ .command letter) → P (lexeme :: later))
    (clause : ∀ (clause : Clause) first numbers later,
      (first :: numbers).map Lexeme.token = clause.tokens → NoNumber later → P later →
        P (first :: numbers ++ later))
    (lexemes : List Lexeme) : P lexemes := by
  induction hlength : lexemes.length using Nat.strong_induction_on generalizing lexemes with
  | _ length ih =>
    cases lexemes with
    | nil => exact nil
    | cons first others =>
      by_cases hletter : ∃ letter, first.token = .command letter
      · obtain ⟨letter, hletter⟩ := hletter
        obtain ⟨numbers, later, values, rfl, htokens, hlater⟩ := exists_numbers others
        refine clause ⟨letter, values⟩ first numbers later ?_ hlater (ih _ ?_ later rfl)
        · rw [List.map_cons, hletter, htokens, Clause.tokens]
        · rw [← hlength, List.length_cons, List.length_append]
          omega
      · exact stray first others (not_exists.mp hletter)

/-! ### The error -/

theorem Segment.commands_eq_error_iff (s : Segment) (e : SyntaxError) :
    s.commands = .error e ↔
      ¬ s.clause.IsCounted ∧ e = ⟨s.start, s.stop, .argumentCount s.letter s.arguments.length⟩ := by
  have hok := s.commands_eq_ok_iff
  unfold Segment.commands at hok ⊢
  split at hok
  · next commands _ => simp [((hok commands).mp rfl).1]
  · have hcount : ¬ s.clause.IsCounted := fun h => nomatch (hok _).mpr ⟨h, rfl⟩
    simp [hcount, eq_comm]

theorem parseLexemes_nil : parseLexemes [] = .ok [] := by
  simp [parseLexemes, segments, commandsOfSegments, bind, Except.bind, pure, Except.pure]

theorem parseLexemes_stray {lexeme : Lexeme} (h : ∀ letter, lexeme.token ≠ .command letter)
    (later : List Lexeme) :
    parseLexemes (lexeme :: later) =
      .error ⟨lexeme.start, lexeme.stop, .unexpected lexeme.token⟩ := by
  obtain ⟨token, start, stop⟩ := lexeme
  cases token with
  | command letter => exact absurd rfl (h letter)
  | number value => simp [parseLexemes, segments, commandsOfSegments, bind, Except.bind]
  | unreadable => simp [parseLexemes, segments, commandsOfSegments, bind, Except.bind]

theorem parseLexemes_clause {clause : Clause} {first : Lexeme} {numbers later : List Lexeme}
    (htokens : (first :: numbers).map Lexeme.token = clause.tokens) (hlater : NoNumber later) :
    parseLexemes (first :: numbers ++ later) = do
      let commands ← Segment.commands
        ⟨clause.letter, clause.numbers, first.start, (lastOf first numbers).stop⟩
      let further ← parseLexemes later
      return commands ++ further := by
  obtain ⟨hfirst, hnumbers⟩ := List.cons.inj htokens
  have htake := takeNumbers_append first hnumbers hlater
  obtain ⟨token, start, stop⟩ := first
  dsimp only at hfirst htake
  subst hfirst
  simp only [parseLexemes, List.cons_append, segments, htake, commandsOfSegments, bind_assoc,
    pure_bind]
  cases (segments later).2 <;> rfl

/-- What an error marks in the lexemes after some clauses. -/
inductive SyntaxError.Marks (clauses : List Clause) : SyntaxError → List Lexeme → Prop
  /-- The clause that comes next, from its letter to the end of its last number, if it has a wrong
  number of them. -/
  | argumentCount {clause : Clause} {first : Lexeme} {numbers later : List Lexeme}
      (tokens : (first :: numbers).map Lexeme.token = clause.tokens) (ends : NoNumber later)
      (count : ¬ clause.IsCounted) :
      Marks clauses
        ⟨first.start, (lastOf first numbers).stop,
          .argumentCount clause.letter clause.numbers.length⟩
        (first :: numbers ++ later)
  /-- The token that comes next, if it is unreadable, or a number that no letter comes before. -/
  | unexpected {stray : Lexeme} {later : List Lexeme}
      (token : stray.token = .unreadable ∨ clauses = [] ∧ ∃ value, stray.token = .number value) :
      Marks clauses ⟨stray.start, stray.stop, .unexpected stray.token⟩ (stray :: later)

namespace SyntaxError.Marks

variable {clause : Clause} {clauses : List Clause} {e : SyntaxError} {lexemes : List Lexeme}

theorem cons_iff :
    e.Marks (clause :: clauses) lexemes ↔ e.Marks clauses lexemes ∧ NoNumber lexemes := by
  constructor
  · rintro (⟨tokens, ends, count⟩ | ⟨hunreadable | ⟨hnil, -⟩⟩)
    · have hfirst := (List.cons.inj tokens).1
      exact ⟨.argumentCount tokens ends count, .cons (by simp [hfirst]) _⟩
    · exact ⟨.unexpected (.inl hunreadable), .cons (by simp [hunreadable]) _⟩
    · cases hnil
  · rintro ⟨⟨tokens, ends, count⟩ | ⟨hunreadable | ⟨-, value, hvalue⟩⟩, hnumber⟩
    · exact .argumentCount tokens ends count
    · exact .unexpected (.inl hunreadable)
    · exact absurd hvalue (hnumber _ rfl value)

end SyntaxError.Marks

theorem noNumber_append {clauses : List Clause} {earlier rest : List Lexeme}
    (htokens : earlier.map Lexeme.token = clauses.flatMap Clause.tokens) (hrest : NoNumber rest) :
    NoNumber (earlier ++ rest) := by
  cases clauses with
  | nil =>
    rw [List.flatMap_nil, List.map_eq_nil_iff] at htokens
    subst htokens
    exact hrest
  | cons clause clauses =>
    rw [List.flatMap_cons, Clause.tokens, List.cons_append] at htokens
    obtain ⟨first, others, rfl, hfirst, -⟩ := List.map_eq_cons_iff.mp htokens
    exact .cons (by simp [hfirst]) _

theorem parseLexemes_eq_error_of_marks {clauses : List Clause} {earlier rest : List Lexeme}
    {e : SyntaxError} (htokens : earlier.map Lexeme.token = clauses.flatMap Clause.tokens)
    (hcounted : ∀ clause ∈ clauses, clause.IsCounted) (hmarks : e.Marks clauses rest) :
    parseLexemes (earlier ++ rest) = .error e := by
  induction clauses generalizing earlier with
  | nil =>
    rw [List.flatMap_nil, List.map_eq_nil_iff] at htokens
    subst htokens
    rw [List.nil_append]
    cases hmarks with
    | argumentCount tokens ends count =>
      rw [parseLexemes_clause tokens ends, bind_eq_error_iff, Segment.commands_eq_error_iff]
      exact .inl ⟨count, rfl⟩
    | unexpected token =>
      apply parseLexemes_stray
      intro letter hletter
      simp [hletter] at token
  | cons clause clauses ih =>
    obtain ⟨hmarks, hnumber⟩ := SyntaxError.Marks.cons_iff.mp hmarks
    obtain ⟨hclause, hclauses⟩ := List.forall_mem_cons.mp hcounted
    rw [List.flatMap_cons] at htokens
    obtain ⟨group, earlier, rfl, hgroup, hothers⟩ := List.map_eq_append_iff.mp htokens
    obtain ⟨first, numbers, rfl, -, -⟩ := List.map_eq_cons_iff.mp hgroup
    rw [List.append_assoc, parseLexemes_clause hgroup (noNumber_append hothers hnumber),
      bind_eq_error_iff]
    refine .inr ⟨_, (Segment.commands_eq_ok_iff _ _).mpr ⟨hclause, rfl⟩, ?_⟩
    rw [bind_eq_error_iff]
    exact .inl (ih hothers hclauses hmarks)

theorem exists_marks_of_error {lexemes : List Lexeme} {e : SyntaxError}
    (h : parseLexemes lexemes = .error e) :
    ∃ clauses earlier rest, lexemes = earlier ++ rest ∧
      earlier.map Lexeme.token = clauses.flatMap Clause.tokens ∧
        (∀ clause ∈ clauses, clause.IsCounted) ∧ e.Marks clauses rest := by
  induction lexemes using clause_induction with
  | nil =>
    rw [parseLexemes_nil] at h
    cases h
  | stray lexeme later hcommand =>
    rw [parseLexemes_stray hcommand] at h
    cases h
    refine ⟨[], [], _, rfl, rfl, nofun, .unexpected ?_⟩
    cases htoken : lexeme.token with
    | command letter => exact absurd htoken (hcommand letter)
    | number value => exact .inr ⟨rfl, value, rfl⟩
    | unreadable => exact .inl rfl
  | clause clause first numbers later htokens hlater ih =>
    rw [parseLexemes_clause htokens hlater, bind_eq_error_iff,
      Segment.commands_eq_error_iff] at h
    obtain ⟨hcount, rfl⟩ | ⟨commands, hcommands, h⟩ := h
    · exact ⟨[], [], _, rfl, rfl, nofun, .argumentCount htokens hlater hcount⟩
    · obtain ⟨hcounted, -⟩ := (Segment.commands_eq_ok_iff _ _).mp hcommands
      obtain h | ⟨further, -, h⟩ := bind_eq_error_iff.mp h
      · obtain ⟨clauses, earlier, rest, rfl, hearlier, hclauses, hmarks⟩ := ih h
        refine ⟨clause :: clauses, first :: numbers ++ earlier, rest, ?_, ?_,
          List.forall_mem_cons.mpr ⟨hcounted, hclauses⟩, ?_⟩
        · rw [List.append_assoc]
        · rw [List.map_append, htokens, hearlier, List.flatMap_cons]
        · cases clauses with
          | nil =>
            rw [List.flatMap_nil, List.map_eq_nil_iff] at hearlier
            subst hearlier
            exact SyntaxError.Marks.cons_iff.mpr ⟨hmarks, hlater⟩
          | cons next clauses =>
            obtain ⟨-, hnumber⟩ := SyntaxError.Marks.cons_iff.mp hmarks
            exact SyntaxError.Marks.cons_iff.mpr ⟨hmarks, hnumber⟩
      · exact absurd h pure_ne_error

/-! ### Its place -/

theorem exists_parts {position : Nat} {text : List Char} {earlier numbers later : List Lexeme}
    {first : Lexeme} (h : lexFrom position text = earlier ++ (first :: numbers ++ later)) :
    ∃ before marked rest, text = before ++ marked ++ rest ∧ marked ≠ [] ∧
      first.start = position + byteLength before ∧
        (lastOf first numbers).stop = first.start + byteLength marked ∧
          lexFrom position before = earlier := by
  obtain ⟨before, front, rest, rfl, hoccurs, hearlier, hothers⟩ := exists_occurs h
  have hfront := hoccurs.token.front_ne_nil
  obtain rfl | ⟨numbers, last, rfl⟩ := numbers.eq_nil_or_concat
  · refine ⟨before, front, rest, ?_, hfront, hoccurs.start_eq, hoccurs.stop_eq, hearlier⟩
    rw [List.append_assoc]
  · have hothers : lexFrom first.stop rest = numbers ++ last :: later := by simpa using hothers
    obtain ⟨between, front', rest, rfl, hlast, -, -⟩ := exists_occurs hothers
    refine ⟨before, front ++ between ++ front', rest, ?_, ?_, hoccurs.start_eq, ?_, hearlier⟩
    · simp
    · simp [hfront]
    · have hlastOf : lastOf first (numbers.concat last) = last := by simp [lastOf]
      rw [hlastOf, hlast.stop_eq, hlast.start_eq, hoccurs.stop_eq, byteLength_append,
        byteLength_append]
      omega

theorem toNat_lt_of_isNumeralChar {c : Char} (h : Numeral.IsNumeralChar c) : c.toNat < 128 := by
  rcases h with hdigit | hother
  · exact (Char.isDigit_iff_toNat.mp hdigit).2.trans_lt (by decide)
  · fin_cases hother <;> decide

theorem toNat_lt_of_isSeparator {c : Char} (h : isSeparator c = true) : c.toNat < 128 := by
  have hmem := isSeparator_iff.mp h
  fin_cases hmem <;> decide

theorem Letter.toNat_toChar_lt (letter : Letter) : letter.toChar.toNat < 128 := by
  obtain ⟨verb, relative⟩ := letter
  cases verb <;> cases relative <;> decide

theorem toNat_lt_of_readable {position : Nat} {text : List Char}
    (h : ∀ lexeme ∈ lexFrom position text, lexeme.token ≠ .unreadable) :
    ∀ c ∈ text, c.toNat < 128 := by
  induction position, text using lexing_induction with
  | nil position => exact nofun
  | separator position c text hsep ih =>
    rw [lexFrom_separator hsep] at h
    exact List.forall_mem_cons.mpr ⟨toNat_lt_of_isSeparator hsep, ih h⟩
  | numeral position n rest hscan ih =>
    rw [lexFrom_numeral hscan, List.forall_mem_cons] at h
    have hn := (Numeral.isWellFormed_of_scan hscan).isNumeralChar
    exact List.forall_mem_append.mpr ⟨fun c hc => toNat_lt_of_isNumeralChar (hn c hc), ih h.2⟩
  | char position c text hsep hscan ih =>
    rw [lexFrom_char hsep hscan, List.forall_mem_cons] at h
    refine List.forall_mem_cons.mpr ⟨?_, ih h.2⟩
    cases htoken : Token.ofChar c with
    | command letter => exact toChar_of_ofChar htoken ▸ letter.toNat_toChar_lt
    | number value =>
      unfold Token.ofChar at htoken
      split at htoken <;> cases htoken
    | unreadable => exact absurd htoken h.1

theorem toNat_lt_of_parse {data : String} {drawn : List PathCommand} (h : parse data = .ok drawn) :
    ∀ c ∈ data.toList, c.toNat < 128 := by
  obtain ⟨clauses, htokens, -, -⟩ := (parseLexemes_eq_ok_iff_clauses _ _).mp h
  have hreadable : ∀ lexeme ∈ lexFrom 0 data.toList, lexeme.token ≠ .unreadable := by
    intro lexeme hmem hunreadable
    apply Clause.unreadable_not_mem_tokens clauses
    rw [← htokens, ← hunreadable]
    exact List.mem_map_of_mem hmem
  exact toNat_lt_of_readable hreadable

theorem length_eq_byteLength {text : List Char} (h : ∀ c ∈ text, c.toNat < 128) :
    text.length = byteLength text := by
  induction text with
  | nil => rfl
  | cons c others ih =>
    obtain ⟨hc, hothers⟩ := List.forall_mem_cons.mp h
    have hsize : c.utf8Size = 1 := Char.utf8Size_eq_one_iff.mpr (Nat.le_of_lt_succ hc)
    rw [List.length_cons, byteLength_cons, ih hothers, hsize, Nat.add_comm]

/-- How an error lies in path data, given the parts before it, under it and after it. -/
structure SyntaxError.IsLocated (e : SyntaxError) (data before marked rest : String) : Prop where
  data_eq : data = before ++ marked ++ rest
  start_eq : e.start = before.utf8ByteSize
  stop_eq : e.stop = (before ++ marked).utf8ByteSize
  start_lt : e.start < e.stop
  stop_le : e.stop ≤ data.utf8ByteSize
  /-- The part before the error can be read by itself. -/
  accepted : ∃ drawn, parse before = .ok drawn
  /-- It is plain, so that its characters are as many as its bytes. -/
  plain : ∀ c ∈ before.toList, c.toNat < 128
  length_eq : before.length = e.start
  /-- Its lexemes are those before the error, and make up clauses that are all counted. -/
  cause : ∃ lexemes clauses, lex data = lex before ++ lexemes ∧
    (lex before).map Lexeme.token = clauses.flatMap Clause.tokens ∧
      (∀ clause ∈ clauses, clause.IsCounted) ∧ e.Marks clauses lexemes

theorem SyntaxError.Marks.exists_range {clauses : List Clause} {e : SyntaxError}
    {lexemes : List Lexeme} (h : e.Marks clauses lexemes) :
    ∃ first numbers later, lexemes = first :: numbers ++ later ∧ e.start = first.start ∧
      e.stop = (lastOf first numbers).stop := by
  cases h with
  | argumentCount tokens ends count => exact ⟨_, _, _, rfl, rfl, rfl⟩
  | @unexpected stray later token => exact ⟨stray, [], later, rfl, rfl, rfl⟩

theorem SyntaxError.Marks.exists_isLocated {data : String} {clauses : List Clause}
    {earlier lexemes : List Lexeme} {e : SyntaxError} (hlex : lex data = earlier ++ lexemes)
    (htokens : earlier.map Lexeme.token = clauses.flatMap Clause.tokens)
    (hcounted : ∀ clause ∈ clauses, clause.IsCounted) (hmarks : e.Marks clauses lexemes) :
    ∃ before marked rest, e.IsLocated data before marked rest := by
  obtain ⟨first, numbers, later, rfl, hstart, hstop⟩ := hmarks.exists_range
  obtain ⟨before, marked, rest, htext, hmarked, hbefore, hlast, hearlier⟩ := exists_parts hlex
  rw [Nat.zero_add, ← hstart] at hbefore
  rw [← hstop, ← hstart] at hlast
  have hdata : data = .ofList before ++ .ofList marked ++ .ofList rest := by
    rw [← String.ofList_append, ← String.ofList_append, ← htext, String.ofList_toList]
  have hlexBefore : lex (.ofList before) = earlier := by rw [lex, String.toList_ofList, hearlier]
  have haccepted : parse (.ofList before) = .ok (clauses.flatMap Clause.commands) := by
    rw [parse, parseLexemes_eq_ok_iff_clauses, hlexBefore]
    exact ⟨clauses, htokens, hcounted, rfl⟩
  have hplain := toNat_lt_of_parse haccepted
  refine ⟨.ofList before, .ofList marked, .ofList rest, ?_⟩
  constructor
  case data_eq => exact hdata
  case start_eq => rw [hbefore, byteLength_eq]
  case stop_eq => rw [hlast, hbefore, byteLength_eq, byteLength_eq, String.utf8ByteSize_append]
  case start_lt =>
    rw [hlast]
    exact Nat.lt_add_of_pos_right (byteLength_pos hmarked)
  case stop_le =>
    rw [hlast, hbefore, byteLength_eq, byteLength_eq, hdata, String.utf8ByteSize_append,
      String.utf8ByteSize_append]
    exact Nat.le_add_right _ _
  case accepted => exact ⟨_, haccepted⟩
  case plain => exact hplain
  case length_eq =>
    rw [← String.length_toList, length_eq_byteLength hplain, String.toList_ofList, hbefore]
  case cause =>
    rw [hlexBefore]
    exact ⟨_, clauses, hlex, htokens, hcounted, hmarks⟩

/-- Path data fails with the error that is located in it, and with no other. -/
theorem parse_eq_error_iff (data : String) (e : SyntaxError) :
    parse data = .error e ↔ ∃ before marked rest, e.IsLocated data before marked rest := by
  constructor
  · intro h
    obtain ⟨clauses, earlier, lexemes, hlex, htokens, hcounted, hmarks⟩ := exists_marks_of_error h
    exact hmarks.exists_isLocated hlex htokens hcounted
  · rintro ⟨before, marked, rest, hlocated⟩
    obtain ⟨lexemes, clauses, hlex, htokens, hcounted, hmarks⟩ := hlocated.cause
    rw [parse, hlex]
    exact parseLexemes_eq_error_of_marks htokens hcounted hmarks

example : parse "M0 0L1 2 3é" = .error ⟨4, 10, .argumentCount ⟨.lineTo, false⟩ 3⟩ := by
  decide +kernel

end PathData
end IconForge

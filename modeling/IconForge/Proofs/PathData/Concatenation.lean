import IconForge.Proofs.PathData.Clauses
import IconForge.Proofs.PathData.Lexing

/-!
# Path data one after another

Path data that can be read begins with a separator or a letter, and no numeral is made of these. So
the last number of the path data before it ends where it does, and the letter begins a clause of its
own: what the two draw together is what each draws by itself (`parse_append`).
-/

namespace IconForge
namespace PathData

theorem Letter.not_isNumeralChar (letter : Letter) : ¬ Numeral.IsNumeralChar letter.toChar := by
  obtain ⟨verb, relative⟩ := letter
  cases verb <;> cases relative <;> decide

theorem ofNumeral_ne_command (n : Numeral) (letter : Letter) :
    Token.ofNumeral n ≠ .command letter := by
  simp only [Token.ofNumeral]
  split <;> simp

theorem ofChar_ne_command {c : Char} (hc : Numeral.IsNumeralChar c) (letter : Letter) :
    Token.ofChar c ≠ .command letter :=
  fun h => letter.not_isNumeralChar (toChar_of_ofChar h ▸ hc)

theorem exists_token_ne_command {c : Char} (hc : Numeral.IsNumeralChar c) (position : Nat)
    (text : List Char) :
    ∃ lexeme others, lexFrom position (c :: text) = lexeme :: others ∧
      ∀ letter, lexeme.token ≠ .command letter := by
  cases hscan : Numeral.scan (c :: text) with
  | some scanned =>
    obtain ⟨n, rest⟩ := scanned
    exact ⟨_, _, lexFrom_numeral hscan position, ofNumeral_ne_command n⟩
  | none =>
    exact ⟨_, _, lexFrom_char (isSeparator_of_isNumeralChar hc) hscan position,
      ofChar_ne_command hc⟩

theorem not_isNumeralChar_of_parse {data : String} {drawn : List PathCommand}
    (h : parse data = .ok drawn) : ∀ c ∈ data.toList.head?, ¬ Numeral.IsNumeralChar c := by
  intro c hc hnumeral
  obtain ⟨clauses, htokens, -, -⟩ := (parseLexemes_eq_ok_iff_clauses _ _).mp h
  obtain ⟨text, htext⟩ := List.head?_eq_some_iff.mp hc
  obtain ⟨lexeme, others, hlex, hne⟩ := exists_token_ne_command hnumeral 0 text
  rw [lex, htext, hlex] at htokens
  cases clauses with
  | nil => simp at htokens
  | cons clause clauses =>
    rw [List.map_cons, List.flatMap_cons, Clause.tokens, List.cons_append] at htokens
    exact hne clause.letter (List.cons.inj htokens).1

/-- Tokens do not depend on where the text starts. -/
theorem tokens_lexFrom (position other : Nat) (text : List Char) :
    (lexFrom position text).map Lexeme.token = (lexFrom other text).map Lexeme.token := by
  induction position, text using lexing_induction generalizing other with
  | nil position => rw [lexFrom_nil, lexFrom_nil]
  | separator position c text hsep ih => rw [lexFrom_separator hsep, lexFrom_separator hsep, ih]
  | numeral position n rest hscan ih =>
    rw [lexFrom_numeral hscan, lexFrom_numeral hscan, List.map_cons, List.map_cons, ih]
  | char position c text hsep hscan ih =>
    rw [lexFrom_char hsep hscan, lexFrom_char hsep hscan, List.map_cons, List.map_cons, ih]

/-- Path data that can be read draws the same after other path data that can be read. -/
theorem parse_append {first second : String} {drawn further : List PathCommand}
    (hfirst : parse first = .ok drawn) (hsecond : parse second = .ok further) :
    parse (first ++ second) = .ok (drawn ++ further) := by
  have hborder := not_isNumeralChar_of_parse hsecond
  obtain ⟨clauses, htokens, hcounted, rfl⟩ := (parseLexemes_eq_ok_iff_clauses _ _).mp hfirst
  obtain ⟨clauses', htokens', hcounted', rfl⟩ := (parseLexemes_eq_ok_iff_clauses _ _).mp hsecond
  rw [parse, lex, String.toList_append, lexFrom_append hborder, parseLexemes_eq_ok_iff_clauses]
  refine ⟨clauses ++ clauses', ?_, List.forall_mem_append.mpr ⟨hcounted, hcounted'⟩, ?_⟩
  · rw [List.map_append, List.flatMap_append]
    exact congrArg₂ (· ++ ·) htokens ((tokens_lexFrom _ 0 _).trans htokens')
  · rw [List.flatMap_append]

theorem parse_append_packed :
    parse "M0 0L1.5-2" = .ok [.moveTo false ⟨.ofInt 0, .ofInt 0⟩,
        .lineTo false ⟨.ofFraction false 3 2, .ofInt (-2)⟩] ∧
      parse "h1e1z" = .ok [.horizontalTo true (.ofInt 10), .close] ∧
        parse ("M0 0L1.5-2" ++ "h1e1z") = .ok
          ([.moveTo false ⟨.ofInt 0, .ofInt 0⟩,
              .lineTo false ⟨.ofFraction false 3 2, .ofInt (-2)⟩] ++
            [.horizontalTo true (.ofInt 10), .close]) := by
  have hfirst : parse "M0 0L1.5-2" = .ok [.moveTo false ⟨.ofInt 0, .ofInt 0⟩,
      .lineTo false ⟨.ofFraction false 3 2, .ofInt (-2)⟩] := by decide +kernel
  have hsecond : parse "h1e1z" = .ok [.horizontalTo true (.ofInt 10), .close] := by
    decide +kernel
  exact ⟨hfirst, hsecond, parse_append hfirst hsecond⟩

end PathData
end IconForge

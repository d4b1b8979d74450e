import Mathlib.Logic.Relation
import IconForge.Proofs.PathData.Concatenation
import IconForge.Proofs.PathData.Faults

/-!
# Separators in path data

Where one lexeme has ended and the next one has not begun, any separators may stand. Path data that
differ only in such separators have the same tokens in the same order, so that they draw the same
commands, or have the same fault at the same tokens (`parse_respaced`).
-/

namespace IconForge
namespace PathData

/-! ### Borders between lexemes -/

/-- A run of separators, which may be empty. -/
def IsSpacing (text : List Char) : Prop := ∀ c ∈ text, c ∈ [' ', '\t', '\n', '\r', ',']

instance (text : List Char) : Decidable (IsSpacing text) :=
  List.decidableBAll (· ∈ [' ', '\t', '\n', '\r', ',']) text

/-- No lexeme goes on across a position. -/
def IsBorder (lexemes : List Lexeme) (position : Nat) : Prop :=
  ∀ lexeme ∈ lexemes, lexeme.stop ≤ position ∨ position ≤ lexeme.start

instance (lexemes : List Lexeme) (position : Nat) : Decidable (IsBorder lexemes position) :=
  inferInstanceAs
    (Decidable (∀ lexeme ∈ lexemes, lexeme.stop ≤ position ∨ position ≤ lexeme.start))

theorem prefix_of_byteLength_le {front before text : List Char} (hfront : front <+: text)
    (hbefore : before <+: text) (h : byteLength front ≤ byteLength before) : front <+: before := by
  rcases List.prefix_or_prefix_of_prefix hfront hbefore with hprefix | ⟨more, rfl⟩
  · exact hprefix
  · rw [byteLength_append] at h
    cases more with
    | nil => rw [List.append_nil]
    | cons c others =>
      have hpos := byteLength_pos (List.cons_ne_nil c others)
      omega

/-- Text in two parts has the lexemes of both, if none of its lexemes goes on across the border. -/
theorem lexFrom_append_of_isBorder {position : Nat} {before after : List Char}
    (h : IsBorder (lexFrom position (before ++ after)) (position + byteLength before)) :
    lexFrom position (before ++ after) =
      lexFrom position before ++ lexFrom (position + byteLength before) after := by
  have hnothing (position : Nat) : lexFrom position after =
      lexFrom position [] ++ lexFrom (position + byteLength []) after := by
    rw [lexFrom_nil]
    rfl
  generalize htext : before ++ after = text at h ⊢
  induction position, text using lexing_induction generalizing before with
  | nil position =>
    obtain ⟨rfl, rfl⟩ := List.append_eq_nil_iff.mp htext
    rw [lexFrom_nil, lexFrom_nil, List.nil_append]
  | separator position c text hsep ih =>
    cases before with
    | nil =>
      rw [← htext]
      exact hnothing position
    | cons d others =>
      rw [List.cons_append, List.cons.injEq] at htext
      obtain ⟨rfl, hothers⟩ := htext
      rw [lexFrom_separator hsep, byteLength_cons, ← Nat.add_assoc] at h
      rw [lexFrom_separator hsep, lexFrom_separator hsep, byteLength_cons, ← Nat.add_assoc,
        ih hothers h]
  | numeral position n rest hscan ih =>
    cases before with
    | nil =>
      rw [← htext]
      exact hnothing position
    | cons d others =>
      have hpos := byteLength_pos (List.cons_ne_nil d others)
      rw [lexFrom_numeral hscan] at h
      obtain ⟨hfirst, hborder⟩ := List.forall_mem_cons.mp h
      dsimp only at hfirst
      obtain ⟨more, hmore⟩ := prefix_of_byteLength_le (List.prefix_append n.text rest)
        ⟨after, htext⟩ (by omega)
      rw [← hmore, List.append_assoc, List.append_cancel_left_eq] at htext
      rw [← hmore, byteLength_append, ← Nat.add_assoc] at hborder ⊢
      have hcut : Numeral.scan (n.text ++ more) = some (n, more) := by
        rw [← htext, ← List.append_assoc] at hscan
        exact Numeral.scan_of_append hscan
      rw [lexFrom_numeral hscan, lexFrom_numeral hcut, ih htext hborder, List.cons_append]
  | char position c text hsep hscan ih =>
    cases before with
    | nil =>
      rw [← htext]
      exact hnothing position
    | cons d others =>
      rw [List.cons_append, List.cons.injEq] at htext
      obtain ⟨rfl, hothers⟩ := htext
      rw [lexFrom_char hsep hscan, byteLength_cons, ← Nat.add_assoc] at h
      have hcut : Numeral.scan (d :: others) = none := by
        rw [← hothers, ← List.cons_append] at hscan
        exact Numeral.scan_eq_none_of_append hscan
      rw [lexFrom_char hsep hscan, lexFrom_char hsep hcut, byteLength_cons, ← Nat.add_assoc,
        ih hothers (List.forall_mem_cons.mp h).2, List.cons_append]

theorem lexFrom_spacing {spacing : List Char} (h : IsSpacing spacing) (position : Nat)
    (text : List Char) :
    lexFrom position (spacing ++ text) = lexFrom (position + byteLength spacing) text := by
  induction spacing generalizing position with
  | nil => rfl
  | cons c others ih =>
    obtain ⟨hc, hothers⟩ := List.forall_mem_cons.mp h
    rw [List.cons_append, lexFrom_separator (isSeparator_iff.mpr hc), ih hothers, byteLength_cons,
      Nat.add_assoc]

theorem tokens_spaced {spacing : List Char} (h : IsSpacing spacing) (hne : spacing ≠ [])
    (position : Nat) (before after : List Char) :
    (lexFrom position (before ++ (spacing ++ after))).map Lexeme.token =
      (lexFrom position before).map Lexeme.token ++ (lexFrom position after).map Lexeme.token := by
  have hhead : ∀ c ∈ (spacing ++ after).head?, ¬ Numeral.IsNumeralChar c := by
    intro c hc hnumeral
    obtain ⟨first, others, rfl⟩ := List.exists_cons_of_ne_nil hne
    rw [List.cons_append, List.head?_cons, Option.mem_some_iff] at hc
    subst hc
    have hsep := isSeparator_iff.mpr (h first List.mem_cons_self)
    rw [isSeparator_of_isNumeralChar hnumeral] at hsep
    cases hsep
  rw [lexFrom_append hhead, lexFrom_spacing h, List.map_append, tokens_lexFrom _ position after]

/-! ### Changes of separators -/

/-- Path data that differ in the separators at one place. -/
inductive Respaced : String → String → Prop
  /-- Separators are put before the first lexeme, after the last one or between two of them. -/
  | insert (before spacing after : String) (isSpacing : IsSpacing spacing.toList)
      (isBorder : IsBorder (lex (before ++ after)) before.utf8ByteSize) :
      Respaced (before ++ after) (before ++ spacing ++ after)
  /-- A run of separators is replaced by another one. -/
  | replace (before spacing spacing' after : String) (isSpacing : IsSpacing spacing.toList)
      (isSpacing' : IsSpacing spacing'.toList) (ne_empty : spacing ≠ "")
      (ne_empty' : spacing' ≠ "") :
      Respaced (before ++ spacing ++ after) (before ++ spacing' ++ after)

theorem tokens_lex_spaced {spacing : String} (h : IsSpacing spacing.toList) (hne : spacing ≠ "")
    (before after : String) :
    (lex (before ++ spacing ++ after)).map Lexeme.token =
      (lex before).map Lexeme.token ++ (lex after).map Lexeme.token := by
  have hlist : spacing.toList ≠ [] := fun hnil => hne (String.toList_eq_nil_iff.mp hnil)
  rw [lex, String.toList_append, String.toList_append, List.append_assoc, tokens_spaced h hlist]
  rfl

theorem Respaced.tokens_eq {data data' : String} (h : Respaced data data') :
    (lex data).map Lexeme.token = (lex data').map Lexeme.token := by
  cases h with
  | insert before spacing after isSpacing isBorder =>
    by_cases hempty : spacing = ""
    · rw [hempty, String.append_empty]
    · rw [tokens_lex_spaced isSpacing hempty]
      rw [lex, String.toList_append, ← byteLength_toList, ← Nat.zero_add (byteLength _)] at isBorder
      rw [lex, String.toList_append, lexFrom_append_of_isBorder isBorder, List.map_append,
        tokens_lexFrom _ 0 after.toList]
      rfl
  | replace before spacing spacing' after isSpacing isSpacing' ne_empty ne_empty' =>
    rw [tokens_lex_spaced isSpacing ne_empty, tokens_lex_spaced isSpacing' ne_empty']

/-! ### The same tokens -/

/-- An error reaches from the start of one lexeme to the end of another, given their indices. -/
structure SyntaxError.Reaches (e : SyntaxError) (lexemes : List Lexeme) (first last : Nat) :
    Prop where
  start_eq : lexemes[first]?.map Lexeme.start = some e.start
  stop_eq : lexemes[last]?.map Lexeme.stop = some e.stop

/-- What two lists of lexemes are read as is the same: the same commands, or errors with one fault,
and so with one message, that reach from the same lexeme to the same lexeme. -/
inductive SameOutcome (lexemes lexemes' : List Lexeme) :
    Except SyntaxError (List PathCommand) → Except SyntaxError (List PathCommand) → Prop
  | ok (drawn : List PathCommand) : SameOutcome lexemes lexemes' (.ok drawn) (.ok drawn)
  | error {e e' : SyntaxError} (first last : Nat) (fault : e.fault = e'.fault)
      (message : e.message = e'.message) (reaches : e.Reaches lexemes first last)
      (reaches' : e'.Reaches lexemes' first last) :
      SameOutcome lexemes lexemes' (.error e) (.error e')

theorem SyntaxError.Reaches.append {e : SyntaxError} {lexemes : List Lexeme} {first last : Nat}
    (h : e.Reaches lexemes first last) (earlier : List Lexeme) :
    e.Reaches (earlier ++ lexemes) (earlier.length + first) (earlier.length + last) := by
  constructor
  case start_eq =>
    rw [List.getElem?_append_right (Nat.le_add_right _ _), Nat.add_sub_cancel_left, h.start_eq]
  case stop_eq =>
    rw [List.getElem?_append_right (Nat.le_add_right _ _), Nat.add_sub_cancel_left, h.stop_eq]

theorem NoNumber.of_tokens_eq {lexemes lexemes' : List Lexeme} (h : NoNumber lexemes)
    (htokens : lexemes.map Lexeme.token = lexemes'.map Lexeme.token) : NoNumber lexemes' := by
  cases lexemes' with
  | nil => exact nofun
  | cons first' others' =>
    obtain ⟨first, others, rfl, hfirst, -⟩ := List.map_eq_cons_iff.mp htokens
    exact .cons (hfirst ▸ h first rfl) others'

theorem reaches_clause (clause : Clause) (first : Lexeme) (numbers later : List Lexeme) :
    SyntaxError.Reaches
      ⟨first.start, (lastOf first numbers).stop, .argumentCount clause.letter clause.numbers.length⟩
      (first :: numbers ++ later) 0 numbers.length := by
  constructor
  case start_eq => rfl
  case stop_eq =>
    rw [List.getElem?_append_left (by simp), lastOf, List.getLast_eq_getElem]
    simp

/-- A fault is found in other lexemes with the same tokens, at the same ones. -/
theorem SyntaxError.Marks.exists_of_tokens_eq {clauses : List Clause} {e : SyntaxError}
    {lexemes lexemes' : List Lexeme} (h : e.Marks clauses lexemes)
    (htokens : lexemes.map Lexeme.token = lexemes'.map Lexeme.token) :
    ∃ (e' : SyntaxError) (last : Nat), e'.Marks clauses lexemes' ∧ e.fault = e'.fault ∧
      e.Reaches lexemes 0 last ∧ e'.Reaches lexemes' 0 last := by
  cases h with
  | @argumentCount clause first numbers later tokens ends count =>
    rw [List.map_append, eq_comm] at htokens
    obtain ⟨front, later', rfl, hfront, hlater⟩ := List.map_eq_append_iff.mp htokens
    rw [List.map_cons] at hfront
    obtain ⟨first', numbers', rfl, hfirst, hnumbers⟩ := List.map_eq_cons_iff.mp hfront
    have hlength : numbers.length = numbers'.length := by
      rw [← List.length_map Lexeme.token, ← hnumbers, List.length_map]
    have htokens' : (first' :: numbers').map Lexeme.token = clause.tokens := by
      rw [← tokens, List.map_cons, List.map_cons, hfirst, hnumbers]
    refine ⟨_, numbers.length, .argumentCount htokens' (ends.of_tokens_eq hlater.symm) count, rfl,
      reaches_clause clause first numbers later, ?_⟩
    rw [hlength]
    exact reaches_clause clause first' numbers' later'
  | @unexpected stray later token =>
    rw [List.map_cons, eq_comm] at htokens
    obtain ⟨stray', later', rfl, hstray, -⟩ := List.map_eq_cons_iff.mp htokens
    refine ⟨_, 0, .unexpected (hstray ▸ token), ?_, ⟨rfl, rfl⟩, ⟨rfl, rfl⟩⟩
    rw [hstray]

theorem parseLexemes_of_tokens_eq {lexemes lexemes' : List Lexeme}
    (htokens : lexemes.map Lexeme.token = lexemes'.map Lexeme.token) :
    SameOutcome lexemes lexemes' (parseLexemes lexemes) (parseLexemes lexemes') := by
  cases hparse : parseLexemes lexemes with
  | ok drawn =>
    have hparse' : parseLexemes lexemes' = .ok drawn := by
      rw [parseLexemes_eq_ok_iff_clauses] at hparse ⊢
      rwa [← htokens]
    rw [hparse']
    exact .ok drawn
  | error e =>
    obtain ⟨clauses, earlier, rest, rfl, hearlier, hcounted, hmarks⟩ := exists_marks_of_error hparse
    rw [List.map_append, eq_comm] at htokens
    obtain ⟨earlier', rest', rfl, hbefore, hrest⟩ := List.map_eq_append_iff.mp htokens
    obtain ⟨e', last, hmarks', hfault, hreaches, hreaches'⟩ := hmarks.exists_of_tokens_eq hrest.symm
    have hlength : earlier.length = earlier'.length := by
      rw [← List.length_map Lexeme.token, ← hbefore, List.length_map]
    rw [parseLexemes_eq_error_of_marks (hbefore.trans hearlier) hcounted hmarks']
    refine .error (earlier.length + 0) (earlier.length + last) hfault ?_ (hreaches.append earlier) ?_
    · rw [SyntaxError.message, hfault, SyntaxError.message]
    · rw [hlength]
      exact hreaches'.append earlier'

/-- Path data that differ in separators only, at any number of places, have the same tokens and are
read as the same. -/
theorem parse_respaced {data data' : String} (h : Relation.ReflTransGen Respaced data data') :
    (lex data).map Lexeme.token = (lex data').map Lexeme.token ∧
      SameOutcome (lex data) (lex data') (parse data) (parse data') := by
  have htokens : (lex data).map Lexeme.token = (lex data').map Lexeme.token := by
    induction h with
    | refl => rfl
    | tail _ hstep ih => exact ih.trans hstep.tokens_eq
  exact ⟨htokens, parseLexemes_of_tokens_eq htokens⟩

/-- Three numbers in a row, of which no separator stands before the second: one is put there, and
another one is written in a different way. The line has a number too few in either. -/
theorem parse_respaced_line :
    Respaced "M0 0L1.5.5-2" "M0 0L1.5, .5-2" ∧ Respaced "M0 0L1.5, .5-2" "M0\t,0L1.5, .5-2" ∧
      SameOutcome (lex "M0 0L1.5.5-2") (lex "M0\t,0L1.5, .5-2")
        (.error ⟨4, 12, .argumentCount ⟨.lineTo, false⟩ 3⟩)
        (.error ⟨5, 15, .argumentCount ⟨.lineTo, false⟩ 3⟩) := by
  have hinsert : Respaced "M0 0L1.5.5-2" "M0 0L1.5, .5-2" :=
    .insert "M0 0L1.5" ", " ".5-2" (by decide) (by decide +kernel)
  have hreplace : Respaced "M0 0L1.5, .5-2" "M0\t,0L1.5, .5-2" :=
    .replace "M0" " " "\t," "0L1.5, .5-2" (by decide) (by decide) (by decide) (by decide)
  have hparse : parse "M0 0L1.5.5-2" = .error ⟨4, 12, .argumentCount ⟨.lineTo, false⟩ 3⟩ := by
    decide +kernel
  have hparse' :
      parse "M0\t,0L1.5, .5-2" = .error ⟨5, 15, .argumentCount ⟨.lineTo, false⟩ 3⟩ := by
    decide +kernel
  refine ⟨hinsert, hreplace, ?_⟩
  rw [← hparse, ← hparse']
  exact (parse_respaced ((Relation.ReflTransGen.single hinsert).tail hreplace)).2

end PathData
end IconForge

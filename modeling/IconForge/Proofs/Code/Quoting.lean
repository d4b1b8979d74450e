import IconForge.Code.Render
import Mathlib

/-!
# Literals of texts

A reader of the generated language takes a literal up to the first quotation mark that is not
escaped, a backslash and the character behind it being one escape. What `quote` writes is read as
the text that was quoted, and no further than its last mark (`quote_isLiteral`): whatever is in the
text, it neither ends its literal nor begins an expression in it.
-/

namespace IconForge

/-- The character that an escape stands for, by the character behind its backslash. -/
def escaped? : Char → Option Char
  | '"' => some '"'
  | '\\' => some '\\'
  | '$' => some '$'
  | 'n' => some '\n'
  | _ => none

/-- Reads a literal behind its opening quotation mark: the text that it stands for, and what follows
its closing mark. There is none where an expression begins, or where the line or the text ends. -/
def readLiteral : List Char → Option (List Char × List Char)
  | [] => none
  | '"' :: rest => some ([], rest)
  | '$' :: _ => none
  | '\n' :: _ => none
  | ['\\'] => none
  | '\\' :: mark :: rest =>
    (escaped? mark).bind fun c => (readLiteral rest).map fun read => (c :: read.1, read.2)
  | c :: rest => (readLiteral rest).map fun read => (c :: read.1, read.2)

/-- The number of backslashes at the end of a text. -/
def backslashes (text : List Char) : Nat := (text.rtakeWhile (· = '\\')).length

/-- No quotation mark and no dollar sign ends a literal or begins an expression in it: an odd number
of backslashes stands before each, so that the last one of them escapes it. -/
def MarksAreEscaped (inside : List Char) : Prop :=
  ∀ before c after, inside = before ++ c :: after → c = '"' ∨ c = '$' → Odd (backslashes before)

/-! ### Reading what was escaped -/

theorem escapeLiteralChar_cases (c : Char) :
    (∃ mark, escaped? mark = some c ∧ escapeLiteralChar c = ['\\', mark]) ∨
      c ∉ ['"', '\\', '$', '\n'] ∧ escapeLiteralChar c = [c] := by
  by_cases hspecial : c ∈ ['"', '\\', '$', '\n']
  · left
    fin_cases hspecial
    · exact ⟨'"', rfl, rfl⟩
    · exact ⟨'\\', rfl, rfl⟩
    · exact ⟨'$', rfl, rfl⟩
    · exact ⟨'n', rfl, rfl⟩
  · right
    refine ⟨hspecial, ?_⟩
    simp only [List.mem_cons, List.not_mem_nil, or_false, not_or] at hspecial
    simp [escapeLiteralChar, hspecial]

theorem readLiteral_escape_append (c : Char) (rest : List Char) :
    readLiteral (escapeLiteralChar c ++ rest) =
      (readLiteral rest).map fun read => (c :: read.1, read.2) := by
  rcases escapeLiteralChar_cases c with ⟨mark, hmark, heq⟩ | ⟨hplain, heq⟩
  · rw [heq]
    simp [readLiteral, hmark]
  · rw [heq]
    simp only [List.mem_cons, List.not_mem_nil, or_false, not_or] at hplain
    simp [readLiteral, hplain]

theorem readLiteral_escaped (value rest : List Char) :
    readLiteral (value.flatMap escapeLiteralChar ++ '"' :: rest) = some (value, rest) := by
  induction value with
  | nil => rfl
  | cons c others ih =>
    rw [List.flatMap_cons, List.append_assoc, readLiteral_escape_append, ih]
    rfl

/-! ### Backslashes -/

theorem backslashes_concat (text : List Char) (c : Char) :
    backslashes (text ++ [c]) = if c = '\\' then backslashes text + 1 else 0 := by
  rw [backslashes, List.rtakeWhile_concat]
  by_cases hc : c = '\\'
  · rw [if_pos (decide_eq_true hc), if_pos hc, List.length_append]
    rfl
  · rw [if_neg (by simpa using hc), if_neg hc]
    rfl

/-- Behind whole escapes no backslash is left that could escape what follows. -/
theorem even_backslashes_escaped (value : List Char) :
    Even (backslashes (value.flatMap escapeLiteralChar)) := by
  induction value using List.reverseRecOn with
  | nil => exact Even.zero
  | append_singleton others c ih =>
    rw [List.flatMap_append, List.flatMap_singleton]
    rcases escapeLiteralChar_cases c with ⟨mark, -, heq⟩ | ⟨hplain, heq⟩
    · rw [heq, show ['\\', mark] = ['\\'] ++ [mark] from rfl, ← List.append_assoc,
        backslashes_concat, backslashes_concat]
      split
      · exact ih.add_one.add_one
      · exact Even.zero
    · rw [heq, backslashes_concat, if_neg (by rintro rfl; simp at hplain)]
      exact Even.zero

theorem exists_code_of_flatMap_eq {code : Char → List Char} {value before after : List Char}
    {c : Char} (h : value.flatMap code = before ++ c :: after) :
    ∃ (first : List Char) (x : Char) (start last : List Char),
      before = first.flatMap code ++ start ∧ code x = start ++ c :: last := by
  induction value generalizing before with
  | nil => simp at h
  | cons x others ih =>
    rw [List.flatMap_cons] at h
    rcases List.append_eq_append_iff.mp h with ⟨middle, rfl, hothers⟩ | ⟨middle, hcode, hafter⟩
    · obtain ⟨first, y, start, last, rfl, hy⟩ := ih hothers
      exact ⟨x :: first, y, start, last, by rw [List.flatMap_cons, List.append_assoc], hy⟩
    · rcases List.cons_eq_append_iff.mp hafter with ⟨rfl, hothers⟩ | ⟨last, rfl, -⟩
      · obtain ⟨first, y, start, last, hnil, hy⟩ := @ih [] hothers
        refine ⟨x :: first, y, start, last, ?_, hy⟩
        rw [List.flatMap_cons, List.append_assoc, ← hnil, hcode, List.append_nil, List.append_nil]
      · exact ⟨[], x, before, last, rfl, hcode⟩

theorem marksAreEscaped_escaped (value : List Char) :
    MarksAreEscaped (value.flatMap escapeLiteralChar) := by
  intro before c after hinside hc
  obtain ⟨first, x, start, last, rfl, hcode⟩ := exists_code_of_flatMap_eq hinside
  have hmark : c ≠ '\\' := by rcases hc with rfl | rfl <;> decide
  rcases escapeLiteralChar_cases x with ⟨mark, -, heq⟩ | ⟨hplain, heq⟩
  · rw [heq] at hcode
    rcases List.cons_eq_append_iff.mp hcode with ⟨-, hfirst⟩ | ⟨others, rfl, hothers⟩
    · exact absurd (List.cons.inj hfirst).1 hmark
    · rcases List.singleton_eq_append_iff.mp hothers with ⟨rfl, -⟩ | ⟨-, hnil⟩
      · rw [backslashes_concat, if_pos rfl]
        exact (even_backslashes_escaped first).add_one
      · cases hnil
  · rw [heq] at hcode
    rcases List.singleton_eq_append_iff.mp hcode with ⟨-, hx⟩ | ⟨-, hnil⟩
    · obtain rfl := (List.cons.inj hx).1
      rcases hc with rfl | rfl <;> simp at hplain
    · cases hnil

theorem newline_notMem_escaped (value : List Char) :
    '\n' ∉ value.flatMap escapeLiteralChar := by
  intro hmem
  obtain ⟨c, -, hc⟩ := List.mem_flatMap.mp hmem
  rcases escapeLiteralChar_cases c with ⟨mark, hmark, heq⟩ | ⟨hplain, heq⟩
  · rw [heq] at hc
    rcases List.mem_cons.mp hc with h | h
    · exact absurd h (by decide)
    · obtain rfl := List.mem_singleton.mp h
      cases hmark
  · rw [heq, List.mem_singleton] at hc
    obtain rfl := hc
    simp at hplain

/-! ### Literals -/

/-- Two texts whose literals begin the same text are equal, and so is what follows the literals. -/
theorem quote_append_inj {first second : String} {rest others : List Char}
    (h : (quote first).toList ++ rest = (quote second).toList ++ others) :
    first = second ∧ rest = others := by
  have hread (value : String) (rest : List Char) :
      ∃ text, (quote value).toList ++ rest = '"' :: text ∧
        readLiteral text = some (value.toList, rest) :=
    ⟨_, by simp [quote], readLiteral_escaped value.toList rest⟩
  obtain ⟨text, hfirst, hvalue⟩ := hread first rest
  obtain ⟨text', hsecond, hvalue'⟩ := hread second others
  rw [hfirst, hsecond] at h
  obtain rfl := (List.cons.inj h).2
  rw [hvalue, Option.some.injEq, Prod.mk.injEq] at hvalue'
  exact ⟨String.toList_inj.mp hvalue'.1, hvalue'.2⟩

/-- Whatever a text is, its literal begins and ends with a quotation mark; what is between them has
no line feed, and no quotation mark or dollar sign that is not escaped; it is read as the text and
ends at the last mark, whatever follows; and no other text has this literal. -/
theorem quote_isLiteral (value : String) :
    ∃ inside, (quote value).toList = '"' :: (inside ++ ['"']) ∧ '\n' ∉ inside ∧
      MarksAreEscaped inside ∧
        (∀ rest, readLiteral (inside ++ '"' :: rest) = some (value.toList, rest)) ∧
          ∀ other, quote other = quote value ↔ other = value := by
  refine ⟨value.toList.flatMap escapeLiteralChar, ?_, newline_notMem_escaped _,
    marksAreEscaped_escaped _, readLiteral_escaped _, fun other => ⟨fun h => ?_, ?_⟩⟩
  · rw [quote, String.toList_ofList]
  · have hliterals : (quote other).toList ++ [] = (quote value).toList ++ [] := by rw [h]
    exact (quote_append_inj hliterals).1
  · rintro rfl
    rfl

example : quote "a \"b\" $c" = "\"a \\\"b\\\" \\$c\"" := by decide

end IconForge

import IconForge.Proofs.Number.FewestDigits
import IconForge.Proofs.Number.Literal
import IconForge.Proofs.PathData.Lexing

/-!
# Numbers of generated code in path data

Numbers survive the way from path data into generated code. Without the suffix of its type, a number
of generated code is path data of one lexeme, and that is the number itself, down to the sign of a
zero (`Binary.lex_text`).
-/

namespace IconForge
namespace Binary

open PathData (Numeral Token lex lexFrom byteLength)

theorem ofNumeral_of_isFinite {x : Binary32} {n : Numeral} (h : x.IsFinite)
    (hn : ofDecimal n.toDecimal = x) : Token.ofNumeral n = .number x := by
  rw [Token.ofNumeral, hn]
  exact if_pos h

/-- The text of a finite value spells a decimal, than which none that is read as the value has fewer
digits and none with its exponent is nearer to it. Lexed as path data, it is one number from its
first byte to its last, which is the value, sign and magnitude; and a literal is this text with the
suffix of its type. -/
theorem lex_text {x : Binary32} (h : x.IsFinite) :
    lex x.text = [⟨.number x, 0, x.text.utf8ByteSize⟩] ∧ x.literal = x.text ++ "f" ∧
      ∃ (d : Decimal) (n : Numeral), x.IsShortest d ∧ n.text = x.text.toList ∧
        n.toDecimal.negative = d.negative ∧ n.toDecimal.absValue = d.absValue := by
  refine ⟨?_, rfl, ?_⟩
  · obtain ⟨n, hscan, htext, hread⟩ := scan_text h .nil
    rw [List.append_nil] at hscan
    rw [lex, PathData.lexFrom_numeral hscan, PathData.lexFrom_nil, ofNumeral_of_isFinite h hread,
      htext, PathData.byteLength_toList, Nat.zero_add]
  · obtain ⟨n, hn⟩ := x.shortest.exists_isSpelledBy literalRange
    refine ⟨x.shortest, n, isShortest_shortest h, ?_, hn.negative_eq, hn.absValue_eq⟩
    rw [hn.text_eq, text_of_isFinite h, shortest_negative]

/-- The negative value next to zero, which is written with an exponent. -/
theorem lex_text_leastNegative :
    (ofBits 0x80000001 : Binary32).IsFinite ∧ (ofBits 0x80000001 : Binary32).text = "-1e-45" ∧
      lex "-1e-45" = [⟨.number (ofBits 0x80000001), 0, 6⟩] ∧
        (ofBits 0x80000001 : Binary32).literal = "-1e-45f" ∧
          ∃ (d : Decimal) (n : Numeral), (ofBits 0x80000001 : Binary32).IsShortest d ∧
            n.text = "-1e-45".toList ∧ n.toDecimal.negative = d.negative ∧
              n.toDecimal.absValue = d.absValue := by
  have hfinite : (ofBits 0x80000001 : Binary32).IsFinite := by decide
  have htext : (ofBits 0x80000001 : Binary32).text = "-1e-45" := by decide +kernel
  have h := lex_text hfinite
  rw [htext] at h
  exact ⟨hfinite, htext, h⟩

end Binary
end IconForge

import IconForge.PathData.Letter
import IconForge.PathData.Numeral

/-!
# Tokens of path data

Blanks and commas separate tokens. At every other place the longest numeral is taken; where there is
none, a single character is, as a command letter or as something unreadable. A numeral beyond the
range of the numbers is unreadable as a whole. Positions count bytes.
-/

namespace IconForge
namespace PathData

/-! Sums begin with the numeral, whatever algebraic structures are in scope. -/
attribute [local instance (2000)] Zero.ofOfNat0

inductive Token where
  | command (letter : Letter)
  | number (value : Binary32)
  | unreadable
  deriving DecidableEq

/-- A token with the range of bytes it was read from. -/
structure Lexeme where
  token : Token
  start : Nat
  stop : Nat
  deriving DecidableEq

def isSeparator (c : Char) : Bool :=
  c = ' ' || c = '\t' || c = '\n' || c = '\r' || c = ','

def Token.ofNumeral (n : Numeral) : Token :=
  let value : Binary32 := .ofDecimal n.toDecimal
  if value.IsFinite then .number value else .unreadable

/-- The token of a character that begins no numeral. -/
def Token.ofChar (c : Char) : Token :=
  match Letter.ofChar? c with
  | some letter => .command letter
  | none => .unreadable

def byteLength (text : List Char) : Nat := (text.map Char.utf8Size).sum

/-- The lexemes of a text that starts at a position. -/
def lexFrom (position : Nat) : List Char → List Lexeme
  | [] => []
  | c :: text =>
    if isSeparator c then
      lexFrom (position + c.utf8Size) text
    else
      match _scanned : Numeral.scan (c :: text) with
      | some (numeral, rest) =>
        let stop := position + byteLength numeral.text
        ⟨.ofNumeral numeral, position, stop⟩ :: lexFrom stop rest
      | none =>
        let stop := position + c.utf8Size
        ⟨.ofChar c, position, stop⟩ :: lexFrom stop text
termination_by text => text.length
decreasing_by
  · exact Nat.lt_succ_self _
  · exact Numeral.length_lt_of_scan ‹_›
  · exact Nat.lt_succ_self _

def lex (data : String) : List Lexeme := lexFrom 0 data.toList

end PathData
end IconForge

/-!
# Blanks, comments and line ends of TOML

A skipping function stops at the first character that it cannot skip; a misplaced control character
is therefore left for the next reader, which refuses it.
-/

namespace IconForge
namespace Toml

def isBlank (c : Char) : Bool := c = ' ' || c = '\t'

/-- Whether a character may stand in a comment or, quotes and backslashes apart, in a string: any
character but the control characters other than the tab. -/
def isPrintable (c : Char) : Bool := c = '\t' || (' ' ≤ c && c ≠ '\x7f')

def skipBlanks (text : List Char) : List Char := text.dropWhile isBlank

mutual

def skipLayout : List Char → List Char
  | [] => []
  | '\r' :: '\n' :: rest => skipLayout rest
  | '#' :: rest => skipComment rest
  | c :: rest => if isBlank c || c = '\n' then skipLayout rest else c :: rest

/-- Skips the rest of a comment and the layout after it. -/
def skipComment : List Char → List Char
  | [] => []
  | '\r' :: '\n' :: rest => skipLayout rest
  | '\n' :: rest => skipLayout rest
  | c :: rest => if isPrintable c then skipComment rest else c :: rest

end

def lineEnd? : List Char → Option (List Char)
  | [] => some []
  | '\n' :: rest => some rest
  | '\r' :: '\n' :: rest => some rest
  | _ => none

/-- Skips what may stand after a statement, up to the next line. -/
def endOfStatement? (text : List Char) : Option (List Char) :=
  match skipBlanks text with
  | '#' :: comment => lineEnd? (comment.dropWhile isPrintable)
  | rest => lineEnd? rest

end Toml
end IconForge

import IconForge.Text.Hexadecimal
import IconForge.Toml.Layout

/-!
# TOML strings

The four forms of strings: basic ones with escapes and literal ones without, each on one line or on
several. A reader is given the text after the opening quotes and answers the characters of the
string and the text after the closing quotes.
-/

namespace IconForge
namespace Toml

/-- The character whose code point is given in hexadecimal digits. -/
def charOfHex? (digits : List Char) : Option Char :=
  let code := Text.hexValue digits
  if digits.all Text.isHexDigit ∧ code.isValidChar then some (Char.ofNat code) else none

def shortEscape? : Char → Option Char
  | 'b' => some '\x08'
  | 't' => some '\t'
  | 'n' => some '\n'
  | 'f' => some '\x0c'
  | 'r' => some '\r'
  | '"' => some '"'
  | '\\' => some '\\'
  | _ => none

/-- Puts a character before the string that a reader answers. -/
def prepend (c : Char) (result : Option (List Char × List Char)) :
    Option (List Char × List Char) :=
  result.map fun (string, rest) => (c :: string, rest)

def basicString : List Char → Option (List Char × List Char)
  | [] => none
  | '"' :: rest => some ([], rest)
  | '\\' :: 'u' :: a :: b :: c :: d :: rest => do
    prepend (← charOfHex? [a, b, c, d]) (basicString rest)
  | '\\' :: 'U' :: a :: b :: c :: d :: e :: f :: g :: h :: rest => do
    prepend (← charOfHex? [a, b, c, d, e, f, g, h]) (basicString rest)
  | '\\' :: letter :: rest => do
    prepend (← shortEscape? letter) (basicString rest)
  | c :: rest => if isPrintable c ∧ c ≠ '\\' then prepend c (basicString rest) else none

def literalString : List Char → Option (List Char × List Char)
  | [] => none
  | '\'' :: rest => some ([], rest)
  | c :: rest => if isPrintable c then prepend c (literalString rest) else none

/-- Three quotes end a string of several lines; one or two more directly before them belong to
it. -/
def closingQuotes? (quote : Char) : List Char → Option (List Char × List Char)
  | a :: b :: c :: rest =>
    if a = quote ∧ b = quote ∧ c = quote then
      match rest with
      | d :: e :: after =>
        if d = quote ∧ e = quote then some ([quote, quote], after)
        else if d = quote then some ([quote], e :: after)
        else some ([], rest)
      | [d] => if d = quote then some ([quote], []) else some ([], [d])
      | [] => some ([], [])
    else none
  | _ => none

/-- Where a reader stands in a basic string of several lines. -/
inductive Trim where
  /-- In the text. -/
  | text
  /-- Between a backslash and the line end that it removes. -/
  | toLineEnd
  /-- Before the first character that is neither blank nor line end after such a line end. -/
  | toText

/-- A basic string of several lines. A backslash at the end of a line removes the line end and all
blanks and line ends after it. -/
def multilineBasic (trim : Trim) (text : List Char) : Option (List Char × List Char) :=
  match trim, closingQuotes? '"' text, text with
  | .toLineEnd, _, '\r' :: '\n' :: rest => multilineBasic .toText rest
  | .toLineEnd, _, c :: rest =>
    if c = '\n' then multilineBasic .toText rest
    else if isBlank c then multilineBasic .toLineEnd rest
    else none
  | _, some closed, _ => some closed
  | .toText, none, '\r' :: '\n' :: rest => multilineBasic .toText rest
  | .text, none, '\r' :: '\n' :: rest => prepend '\n' (multilineBasic .text rest)
  | _, none, '\\' :: 'u' :: a :: b :: c :: d :: rest => do
    prepend (← charOfHex? [a, b, c, d]) (multilineBasic .text rest)
  | _, none, '\\' :: 'U' :: a :: b :: c :: d :: e :: f :: g :: h :: rest => do
    prepend (← charOfHex? [a, b, c, d, e, f, g, h]) (multilineBasic .text rest)
  | _, none, '\\' :: letter :: rest =>
    if isBlank letter ∨ letter = '\n' ∨ letter = '\r' then
      multilineBasic .toLineEnd (letter :: rest)
    else do
      prepend (← shortEscape? letter) (multilineBasic .text rest)
  | .toText, none, c :: rest =>
    if isBlank c ∨ c = '\n' then multilineBasic .toText rest
    else if isPrintable c ∧ c ≠ '\\' then prepend c (multilineBasic .text rest)
    else none
  | .text, none, c :: rest =>
    if (isPrintable c ∧ c ≠ '\\') ∨ c = '\n' then prepend c (multilineBasic .text rest) else none
  | _, _, [] => none
termination_by text.length

def multilineLiteral (text : List Char) : Option (List Char × List Char) :=
  match closingQuotes? '\'' text, text with
  | some closed, _ => some closed
  | none, '\r' :: '\n' :: rest => prepend '\n' (multilineLiteral rest)
  | none, c :: rest =>
    if isPrintable c ∨ c = '\n' then prepend c (multilineLiteral rest) else none
  | none, [] => none
termination_by text.length

/-- The line end directly after the opening quotes of several lines is no part of the string. -/
def skipFirstLineEnd : List Char → List Char
  | '\n' :: rest => rest
  | '\r' :: '\n' :: rest => rest
  | text => text

def string? : List Char → Option (List Char × List Char)
  | '"' :: '"' :: '"' :: rest => multilineBasic .text (skipFirstLineEnd rest)
  | '"' :: rest => basicString rest
  | '\'' :: '\'' :: '\'' :: rest => multilineLiteral (skipFirstLineEnd rest)
  | '\'' :: rest => literalString rest
  | _ => none

end Toml
end IconForge

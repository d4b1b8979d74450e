import IconForge.Toml.NumberText
import IconForge.Toml.StringText
import IconForge.Toml.Table

/-!
# TOML values and statements

Keys have any number of segments, and values nest in arrays and inline tables, so their readers take
a bound on the number of steps; each step takes at least one character, and a number greater than
the length of the text is bound enough.
-/

namespace IconForge
namespace Toml

/-- Whether a character may stand in a key without quotes. -/
def isBareKeyChar (c : Char) : Bool := c.isAlphanum || c = '_' || c = '-'

def simpleKey? : List Char → Option (String × List Char)
  | '"' :: rest => (basicString rest).map fun (key, after) => (String.ofList key, after)
  | '\'' :: rest => (literalString rest).map fun (key, after) => (String.ofList key, after)
  | text =>
    match text.takeWhile isBareKeyChar with
    | [] => none
    | key => some (String.ofList key, text.dropWhile isBareKeyChar)

/-- The segments of a dotted key, with blanks around each, and the text after it. -/
def keySegments? : Nat → List Char → Option (List String × List Char)
  | 0, _ => none
  | bound + 1, text => do
    let (segment, after) ← simpleKey? (skipBlanks text)
    match skipBlanks after with
    | '.' :: rest => do
      let (others, after) ← keySegments? bound rest
      return (segment :: others, after)
    | after => return ([segment], after)

def key? (bound : Nat) (text : List Char) : Option ((List String × String) × List Char) := do
  let (segments, after) ← keySegments? bound text
  let last ← segments.getLast?
  return ((segments.dropLast, last), after)

/-- A value that is neither an array nor an inline table. -/
def scalar? (text : List Char) : Option (Value × List Char) :=
  match text with
  | 't' :: 'r' :: 'u' :: 'e' :: rest => some (.boolean true, rest)
  | 'f' :: 'a' :: 'l' :: 's' :: 'e' :: rest => some (.boolean false, rest)
  | '"' :: _ | '\'' :: _ =>
    (string? text).map fun (string, rest) => (.string (String.ofList string), rest)
  | _ =>
    (dateTime? text).map (Value.dateTime, ·) <|>
      (float? text).map (fun (x, rest) => (Value.float x, rest)) <|>
      (integer? text).map (fun (n, rest) => (Value.integer n, rest))

mutual

def value? : Nat → List Char → Option (Value × List Char)
  | 0, _ => none
  | bound + 1, text =>
    match text with
    | '[' :: rest => do
      let (items, after) ← items? bound rest
      return (.array items, after)
    | '{' :: rest => do
      let (assignments, after) ←
        match skipBlanks rest with
        | '}' :: after => some ([], after)
        | first => assignments? bound first
      return (← tableOfAssignments? assignments, after)
    | text => scalar? text

/-- The items of an array and its end; a comma may follow the last one. -/
def items? : Nat → List Char → Option (List Value × List Char)
  | 0, _ => none
  | bound + 1, text =>
    match skipLayout text with
    | ']' :: after => some ([], after)
    | first => do
      let (item, rest) ← value? bound first
      match skipLayout rest with
      | ',' :: rest => do
        let (others, after) ← items? bound rest
        return (item :: others, after)
      | ']' :: after => return ([item], after)
      | _ => none

/-- The assignments of an inline table, at least one, and its end. -/
def assignments? : Nat → List Char → Option (List Assignment × List Char)
  | 0, _ => none
  | bound + 1, text => do
    let ((way, key), rest) ← key? bound text
    let rest ← char? '=' rest
    let (value, rest) ← value? bound (skipBlanks rest)
    match skipBlanks rest with
    | ',' :: rest => do
      let (others, after) ← assignments? bound rest
      return (⟨way, key, value⟩ :: others, after)
    | '}' :: after => return ([⟨way, key, value⟩], after)
    | _ => none

end

inductive Statement where
  | assign (assignment : Assignment)
  | tableHeader (way : List String) (key : String)
  | elementHeader (way : List String) (key : String)

def statement? (bound : Nat) : List Char → Option (Statement × List Char)
  | '[' :: '[' :: rest => do
    let ((way, key), rest) ← key? bound rest
    let after ← char? ']' rest
    return (.elementHeader way key, ← char? ']' after)
  | '[' :: rest => do
    let ((way, key), rest) ← key? bound rest
    return (.tableHeader way key, ← char? ']' rest)
  | text => do
    let ((way, key), rest) ← key? bound text
    let rest ← char? '=' rest
    let (value, after) ← value? bound (skipBlanks rest)
    return (.assign ⟨way, key, value⟩, after)

end Toml
end IconForge

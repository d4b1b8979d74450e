import IconForge.Number.Decimal

/-!
# TOML values

The values of a TOML document, and the views of them that typed documents are read through. A view
fails on a value of another type.
-/

namespace IconForge
namespace Toml

/-- A TOML value. No document asks for a date or time, so only its presence is kept. -/
inductive Value where
  | string (text : String)
  | integer (n : Int)
  | float (x : Binary64)
  | boolean (b : Bool)
  | dateTime
  | array (items : List Value)
  | table (entries : List (String × Value))

/-- The keys of a table with their values, in the order in which they were first written. -/
abbrev Entries := List (String × Value)

namespace Value

def string? : Value → Option String
  | string text => some text
  | _ => none

/-- A whole number or a float, rounded to the numbers of drawings. -/
def number? : Value → Option Binary32
  | integer n => some (.ofInt n)
  | float x => some x.convert
  | _ => none

def array? : Value → Option (List Value)
  | array items => some items
  | _ => none

/-- The entries of a table. A date or time counts as a table without any known key. -/
def entries? : Value → Option Entries
  | table entries => some entries
  | dateTime => some []
  | _ => none

/-- A choice by name, written as a string or as a table whose only key is the name and whose value
is the empty table. -/
def choice? : Value → Option String
  | string text => some text
  | table [(name, table [])] => some name
  | _ => none

end Value

namespace Entries

def required {α : Type} (entries : Entries) (key : String) (view : Value → Option α) : Option α :=
  (List.lookup key entries).bind view

/-- The value of a key that may be absent; a value of another type is a failure. -/
def optional {α : Type} (entries : Entries) (key : String) (view : Value → Option α) :
    Option (Option α) :=
  match List.lookup key entries with
  | none => some none
  | some value => (view value).map some

def withDefault {α : Type} (entries : Entries) (key : String) (view : Value → Option α)
    (standard : α) : Option α :=
  (entries.optional key view).map (·.getD standard)

end Entries
end Toml
end IconForge

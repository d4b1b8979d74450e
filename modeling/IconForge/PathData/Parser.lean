import IconForge.Number.Text
import IconForge.PathData.Token

/-!
# Reading path data

Path data is a sequence of segments, each a command letter with all the numbers after it. The first
segment with a wrong number of arguments is the error; if there is none, the first token that
belongs to no segment is.
-/

namespace IconForge
namespace PathData

/-- A command letter with the numbers that follow it, and the range of bytes of both. -/
structure Segment where
  letter : Letter
  arguments : List Binary32
  start : Nat
  stop : Nat
  deriving DecidableEq

/-- The values and the end of the numbers at the front of some lexemes, and what follows them. -/
def takeNumbers (stop : Nat) : List Lexeme → List Binary32 × Nat × List Lexeme
  | ⟨.number value, _, next⟩ :: rest =>
    let (values, last, others) := takeNumbers next rest
    (value :: values, last, others)
  | rest => ([], stop, rest)

theorem length_takeNumbers_le (stop : Nat) (lexemes : List Lexeme) :
    (takeNumbers stop lexemes).2.2.length ≤ lexemes.length := by
  fun_induction takeNumbers stop lexemes with
  | case1 stop value start next rest values last others h ih =>
    rw [h] at ih
    exact Nat.le_succ_of_le ih
  | case2 => exact Nat.le_refl _

/-- The segments at the front of some lexemes, and the lexemes from the first one that begins no
segment. -/
def segments : List Lexeme → List Segment × List Lexeme
  | ⟨.command letter, start, stop⟩ :: rest =>
    let numbers := takeNumbers stop rest
    let (others, strays) := segments numbers.2.2
    (⟨letter, numbers.1, start, numbers.2.1⟩ :: others, strays)
  | strays => ([], strays)
termination_by lexemes => lexemes.length
decreasing_by exact Nat.lt_succ_of_le (length_takeNumbers_le _ _)

/-- What is wrong in path data. -/
inductive Fault where
  | argumentCount (letter : Letter) (found : Nat)
  | unexpected (token : Token)
  deriving DecidableEq

structure SyntaxError where
  start : Nat
  stop : Nat
  fault : Fault
  deriving DecidableEq

def Token.describe : Token → String
  | command letter => "command '" ++ String.singleton letter.toChar ++ "'"
  | number value => "number " ++ value.plainText
  | unreadable => "unreadable input"

def Fault.message : Fault → String
  | argumentCount letter found =>
    let quoted := "'" ++ String.singleton letter.toChar ++ "'"
    if letter.verb = .close then
      quoted ++ " takes no arguments"
    else
      quoted ++ " expects a multiple of " ++ toString letter.verb.arity ++ " numbers, found " ++
        toString found
  | unexpected token => "Unexpected " ++ token.describe

/-- What could have stood in the place of the fault. -/
def Fault.expected : Fault → List String
  | argumentCount .. => []
  | unexpected _ => ["end of input"]

namespace SyntaxError

def message (e : SyntaxError) : String := e.fault.message

def display (e : SyntaxError) : String :=
  "path data error at " ++ toString e.start ++ ".." ++ toString e.stop ++ ": " ++ e.message

end SyntaxError

def Segment.commands (s : Segment) : Except SyntaxError (List PathCommand) :=
  match s.letter.commands? s.arguments with
  | some commands => .ok commands
  | none => .error ⟨s.start, s.stop, .argumentCount s.letter s.arguments.length⟩

/-- The commands of segments one after another, up to the first fault. -/
def commandsOfSegments : List Segment → Except SyntaxError (List PathCommand)
  | [] => .ok []
  | segment :: others => do
    let commands ← segment.commands
    let further ← commandsOfSegments others
    return commands ++ further

def parseLexemes (lexemes : List Lexeme) : Except SyntaxError (List PathCommand) := do
  let (read, strays) := segments lexemes
  let commands ← commandsOfSegments read
  match strays with
  | [] => return commands
  | stray :: _ => .error ⟨stray.start, stray.stop, .unexpected stray.token⟩

def parse (data : String) : Except SyntaxError (List PathCommand) := parseLexemes (lex data)

end PathData
end IconForge

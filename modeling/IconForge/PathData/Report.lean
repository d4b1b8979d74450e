import IconForge.PathData.Parser
import IconForge.Text.Columns

/-!
# Reports on path data

A report shows the part of the path data that an error marks. A mark within one line is underlined,
with the message below it; a mark over several lines is bracketed on the left from its first line to
its last one, the lines between them left out.

The range of an error is taken as a range of characters of the path data. Before its start bytes and
characters are the same, as a character of more bytes would itself be the error. After it they may
differ: then the range can end beyond the characters of its line, and the line is not shown, or
beyond the path data, and nothing of it is shown.
-/

namespace IconForge
namespace PathData

/-! Sums begin with the numeral, whatever algebraic structures are in scope. -/
attribute [local instance (2000)] Zero.ofOfNat0

def endsLine (c : Char) : Bool :=
  c = '\n' || c = '\r' || c = '\x0b' || c = '\x0c' || c = '\u0085' || c = '\u2028' || c = '\u2029'

/-- The lines of a text with their ends; a carriage return and a line feed are one end. After the
last end there is no line. -/
def lines : List Char → List (List Char)
  | [] => []
  | '\r' :: '\n' :: rest => ['\r', '\n'] :: lines rest
  | c :: rest =>
    if endsLine c then
      [c] :: lines rest
    else
      match lines rest with
      | [] => [[c]]
      | line :: others => (c :: line) :: others

/-- A line with its number and the position of its first character. -/
structure NumberedLine where
  number : Nat
  start : Nat
  text : List Char

namespace NumberedLine

def stop (line : NumberedLine) : Nat := line.start + line.text.length

def shown (line : NumberedLine) : List Char := Text.trimEnd line.text

/-- Lines numbered from a number on, the first of which starts at a position. -/
def ofLines (number start : Nat) : List (List Char) → List NumberedLine
  | [] => []
  | text :: others => ⟨number, start, text⟩ :: ofLines (number + 1) (start + text.length) others

/-- The last of a line and the lines after it that starts at a position or before it. -/
def atPosition (line : NumberedLine) (position : Nat) : List NumberedLine → NumberedLine
  | [] => line
  | next :: others => if next.start ≤ position then next.atPosition position others else line

end NumberedLine

def shownLine (place : Nat) : List Char → List Char
  | [] => []
  | c :: rest =>
    (if Text.isBlank c then List.replicate (Text.columns place c) ' ' else [c]) ++
      shownLine (place + 1) rest

/-- The columns of the characters of a line from a place on, and one for each place after its end,
for `count` places in all. -/
def columnsFrom (place : Nat) : (count : Nat) → List Char → List Nat
  | 0, _ => []
  | count + 1, [] => 1 :: columnsFrom (place + 1) count []
  | count + 1, c :: rest => Text.columns place c :: columnsFrom (place + 1) count rest

/-- A mark that fills some columns: its head in the first one, its tail in the others. -/
structure Mark where
  head : Char
  tail : Char

def Mark.fill (mark : Mark) : Nat → List Char
  | 0 => []
  | columns + 1 => mark.head :: List.replicate columns mark.tail

def blankMark : Mark := ⟨' ', ' '⟩

def ruleMark : Mark := ⟨'─', '─'⟩

/-- Marks for the places of a line from one on, each as wide as the character at its place. -/
def markLine (markAt : Nat → Mark) (place : Nat) : List Nat → List Char
  | [] => []
  | columns :: rest => (markAt place).fill columns ++ markLine markAt (place + 1) rest

/-- The mark under a place of the faulty part: a rule with a branch in the middle. -/
def underlineMark (start stop middle place : Nat) : Mark :=
  if place = middle then ⟨'┬', '─'⟩
  else if start ≤ place ∧ place < stop then ruleMark
  else blankMark

/-- The mark of the line that leads from the branch to the message. -/
def messageMark (middle place : Nat) : Mark :=
  if place < middle then blankMark
  else if place = middle then ⟨'╰', '─'⟩
  else ruleMark

inductive Margin where
  | numbered (number : Nat)
  | plain
  /-- Lines are left out here. -/
  | gap

structure Row where
  margin : Margin
  text : List Char

/-- The text of a row whose line number has room for some digits. -/
def Row.render (digits : Nat) (row : Row) : String :=
  let blanks (count : Nat) : String := String.ofList (List.replicate count ' ')
  let margin :=
    match row.margin with
    | .numbered number =>
      blanks (1 + (digits - (toString number).length)) ++ toString number ++ " │ "
    | .plain => blanks (digits + 2) ++ "│ "
    | .gap => blanks (digits + 2) ++ "┆ "
  margin ++ String.ofList row.text ++ "\n"

/-- A range of characters of a text and what is to be said about it. -/
structure Finding where
  start : Nat
  stop : Nat
  message : List Char

namespace Finding

variable (finding : Finding)

def lineRows (line : NumberedLine) : List Row :=
  if line.stop < finding.stop then
    [⟨.plain, []⟩]
  else
    let start := finding.start - line.start
    let stop := finding.stop - line.start
    let middle := (start + stop) / 2
    let columns := columnsFrom 0 (stop + 2) line.shown
    [⟨.numbered line.number, shownLine 0 line.shown⟩,
      ⟨.plain, markLine (underlineMark start stop middle) 0 columns⟩,
      ⟨.plain, markLine (messageMark middle) 0 columns ++ ' ' :: finding.message⟩]

def bracketRow (corner : Char) (line : NumberedLine) : Row :=
  ⟨.numbered line.number, corner :: '─' :: '▶' :: ' ' :: shownLine 0 line.shown⟩

/-- The rows of a range over several lines. It is not closed if it ends beyond the last one. -/
def bracketRows (first last : NumberedLine) : List Row :=
  let gap : Row := ⟨.gap, ['┆', ' ', ' ', ' ']⟩
  if last.stop < finding.stop then
    [bracketRow '╭' first, gap]
  else
    let width := (columnsFrom 0 (last.text.length + 2) last.shown).sum + 3
    bracketRow '╭' first :: (if first.number + 1 < last.number then [gap] else []) ++
      [bracketRow '├' last,
        ⟨.plain, '│' :: List.replicate width ' '⟩,
        ⟨.plain, '╰' :: List.replicate width '─' ++ ' ' :: finding.message⟩]

/-- The part of a report that shows a range with its first and last line. -/
def excerpt (fileName : String) (first last : NumberedLine) : String :=
  let digits := (toString last.number).length
  let blanks := String.ofList (List.replicate (digits + 2) ' ')
  let rule := String.ofList (List.replicate (digits + 2) '─')
  let rows :=
    if first.number = last.number then finding.lineRows first else finding.bracketRows first last
  blanks ++ "╭─[" ++ fileName ++ ":" ++ toString first.number ++ ":" ++
      toString (finding.start - first.start + 1) ++ "]\n" ++
    blanks ++ "│\n" ++
    String.join (rows.map (Row.render digits)) ++
    rule ++ "╯\n"

end Finding

/-- The report on an error in the path data of a file. -/
def SyntaxError.report (e : SyntaxError) (data fileName : String) : String :=
  let hint :=
    match e.fault.expected with
    | [] => ""
    | alternatives => "\nExpected: " ++ ", ".intercalate alternatives
  let finding : Finding := ⟨e.start, e.stop, (e.message ++ hint).toList⟩
  let excerpt :=
    match NumberedLine.ofLines 1 0 (lines data.toList) with
    | [] => ""
    | line :: others =>
      if data.length + 1 < e.stop then
        ""
      else
        finding.excerpt fileName (line.atPosition e.start others)
          (line.atPosition (e.stop - 1) others)
  "Error: " ++ e.message ++ "\n" ++ excerpt

end PathData
end IconForge

import IconForge.Proofs.Code.Pieces
import IconForge.Proofs.Text.Recovery

/-!
# Readings of templates

Read from left to right, the text of a template is a sequence of characters, of pairs of percent
signs and of markers behind a percent sign, and a percent sign may be left at its end. Every text
has exactly one such reading. The check of a template and its rendering go through the text each by
itself, and both follow this reading (`Instruction.exists_reading_checked_iff`).
-/

namespace IconForge

/-- What stands at a place of a text with placeholders. -/
inductive TemplateItem where
  | char (c : Char) (ne : c ≠ '%')
  | percent
  | marker (m : Char) (ne : m ≠ '%')

namespace TemplateItem

def code : TemplateItem → List Char
  | char c _ => [c]
  | percent => ['%', '%']
  | marker m _ => ['%', m]

def marker? : TemplateItem → Option Char
  | marker m _ => some m
  | _ => none

end TemplateItem

/-- The items of a text, and whether a single percent sign follows them. -/
structure TemplateReading where
  items : List TemplateItem
  trailing : Bool

namespace TemplateReading

def rest (reading : TemplateReading) : List Char := if reading.trailing then ['%'] else []

def code (reading : TemplateReading) : List Char :=
  reading.items.flatMap TemplateItem.code ++ reading.rest

def markers (reading : TemplateReading) : List Char :=
  reading.items.filterMap TemplateItem.marker?

/-! ### Reading -/

end TemplateReading

end IconForge

import IconForge.Color
import IconForge.Text.Word

/-!
# Themes

A theme is an ordered list of rules, each of which replaces one colour by a token. The first rule
for a colour decides; a later rule for the same colour is shadowed.
-/

namespace IconForge

/-- One replacement of a colour, given in normal form, by a token. -/
structure ColorRule where
  literal : String
  token : String
  deriving DecidableEq

def ColorRule.ofLiteral (literal token : String) : ColorRule := ⟨Color.normalize literal, token⟩

structure Theme where
  name : Option String
  description : Option String
  rules : List ColorRule
  deriving DecidableEq

inductive ThemeError where
  /-- The file of the theme could not be read. -/
  | unreadable (reason : String)
  /-- The text of the theme is not a theme document. -/
  | malformed
  | invalidColor (literal : String)
  | invalidToken (token : String)
  deriving DecidableEq

def ThemeError.message : ThemeError → String
  | unreadable reason => "Failed to read theme file: " ++ reason
  | malformed => "Failed to parse theme TOML"
  | invalidColor literal =>
    "Invalid theme color '" ++ literal ++ "': expected 6 or 8 hex digits"
  | invalidToken token => "Invalid theme token '" ++ token ++ "': expected an identifier"

/-- Whether a token is a letter or underscore followed by letters, numbers and underscores. -/
def isIdentifier (token : String) : Bool :=
  match token.toList with
  | [] => false
  | first :: others =>
    (Text.isAlphabetic first || first = '_') &&
      others.all fun c => Text.isAlphanumeric c || c = '_'

/-- A rule is usable if its colour is hexadecimal and its token an identifier. -/
def ColorRule.check (rule : ColorRule) : Except ThemeError Unit :=
  if ¬ Color.isHex rule.literal then
    .error (.invalidColor rule.literal)
  else if ¬ isIdentifier rule.token then
    .error (.invalidToken rule.token)
  else
    .ok ()

namespace Theme

def empty : Theme := ⟨none, none, []⟩

/-- The theme with a rule for each pair of a literal and a token, in this order. -/
def ofPairs (pairs : List (String × String)) : Theme :=
  ⟨none, none, pairs.map fun pair => .ofLiteral pair.1 pair.2⟩

def check (theme : Theme) : Except ThemeError Unit :=
  theme.rules.forM ColorRule.check

def isEmpty (theme : Theme) : Bool := theme.rules.isEmpty

/-- The token of the first rule for a colour, however the colour is written. -/
def token? (theme : Theme) (literal : String) : Option String :=
  let color := Color.normalize literal
  (theme.rules.find? (·.literal = color)).map ColorRule.token

/-- The rules for a colour that is among the given ones or has occurred before in the list. -/
def shadowedAfter (seen : List String) : List ColorRule → List ColorRule
  | [] => []
  | rule :: rest =>
    if rule.literal ∈ seen then
      rule :: shadowedAfter seen rest
    else
      shadowedAfter (rule.literal :: seen) rest

/-- The rules that never decide, because an earlier rule is for the same colour. -/
def shadowedRules (theme : Theme) : List ColorRule := shadowedAfter [] theme.rules

def intellij : Theme where
  name := some "intellij"
  description := some "IntelliJ platform icon colors"
  rules := [⟨"FF6C707E", "generalStroke"⟩, ⟨"FFEBECF0", "generalFill"⟩, ⟨"FF4682FA", "blueSolid"⟩]

end Theme
end IconForge

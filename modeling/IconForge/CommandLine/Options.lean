/-!
# Options of the command line

Options with a value take it from the same argument or from the next one, which must not look like
an option. Short options may be written together. Everything after two dashes is an operand.
-/

namespace IconForge

inductive ValueOption where
  | output
  | package
  | accessor
  | theme
  | exclude
  deriving DecidableEq

inductive FlagOption where
  | intellijTheme
  | failFast
  | sequential
  | verbose
  deriving DecidableEq

abbrev NamedOption := ValueOption ⊕ FlagOption

def NamedOption.ofShort? : Char → Option NamedOption
  | 'o' => some (.inl .output)
  | 'p' => some (.inl .package)
  | 'a' => some (.inl .accessor)
  | 't' => some (.inl .theme)
  | 'x' => some (.inl .exclude)
  | 'v' => some (.inr .verbose)
  | _ => none

def NamedOption.ofLong? : String → Option NamedOption
  | "output" => some (.inl .output)
  | "package" => some (.inl .package)
  | "accessor" => some (.inl .accessor)
  | "theme" => some (.inl .theme)
  | "exclude" => some (.inl .exclude)
  | "intellij-theme" => some (.inr .intellijTheme)
  | "fail-fast" => some (.inr .failFast)
  | "sequential" => some (.inr .sequential)
  | "verbose" => some (.inr .verbose)
  | _ => none

structure GivenArguments where
  values : List (ValueOption × String)
  flags : List FlagOption
  operands : List String

namespace GivenArguments

def nothing : GivenArguments := ⟨[], [], []⟩

def withValue (option : ValueOption) (value : String) (given : GivenArguments) : GivenArguments :=
  { given with values := (option, value) :: given.values }

def withFlag (flag : FlagOption) (given : GivenArguments) : GivenArguments :=
  { given with flags := flag :: given.flags }

def withOperand (operand : String) (given : GivenArguments) : GivenArguments :=
  { given with operands := operand :: given.operands }

def valuesOf (given : GivenArguments) (option : ValueOption) : List String :=
  (given.values.filter (·.1 = option)).map Prod.snd

end GivenArguments

inductive ArgumentMeaning where
  | operand
  | endOfOptions
  | options (flags : List FlagOption)
  /-- Flags, and then an option with a value, which may still have to be given. -/
  | valued (flags : List FlagOption) (option : ValueOption) (value : Option String)
  | unknown

/-- The value after an equals sign or directly after a short option. -/
def attachedValue : List Char → Option String
  | [] => none
  | '=' :: value => some (String.ofList value)
  | value => some (String.ofList value)

/-- The meaning of short options written together. -/
def meaningOfShorts (flags : List FlagOption) : List Char → ArgumentMeaning
  | [] => .options flags
  | c :: rest =>
    match NamedOption.ofShort? c with
    | some (.inr flag) => meaningOfShorts (flags ++ [flag]) rest
    | some (.inl option) => .valued flags option (attachedValue rest)
    | none => .unknown

/-- The meaning of a long option without its dashes. -/
def meaningOfLong (text : List Char) : ArgumentMeaning :=
  let name := String.ofList (text.takeWhile (· ≠ '='))
  match NamedOption.ofLong? name, text.dropWhile (· ≠ '=') with
  | some (.inr flag), [] => .options [flag]
  | some (.inl option), rest => .valued [] option (attachedValue rest)
  | _, _ => .unknown

def meaningOf (argument : String) : ArgumentMeaning :=
  match argument.toList with
  | ['-'] => .operand
  | ['-', '-'] => .endOfOptions
  | '-' :: '-' :: text => meaningOfLong text
  | '-' :: text => meaningOfShorts [] text
  | _ => .operand

/-- What arguments say; none if an option is unknown or lacks its value. -/
def GivenArguments.read? : List String → Option GivenArguments
  | [] => some .nothing
  | argument :: others =>
    match meaningOf argument with
    | .operand => (read? others).map (.withOperand argument)
    | .endOfOptions => some ⟨[], [], others⟩
    | .options flags => (read? others).map fun given => flags.foldr .withFlag given
    | .valued flags option (some value) =>
      (read? others).map fun given => flags.foldr .withFlag (given.withValue option value)
    | .valued flags option none =>
      match others with
      | [] => none
      | value :: others =>
        match meaningOf value with
        | .operand =>
          (read? others).map fun given => flags.foldr .withFlag (given.withValue option value)
        | _ => none
    | .unknown => none

structure Options where
  input : String
  output : String
  package : String
  accessor : String
  theme : Option String
  intellijTheme : Bool
  excludes : List String
  failFast : Bool
  sequential : Bool

namespace Options

/-- The only element of a list, or the standard one if there is none. -/
def single? {α : Type} (standard : Option α) : List α → Option α
  | [] => standard
  | [value] => some value
  | _ => none

/-- Whether a flag is given; it must not be given twice. -/
def flag? (given : GivenArguments) (flag : FlagOption) : Option Bool :=
  match given.flags.filter (· = flag) with
  | [] => some false
  | [_] => some true
  | _ => none

def path? (path : String) : Option String := if path = "" then none else some path

/-- The options that arguments give; none if one that is needed is missing, if one is given twice
that must not be, or if two contradict each other. -/
def ofGiven? (given : GivenArguments) : Option Options := do
  let input ← path? (← single? none given.operands)
  let output ← path? (← single? none (given.valuesOf .output))
  let package ← single? none (given.valuesOf .package)
  let accessor ← single? (some "AllIcons") (given.valuesOf .accessor)
  let theme ← single? (some none) ((given.valuesOf .theme).map some)
  let theme ← match theme with
    | none => some none
    | some path => (path? path).map some
  let intellijTheme ← flag? given .intellijTheme
  let failFast ← flag? given .failFast
  let sequential ← flag? given .sequential
  if intellijTheme ∧ theme.isSome then
    none
  else
    some ⟨input, output, package, accessor, theme, intellijTheme, given.valuesOf .exclude, failFast,
      sequential⟩

def parse? (arguments : List String) : Option Options := do
  ofGiven? (← GivenArguments.read? arguments)

end Options
end IconForge

import IconForge.Generation.Collection
import IconForge.Generation.IconRun

/-!
# Groups of icons

A group has a class, icons and child groups, and each group has a package of its own. The groups of
a tree are generated children first, so that the collection of a group can refer to those of its
children; all of them share the names in use.
-/

namespace IconForge

/-! Sums begin with the numeral, whatever algebraic structures are in scope. -/
attribute [local instance (2000)] Zero.ofOfNat0

structure IconGroup where
  package : String
  /-- The class that the icons of the group extend. -/
  className : String
  icons : List IconSource
  children : List IconGroup

namespace IconGroup

def classSymbol (group : IconGroup) : Symbol := .topLevel group.package group.className

mutual

/-- The number of icons in the group and in all groups below it. -/
def iconCount : IconGroup → Nat
  | ⟨_, _, icons, children⟩ => icons.length + iconCounts children

def iconCounts : List IconGroup → Nat
  | [] => 0
  | group :: others => iconCount group + iconCounts others

end

end IconGroup

/-- What is generated for a group and the groups below it. -/
structure GroupOutput where
  /-- The class of the group. -/
  handle : Symbol
  /-- The property that collects the icons of the group. -/
  collection : Symbol
  /-- The files of the child groups, then the icons, the class and the collection of the group. -/
  files : List SourceFile
  failures : List IconFailure
  generated : Nat
  skipped : Nat

inductive GenerationError where
  | icon (failure : IconFailure)
  | collision (package : String) (collision : NameCollision)
  | theme (error : ThemeError)
  deriving DecidableEq

def GenerationError.message : GenerationError → String
  | icon failure => failure.message
  | collision package c => "in package '" ++ package ++ "': " ++ c.message
  | theme error => "theme error: " ++ error.message

namespace Generator

def groupObject (generator : Generator) (groupClass : Symbol) :
    Except NameCollision SourceFile := do
  let taken ← (ImportTable.empty groupClass.package).declare groupClass.name
  return .ofMembers taken groupClass.name generator.context.style.indent
    [[.statement (.ofText "public object " ++ .name groupClass.name)]]

/-- Generates the files of one group, given what its child groups have become. -/
def runOwn (generator : Generator) (accepts : String → Bool) (groupClass : Symbol)
    (icons : List IconSource) (children : List GroupOutput) (names : UsedNames) :
    Except GenerationError (GroupOutput × UsedNames) := do
  let (own, names) ←
    (generator.runIcons groupClass.package groupClass accepts icons names).mapError .icon
  let object ← (generator.groupObject groupClass).mapError (.collision groupClass.package)
  let (collection, names) ←
    (GroupCollection.build groupClass generator.collectionName generator.context.style
      own.handles (children.map GroupOutput.handle) names).mapError
        (.collision groupClass.package)
  return ({
    handle := groupClass
    collection := collection.handle
    files := children.flatMap GroupOutput.files ++ own.icons.map IconOutput.file ++
      [object, collection.file]
    failures := children.flatMap GroupOutput.failures ++ own.failures
    generated := (children.map GroupOutput.generated).sum + own.icons.length
    skipped := (children.map GroupOutput.skipped).sum + own.skipped }, names)

mutual

/-- Generates a group after the groups below it, and answers the names in use afterwards. -/
def runGroup (generator : Generator) (accepts : String → Bool) :
    IconGroup → UsedNames → Except GenerationError (GroupOutput × UsedNames)
  | ⟨package, className, icons, children⟩, names => do
    let (generated, names) ← runGroups generator accepts children names
    generator.runOwn accepts (.topLevel package className) icons generated names

def runGroups (generator : Generator) (accepts : String → Bool) :
    List IconGroup → UsedNames → Except GenerationError (List GroupOutput × UsedNames)
  | [], names => .ok ([], names)
  | group :: others, names => do
    let (first, names) ← runGroup generator accepts group names
    let (rest, names) ← runGroups generator accepts others names
    return (first :: rest, names)

end

end Generator

structure GenerationConfig where
  collectionName : String
  theme : Theme
  style : CodeStyle
  schedule : Schedule

/-- The choices of a run for which nothing is said. -/
def GenerationConfig.standard : GenerationConfig where
  collectionName := "AllIcons"
  theme := .empty
  style := .standard
  schedule := ⟨.collect, true⟩

/-- Generates a tree of groups with a parser of its own. Icons whose names are not accepted are
skipped. -/
def generateWith (parser : IconParser) (root : IconGroup) (accepts : String → Bool)
    (config : GenerationConfig) : Except GenerationError GroupOutput := do
  config.theme.check.mapError .theme
  let generator : Generator :=
    ⟨parser, ⟨config.theme, config.style⟩, config.schedule, config.collectionName⟩
  return (← generator.runGroup accepts root .empty).1

def generate (root : IconGroup) (accepts : String → Bool) (config : GenerationConfig) :
    Except GenerationError GroupOutput :=
  generateWith documentParser root accepts config

end IconForge

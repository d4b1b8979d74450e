import IconForge.CommandLine.DirectoryTree
import IconForge.CommandLine.Options
import IconForge.PathData.Report
import IconForge.Theme.Document

/-!
# A run of the command line

A run reads the directory of icons and the theme, generates, writes the files, and reports. It is
written for any monad with access to files, so that it can be carried out on a file system and on
a tree of entries.
-/

namespace IconForge

/-- How a run reads and writes files. Failures are given by their reasons. -/
structure FileAccess (m : Type → Type) where
  /-- The entry at a path with everything below it. -/
  readTree : String → m FileEntry
  readFile : String → m (Except String ByteArray)
  /-- Writes a file after making the directories above it. -/
  writeFile : String → String → m (Except String Unit)

structure Outcome where
  exitCode : Nat
  output : String
  errors : String

namespace Outcome

def failure (message : String) : Outcome := ⟨1, "", message ++ "\n"⟩

/-- The answer to a command line that makes no sense. -/
def usage : Outcome where
  exitCode := 2
  output := ""
  errors :=
    "Usage: iconforge [OPTIONS] --output <OUTPUT> --package <PACKAGE> <INPUT>\n\n" ++
    "Options:\n" ++
    "  -o, --output <OUTPUT>      source root to write generated files to\n" ++
    "  -p, --package <PACKAGE>    package of the root icon group\n" ++
    "  -a, --accessor <ACCESSOR>  name of the collection of each group\n" ++
    "  -t, --theme <THEME>        theme file with color substitution rules\n" ++
    "      --intellij-theme       use the built-in icon palette\n" ++
    "  -x, --exclude <TEXT>       skip icons whose name contains this text\n" ++
    "      --fail-fast            stop at the first icon that fails\n" ++
    "      --sequential           build one icon after another\n" ++
    "  -v, --verbose              accepted, and without effect\n"

end Outcome

/-- Whether an icon is wanted: its name contains none of the excluded texts. -/
def isWanted (excludes : List String) (name : String) : Bool :=
  excludes.all fun part => ! Text.hasPart part.toList name.toList

def IconFailure.report (failure : IconFailure) : String :=
  let details :=
    match failure.cause with
    | .source (.pathData _ data error) => error.report data failure.origin ++ "\n"
    | _ => ""
  "Error: " ++ failure.message ++ "\n" ++ details

def Theme.ofFile (contents : Except String ByteArray) : Except ThemeError Theme := do
  let text ← (contents.bind decodeText).mapError ThemeError.unreadable
  Theme.ofDocument text

/-- The choices that options make for a run with a theme. -/
def Options.config (options : Options) (theme : Theme) : GenerationConfig where
  collectionName := options.accessor
  theme := theme
  style := .standard
  schedule := ⟨if options.failFast then .failFast else .collect, ! options.sequential⟩

section

variable {m : Type → Type} [Monad m] (files : FileAccess m)

/-- The theme that options ask for, or the message that it cannot be loaded. -/
def Options.loadTheme (options : Options) : m (Except String Theme) :=
  match options.theme with
  | some path => do
    let contents ← files.readFile path
    return (Theme.ofFile contents).mapError fun error =>
      "Error loading theme '" ++ path ++ "': " ++ (GenerationError.theme error).message
  | none => return .ok (if options.intellijTheme then .intellij else .empty)

/-- Writes files below a directory up to the first that cannot be written, which is named in the
answer. -/
def writeFiles (output : String) : List SourceFile → m (Except String Unit)
  | [] => return .ok ()
  | file :: others => do
    let path := FilePath.push output file.path
    match ← files.writeFile path file.contents with
    | .ok () => writeFiles output others
    | .error reason => return .error ("Error writing '" ++ path ++ "': " ++ reason)

def finish (options : Options) (generated : GroupOutput) : m Outcome := do
  match ← writeFiles files options.output generated.files with
  | .error message => return .failure message
  | .ok () =>
    return {
      exitCode := if generated.failures.isEmpty then 0 else 1
      output := "Generated " ++ toString generated.generated ++ " icons into " ++ options.output ++
        " (" ++ toString generated.skipped ++ " skipped, " ++
        toString generated.failures.length ++ " failed)\n"
      errors := String.join (generated.failures.map IconFailure.report) }

/-- A run with options, for an input with the name of a directory. -/
def runNamed (options : Options) (directoryName : String) : m Outcome := do
  let entry ← files.readTree options.input
  match entry.readGroup options.input options.package (classOfDirectory directoryName) with
  | .error error =>
    return .failure ("Error reading icons from '" ++ options.input ++ "': " ++ error.message)
  | .ok root =>
    match ← options.loadTheme files with
    | .error message => return .failure message
    | .ok theme =>
      match generate root (isWanted options.excludes) (options.config theme) with
      | .error error => return .failure ("Error: " ++ error.message)
      | .ok generated => finish files options generated

def run (arguments : List String) : m Outcome :=
  match Options.parse? arguments with
  | none => return .usage
  | some options =>
    match FilePath.fileName? options.input with
    | none => return .failure ("Error: input '" ++ options.input ++ "' has no directory name")
    | some name => runNamed files options name

end
end IconForge

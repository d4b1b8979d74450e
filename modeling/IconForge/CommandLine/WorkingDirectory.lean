import IconForge.CommandLine.Run

/-!
# File systems as values

A tree of entries with a working directory, which a run can read and write. Paths are followed from
the root if they begin with a slash, and from the working directory if not.
-/

namespace IconForge

inductive PathError where
  | notFound
  | alreadyExists
  | notDirectory
  | isDirectory
  | nameTooLong
  deriving DecidableEq

def PathError.message : PathError → String
  | notFound => "No such file or directory (os error 2)"
  | alreadyExists => "File exists (os error 17)"
  | notDirectory => notDirectoryReason
  | isDirectory => "Is a directory (os error 21)"
  | nameTooLong => "File name too long (os error 36)"

namespace FileEntry

/-- The entry that is reached through names from an entry. -/
def below? (entry : FileEntry) : List String → Option FileEntry
  | [] => some entry
  | name :: others =>
    match entry with
    | directory entries => (entries.lookup name).bind (·.below? others)
    | _ => none

/-- Puts an entry under a name into entries, in the place of the one that has the name. -/
def put (name : String) (entry : FileEntry) :
    List (String × FileEntry) → List (String × FileEntry)
  | [] => [(name, entry)]
  | (other, old) :: others =>
    if other = name then (name, entry) :: others else (other, old) :: put name entry others

/-- Puts an entry under a name into the directory that is reached through names. -/
def putBelow (root : FileEntry) (name : String) (entry : FileEntry) : List String → FileEntry
  | [] =>
    match root with
    | directory entries => directory (put name entry entries)
    | other => other
  | step :: others =>
    match root with
    | directory entries =>
      match entries.lookup step with
      | some next => directory (put step (next.putBelow name entry others) entries)
      | none => root
    | other => other

end FileEntry

/-- A tree of entries, and the names on the way from its root to the working directory. -/
structure FileSystem where
  root : FileEntry
  home : List String

namespace FileSystem

def nameLimit : Nat := 255

def pathLimit : Nat := 4095

/-- A file system whose only entry is the working directory. -/
def empty : FileSystem := ⟨.directory [("home", .directory [])], ["home"]⟩

variable (files : FileSystem)

def entriesAt (place : List String) : Except PathError (List (String × FileEntry)) :=
  match files.root.below? place with
  | some (.directory entries) => .ok entries
  | _ => .error .notDirectory

/-- Follows steps from a place. Every step, with or without meaning, starts from a directory. -/
def walk (place : List String) : List String → Except PathError (List String)
  | [] => .ok place
  | step :: others => do
    let entries ← files.entriesAt place
    if step = "" ∨ step = "." then
      walk place others
    else if step = ".." then
      walk place.dropLast others
    else if nameLimit < step.utf8ByteSize then
      .error .nameTooLong
    else if (entries.lookup step).isSome then
      walk (place ++ [step]) others
    else
      .error .notFound

/-- Follows the steps of a path up to a number of them. -/
def walkPath (path : String) (steps : List String) : Except PathError (List String) :=
  if path = "" then .error .notFound
  else if pathLimit < path.utf8ByteSize then .error .nameTooLong
  else files.walk (if path.toList.head? = some '/' then [] else files.home) steps

def at? (path : String) : Except PathError FileEntry := do
  let place ← files.walkPath path (FilePath.steps path)
  match files.root.below? place with
  | some entry => return entry
  | none => .error .notFound

def isDirectory (path : String) : Bool :=
  match files.at? path with
  | .ok (.directory _) => true
  | _ => false

def contents? (path : String) : Except PathError ByteArray := do
  match ← files.at? path with
  | .file contents => return contents
  | _ => .error .isDirectory

/-- Puts an entry under the last name of a path. What has the name already, if it has a meaning of
its own, is given to `replace`, which may refuse. -/
def putAt (path : String) (entry : FileEntry) (replace : Option FileEntry → Except PathError Unit) :
    Except PathError FileSystem := do
  let steps := FilePath.steps path
  let name := steps.getLast?.getD ""
  let place ← files.walkPath path steps.dropLast
  let entries ← files.entriesAt place
  if name = "" ∨ name = "." ∨ name = ".." then
    replace (some (.directory entries))
  if nameLimit < name.utf8ByteSize then
    .error .nameTooLong
  replace (entries.lookup name)
  return { files with root := files.root.putBelow name entry place }

/-- Makes the directory at a path, whose parent is there. -/
def makeDirectory (path : String) : Except PathError FileSystem :=
  files.putAt path (.directory []) fun old =>
    if old.isSome then .error .alreadyExists else .ok ()

/-- Makes the directories at paths, each the parent of the one before it, as far as they are
missing. -/
def makeDirectories : List String → Except PathError FileSystem
  | [] => .ok files
  | path :: above =>
    match files.makeDirectory path with
    | .ok made => .ok made
    | .error .notFound => do
      let made ← makeDirectories above
      match made.makeDirectory path with
      | .ok made => .ok made
      | .error error => if made.isDirectory path then .ok made else .error error
    | .error error => if files.isDirectory path then .ok files else .error error

/-- Writes a file at a path, after making the directories above it. -/
def write (path : String) (contents : ByteArray) : Except PathError FileSystem := do
  let made ← files.makeDirectories (FilePath.chain path).dropLast.reverse
  made.putAt path (.file contents) fun
    | some (.directory _) => .error .isDirectory
    | _ => .ok ()

def access : FileAccess (StateM FileSystem) where
  readTree path := do
    match (← get).at? path with
    | .ok entry => return entry
    | .error error => return .unreadableDirectory error.message
  readFile path := return ((← get).contents? path).mapError PathError.message
  writeFile path text := do
    match (← get).write path text.toUTF8 with
    | .ok files => StateT.set files; return .ok ()
    | .error error => return .error error.message

/-- A run in a file system, and the file system afterwards. -/
def runIn (arguments : List String) : Outcome × FileSystem :=
  Id.run ((run access arguments).run files)

end FileSystem
end IconForge

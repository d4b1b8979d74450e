import IconForge.CommandLine.Names
import IconForge.FilePath
import IconForge.Generation.GroupTree

/-!
# Groups from directories

Every directory is a group and every file with the extension `toml` an icon. The entries of a
directory are taken in the order of their names, whatever the order in which they are listed.
-/

namespace IconForge

/-- An entry of a file system. What cannot be read is kept with the reason. -/
inductive FileEntry where
  | file (contents : ByteArray)
  | directory (entries : List (String × FileEntry))
  | unreadableFile (reason : String)
  | unreadableDirectory (reason : String)

inductive LoadError where
  | unreadableDirectory (reason : String)
  | unreadableIcon (reason : String)
  /-- Two directories would have the same package. -/
  | sharedPackage (path package className : String)
  deriving DecidableEq

def LoadError.message : LoadError → String
  | unreadableDirectory reason => reason
  | unreadableIcon reason => "failed to read icon file: " ++ reason
  | sharedPackage path package className =>
    "directory '" ++ path ++ "' maps to package '" ++ package ++ "', already used by group '" ++
      className ++ "'"

def notDirectoryReason : String := "Not a directory (os error 20)"

/-- The reason for which bytes that are not UTF-8 cannot be read as text. -/
def invalidTextReason : String := "stream did not contain valid UTF-8"

def decodeText (contents : ByteArray) : Except String String :=
  match String.fromUTF8? contents with
  | some text => .ok text
  | none => .error invalidTextReason

namespace FileEntry

mutual

/-- An entry whose directories list their entries by name, at every level. -/
def sorted : FileEntry → FileEntry
  | file contents => file contents
  | directory entries =>
    directory ((sortedEach entries).mergeSort fun first second => decide (first.1 ≤ second.1))
  | unreadableFile reason => unreadableFile reason
  | unreadableDirectory reason => unreadableDirectory reason

/-- Entries that are each sorted, in the given order. -/
def sortedEach : List (String × FileEntry) → List (String × FileEntry)
  | [] => []
  | (name, entry) :: others => (name, entry.sorted) :: sortedEach others

end

def readIcon (path stem : String) (contents : ByteArray) : Except LoadError IconSource :=
  (decodeText contents).mapError .unreadableIcon |>.map fun text => ⟨nameOfStem stem, path, text⟩

/-- The icons and child groups of the entries of a directory, taken in order, given the packages
and classes of the child groups before them. -/
def readEntries (path package : String) (siblings : List (String × String)) :
    List (String × FileEntry) → Except LoadError (List IconSource × List IconGroup)
  | [] => .ok ([], [])
  | (name, entry) :: others =>
    let entryPath := FilePath.push path name
    let childPackage := package ++ "." ++ segmentOfDirectory name
    let childClass := classOfDirectory name
    let shared : Except LoadError Unit :=
      match siblings.lookup childPackage with
      | some className => .error (.sharedPackage entryPath childPackage className)
      | none => .ok ()
    match entry with
    | directory entries => do
      shared
      let (icons, children) ← readEntries entryPath childPackage [] entries
      let (otherIcons, otherChildren) ←
        readEntries path package (siblings ++ [(childPackage, childClass)]) others
      return (otherIcons, ⟨childPackage, childClass, icons, children⟩ :: otherChildren)
    | unreadableDirectory reason => do
      shared
      .error (.unreadableDirectory reason)
    | file contents =>
      match FilePath.splitExtension name with
      | (stem, some "toml") => do
        let icon ← readIcon entryPath stem contents
        let (otherIcons, otherChildren) ← readEntries path package siblings others
        return (icon :: otherIcons, otherChildren)
      | _ => readEntries path package siblings others
    | unreadableFile reason =>
      match FilePath.splitExtension name with
      | (_, some "toml") => .error (.unreadableIcon reason)
      | _ => readEntries path package siblings others
termination_by entries => sizeOf entries
decreasing_by
  all_goals simp only [List.cons.sizeOf_spec, Prod.mk.sizeOf_spec, FileEntry.directory.sizeOf_spec]
  all_goals omega

/-- The group of an entry that should be a directory. -/
def readGroup (path package className : String) (entry : FileEntry) :
    Except LoadError IconGroup :=
  match entry.sorted with
  | directory entries => do
    let (icons, children) ← readEntries path package [] entries
    return ⟨package, className, icons, children⟩
  | unreadableDirectory reason => .error (.unreadableDirectory reason)
  | file _ | unreadableFile _ => .error (.unreadableDirectory notDirectoryReason)

end FileEntry
end IconForge

import IconForge.CommandLine.WorkingDirectory

/-!
# The program

The command line on the file system.
-/

namespace IconForge

/-- The reason that a failure of the file system gives. -/
def failureReason : IO.Error → String
  | .noFileOrDirectory .. => PathError.notFound.message
  | .alreadyExists .. => PathError.alreadyExists.message
  | .inappropriateType _ code _ =>
    if code = 21 then PathError.isDirectory.message else PathError.notDirectory.message
  | .invalidArgument _ code details =>
    if code = 36 then PathError.nameTooLong.message else details
  | .permissionDenied .. => "Permission denied (os error 13)"
  | error => toString error

/-- Reads an entry with everything below it. -/
partial def readTree (path : String) : IO FileEntry := do
  let place := System.mkFilePath [path]
  if ← place.isDir then
    try
      let listed ← place.readDir
      let entries ← listed.toList.mapM fun entry => do
        return (entry.fileName, ← readTree (FilePath.push path entry.fileName))
      return .directory entries
    catch error => return .unreadableDirectory (failureReason error)
  else
    try
      return .file (← IO.FS.readBinFile place)
    catch error => return .unreadableFile (failureReason error)

/-- Makes a directory. One that is there already is no failure. -/
def makeDirectory (path : String) : IO Unit := do
  try
    IO.FS.createDir path
  catch error =>
    unless ← (System.mkFilePath [path]).isDir do
      throw error

/-- Makes the directories at paths, each the parent of the one before it. -/
def makeDirectories : List String → IO Unit
  | [] => return
  | path :: above => do
    try
      makeDirectory path
    catch error =>
      match error with
      | .noFileOrDirectory .. =>
        makeDirectories above
        makeDirectory path
      | _ => throw error

def fileSystem : FileAccess IO where
  readTree path := do
    if ← (System.mkFilePath [path]).pathExists then
      readTree path
    else
      return .unreadableDirectory PathError.notFound.message
  readFile path := do
    try
      return .ok (← IO.FS.readBinFile path)
    catch error => return .error (failureReason error)
  writeFile path text := do
    try
      makeDirectories (FilePath.chain path).dropLast.reverse
      IO.FS.writeFile path text
      return .ok ()
    catch error => return .error (failureReason error)

end IconForge

def main (arguments : List String) : IO UInt32 := do
  let outcome ← IconForge.run IconForge.fileSystem arguments
  IO.print outcome.output
  IO.eprint outcome.errors
  return outcome.exitCode.toUInt32

import GrammarFuzz.CommandLine.Program
import GrammarFuzz.Shell.Run
import Std.Time.Format

/-!
# The command line

The outermost layer: it takes over the files that the arguments name, runs the program on them,
prints each finding as it is found, writes what the program leaves, and ends with its status.
Nothing is decided here.
-/

namespace GrammarFuzz.CommandLine

/-- What stands on the disk at a path. -/
def entryOnDisk (path : String) : IO (Option Entry) := do
  try
    let content ← IO.FS.readBinFile path
    return some (.file content.toList)
  catch
    | .inappropriateType .. => return some .directory
    | _ => return none

/-- Takes over what stands along a path; `above` is the part of it that has been taken over. -/
def takeOver (files : FileSystem) (above : String) : List String → IO FileSystem
  | [] => return files
  | name :: rest => do
    let path := above ++ name
    if path.isEmpty then takeOver files (path ++ "/") rest
    else
      match ← entryOnDisk path with
      | some .directory =>
        takeOver (files.put (files.normal path) .directory) (path ++ "/") rest
      | some entry => return files.put (files.normal path) entry
      | none => return files

/-- The files on the disk before any are taken over: the way to the working directory. -/
def workingFiles : IO FileSystem := do
  let path := (← IO.currentDir).toString
  let files ← takeOver .empty "" (FileSystem.names path)
  return { files with workingDirectory := FileSystem.empty.normal path }

/-- The paths that a request names: those it reads and those it writes into. -/
def Request.paths : Request → List String × List String
  | .help | .version => ([], [])
  | .run file settings =>
    let words := (settings.config.compiler.map Command.arguments).getD []
    (file :: words, settings.config.outputDirectory.toList ++ settings.logDirectory.toList)

/-- Writes the new files of a directory to the disk. -/
def store (before after : FileSystem) (directory : String) : IO Unit := do
  for (name, entry) in after.list directory do
    match entry with
    | .directory => continue
    | .file content =>
      if (before.list directory).contains (name, entry) then continue
      IO.FS.createDirAll directory
      IO.FS.writeBinFile (FileSystem.join directory name) ⟨content.toArray⟩

/-- Prints at once, and sets a clock to the time it is. -/
def terminal : Terminal IO where
  print text := do
    let output ← IO.getStdout
    output.putStr text
    output.flush
  setClock _ := do
    let now ← Std.Time.PlainDateTime.now
    return fun _ => now.format "uuuu-MM-dd'T'HH:mm:ss.SSSSSS"

/-- A whole number from random bytes. -/
def randomSeed : IO Int := do
  let bytes ← IO.getRandomBytes 8
  return bytes.toList.foldl (fun value byte => value * 256 + byte.toNat) (0 : Nat)

end GrammarFuzz.CommandLine

open GrammarFuzz GrammarFuzz.CommandLine in
/-- Runs the program on the arguments. -/
def main (arguments : List String) : IO UInt32 := do
  let platform := Shell.platform
  let (read, written) := match Request.ofArguments platform.interpreter.digitLimit arguments with
    | .ok request => request.paths
    | .error _ => ([], [])
  let mut files ← workingFiles
  for path in read ++ written do
    files ← takeOver files "" (FileSystem.names path)
  let now ← Std.Time.PlainDateTime.now
  let surroundings : Surroundings :=
    { platform, files
      stamp := ⟨now.format "uuuu-MM-dd HH:mm:ss,SSS", programName⟩
      fileStamp := now.format "uuuu-MM-dd_HH-mm-ss"
      clock := fun _ => ""
      seed := ← randomSeed }
  let outcome ← runPrinting terminal surroundings arguments
  (← IO.getStderr).putStr outcome.console
  for directory in written do
    if !directory.isEmpty then store files outcome.files directory
  match outcome.ending with
  | some (.exit status) => return status.toUInt32
  | some (.failed failure) =>
    (← IO.getStderr).putStrLn failure.message
    return 1
  | none =>
    (← IO.getStderr).putStrLn "a text with a surrogate outside of a pair"
    return 1

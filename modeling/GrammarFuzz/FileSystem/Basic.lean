import GrammarFuzz.Text.Quoted

/-!
# File systems

A file system maps places to directories and files.  A place is the list of names on the way
from the root; a path is a text that leads to a place, with slashes between the names, from the
root or from the working directory.  Walking along a path needs a directory at every step, while
the normal form of a path looks at texts alone.
-/

namespace GrammarFuzz

/-- What stands at a place. -/
inductive Entry where
  | directory
  | file (content : List UInt8)
  deriving DecidableEq, Repr

/-- The entries of all places but the root, the last ones first, and the place of the working
directory. -/
structure FileSystem where
  entries : List (List String × Entry)
  workingDirectory : List String
  deriving Repr

namespace FileSystem

/-! ## Faults -/

/-- Why something cannot be done with a path. -/
inductive Fault where
  | noEntry
  | permissionDenied
  | exists
  | notDirectory
  | isDirectory
  deriving DecidableEq, Repr

/-- The number of a fault. -/
def Fault.number : Fault → Nat
  | noEntry => 2
  | permissionDenied => 13
  | .exists => 17
  | notDirectory => 20
  | isDirectory => 21

/-- The wording of a fault. -/
def Fault.message : Fault → String
  | noEntry => "No such file or directory"
  | permissionDenied => "Permission denied"
  | .exists => "File exists"
  | notDirectory => "Not a directory"
  | isDirectory => "Is a directory"

/-- What went wrong with a path. -/
inductive Error where
  | atPath (fault : Fault) (path : String)
  /-- A path cannot hold the zero character. -/
  | zeroCharacter
  deriving DecidableEq, Repr

/-- The wording of an error. -/
def Error.message : Error → String
  | .atPath fault path =>
    "[Errno " ++ toString fault.number ++ "] " ++ fault.message ++ ": " ++ Text.quoted path
  | .zeroCharacter => "embedded null byte"

/-! ## Paths -/

/-- The names in a path; none between two slashes is an empty name. -/
def names (path : String) : List String := (path.toList.splitOn '/').map String.ofList

/-- The place that a path starts from. -/
def origin (system : FileSystem) (path : String) : List String :=
  if path.toList.head? = some '/' then [] else system.workingDirectory

/-- The names of the normal form of a path from the root: without empty names and dots, and with two
dots taken with the name before them. -/
def normal (system : FileSystem) (path : String) : List String :=
  ((names path).foldl (fun above name =>
    if name = "" ∨ name = "." then above
    else if name = ".." then above.drop 1
    else name :: above) (system.origin path).reverse).reverse

/-- The names that tell paths apart.  Exactly two slashes at the front of a path are not the same as
one, and stand as an empty name. -/
def absolute (system : FileSystem) (path : String) : List String :=
  if path.startsWith "//" ∧ ¬ path.startsWith "///" then "" :: system.normal path
  else system.normal path

/-- A path into a directory. -/
def join (directory name : String) : String :=
  if directory.isEmpty ∨ directory.endsWith "/" then directory ++ name
  else directory ++ "/" ++ name

/-- The file system with an empty root, in which the work is done. -/
def empty : FileSystem := ⟨[], []⟩

/-- What stands at a place. -/
def entry? (system : FileSystem) (place : List String) : Option Entry :=
  if place = [] then some .directory else (system.entries.find? (·.1 == place)).map (·.2)

/-- The place that names lead to from another place.  The last name need not stand for anything,
all before it stand for directories. -/
def walk (system : FileSystem) (place : List String) : List String → Except Fault (List String)
  | [] => .ok place
  | name :: rest =>
    match system.entry? place with
    | none => .error .noEntry
    | some (.file _) => .error .notDirectory
    | some .directory =>
      if name = "" ∨ name = "." then walk system place rest
      else if name = ".." then walk system place.dropLast rest
      else walk system (place ++ [name]) rest

/-- The place that a path leads to. -/
def locate (system : FileSystem) (path : String) : Except Error (List String) :=
  if path.toList.contains '\x00' then .error .zeroCharacter
  else if path.isEmpty then .error (.atPath .noEntry path)
  else
    match system.walk (system.origin path) (names path) with
    | .ok place => .ok place
    | .error fault => .error (.atPath fault path)

/-- What a path leads to. -/
def at? (system : FileSystem) (path : String) : Option Entry :=
  match system.locate path with
  | .ok place => system.entry? place
  | .error _ => none

/-- Whether a path leads to a directory. -/
def isDirectory (system : FileSystem) (path : String) : Bool := system.at? path == some .directory

/-! ## Operations -/

/-- The content of a file. -/
def read (system : FileSystem) (path : String) : Except Error (List UInt8) := do
  match system.entry? (← system.locate path) with
  | some (.file content) => return content
  | some .directory => throw (.atPath .isDirectory path)
  | none => throw (.atPath .noEntry path)

/-- Puts an entry at a place. -/
def put (system : FileSystem) (place : List String) (entry : Entry) : FileSystem :=
  { system with entries := (place, entry) :: system.entries.filter (·.1 != place) }

/-- Gives a file a content; the file may be new. -/
def write (system : FileSystem) (path : String) (content : List UInt8) :
    Except Error FileSystem := do
  let place ← system.locate path
  match system.entry? place with
  | some .directory => throw (.atPath .isDirectory path)
  | _ => return system.put place (.file content)

/-- Adds to the end of a file; the file may be new. -/
def append (system : FileSystem) (path : String) (content : List UInt8) :
    Except Error FileSystem := do
  let place ← system.locate path
  match system.entry? place with
  | some .directory => throw (.atPath .isDirectory path)
  | some (.file before) => return system.put place (.file (before ++ content))
  | none => return system.put place (.file content)

/-- The path without slashes at its end. -/
def withoutTrailingSlashes (path : String) : String :=
  String.ofList (path.toList.reverse.dropWhile (· == '/')).reverse

/-- Makes a directory. -/
def makeDirectory (system : FileSystem) (path : String) : Except Error FileSystem := do
  match system.locate (withoutTrailingSlashes path) with
  | .error (.atPath fault _) => throw (.atPath fault path)
  | .error error => throw error
  | .ok place =>
    match system.entry? place with
    | some _ => throw (.atPath .exists path)
    | none => return system.put place .directory

/-- Makes directories, given as paths from the outermost to the innermost, up to the first that
cannot be made.  A directory that is there is no error. -/
def makeEach (system : FileSystem) : List String → FileSystem × Option Error
  | [] => (system, none)
  | path :: rest =>
    if system.isDirectory path then makeEach system rest
    else
      match system.makeDirectory path with
      | .ok system => makeEach system rest
      | .error error => (system, some error)

/-- The path up to its last name, without the slashes there, and its last name. -/
def splitLast (path : String) : String × String :=
  let reversed := path.toList.reverse
  let last := reversed.takeWhile (· ≠ '/')
  let above := String.ofList (reversed.dropWhile (· ≠ '/')).reverse
  let trimmed := withoutTrailingSlashes above
  (if trimmed.isEmpty then above else trimmed, String.ofList last.reverse)

/-- The paths of a directory and of those above it that do not exist, outermost first. -/
def missing (system : FileSystem) : (fuel : Nat) → (path : String) → List String
  | 0, path => [path]
  | fuel + 1, path =>
    let (above, last) := splitLast path
    let (above, last) := if last.isEmpty then splitLast above else (above, last)
    if above.isEmpty || last.isEmpty || (system.at? above).isSome then [path]
    else missing system fuel above ++ [path]

/-- The file system after a directory and the missing ones above it were to be made.  Those that
were made before a failure stay. -/
def withDirectories (system : FileSystem) (path : String) : FileSystem :=
  (system.makeEach (system.missing path.length path)).1

/-- Makes a directory and the missing ones above it. -/
def makeDirectories (system : FileSystem) (path : String) : Except Error FileSystem :=
  match (system.makeEach (system.missing path.length path)).2 with
  | none => .ok (system.withDirectories path)
  | some error => .error error

/-- Removes a file. -/
def remove (system : FileSystem) (path : String) : Except Error FileSystem := do
  let place ← system.locate path
  match system.entry? place with
  | some (.file _) => return { system with entries := system.entries.filter (·.1 != place) }
  | some .directory => throw (.atPath .isDirectory path)
  | none => throw (.atPath .noEntry path)

/-- The entries of a directory in the order of their names. -/
def list (system : FileSystem) (path : String) : List (String × Entry) :=
  match system.locate path with
  | .error _ => []
  | .ok place =>
    let inside := system.entries.filterMap fun (other, entry) =>
      match other.getLast? with
      | some name => if other.dropLast = place then some (name, entry) else none
      | none => none
    inside.mergeSort fun first second => !(second.1 < first.1)

end FileSystem

end GrammarFuzz

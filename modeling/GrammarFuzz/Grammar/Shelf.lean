import GrammarFuzz.FileSystem.Basic
import GrammarFuzz.Grammar.Document
import GrammarFuzz.Log.Record

/-!
# Grammar files

A shelf keeps the grammars that were loaded from files, under the absolute normal form of
their paths, until it is cleared.  Loading with the shelf takes the grammar that is kept; what is
not kept is loaded from the file as it is now and kept if that succeeds.  Every
loaded grammar has a serial number, so that two loads can be told apart.  How a file is read does
not matter to the shelf.
-/

namespace GrammarFuzz.Grammar

/-- Why a file gives no grammar. -/
inductive FileError where
  | unreadable (path : String) (fault : FileSystem.Fault) (faultPath : String)
  /-- The path holds a zero character. -/
  | zeroCharacter
  /-- The bytes of the file are no text. -/
  | notText (error : Text.DecodeError)
  | document (error : DocumentError)

/-- The wording of a failed load. -/
def FileError.message : FileError → String
  | .unreadable path fault faultPath =>
    "Cannot read grammar file " ++ path ++ ": " ++ (FileSystem.Error.atPath fault faultPath).message
  | .zeroCharacter => FileSystem.Error.zeroCharacter.message
  | .notText error => error.message
  | .document error => error.message

/-- Whether a failed load is a fault of the grammar file. -/
def FileError.isGrammarFault : FileError → Bool
  | .unreadable _ _ _ => true
  | .zeroCharacter => false
  | .notText _ => false
  | .document error => error.isGrammarFault

/-- A way to read grammar files. -/
abbrev FileReader := FileSystem → (path : String) → Except FileError Grammar

/-- The grammar in a file. -/
def ofFile (digitLimit : Option Nat) : FileReader := fun system path =>
  match system.read path with
  | .error (.atPath fault faultPath) => .error (.unreadable path fault faultPath)
  | .error .zeroCharacter => .error .zeroCharacter
  | .ok bytes =>
    match Text.decodeUtf8 bytes with
    | .error error => .error (.notText error)
    | .ok text => (ofText digitLimit (Text.unifyNewlines text)).mapError .document

/-! ## Notes for the log -/

/-- The name of the logger. -/
def logger : String := "treesaw.grammars"

/-- The note about a grammar that was loaded from a document. -/
def loadedNote (grammar : Grammar) : Log.Record :=
  ⟨Log.Level.debug, logger, "Loaded grammar " ++ grammar.name.shown ++ ": " ++
    toString grammar.definitions.length ++ " definitions, " ++ toString grammar.size ++ " rules"⟩

/-- The note about a file that gave a grammar. -/
def fileNote (path : String) : Log.Record :=
  ⟨Log.Level.info, logger, "Loaded grammar file " ++ path⟩

/-! ## Keeping grammars -/

/-- A grammar with its serial number. -/
structure Loaded where
  serial : Nat
  grammar : Grammar

/-- The grammars that are kept, the last ones first, and the number of grammars loaded so far. -/
structure Shelf where
  kept : List (List String × Loaded)
  loads : Nat

namespace Shelf

/-- The shelf on which nothing is kept. -/
def empty : Shelf := ⟨[], 0⟩

/-- The grammar that is kept under some names. -/
def get? (shelf : Shelf) (names : List String) : Option Loaded :=
  (shelf.kept.find? (·.1 == names)).map (·.2)

/-- Forgets all grammars. -/
def clear (shelf : Shelf) : Shelf := { shelf with kept := [] }

/-- Loads the grammar in a file as it is now. -/
def loadFresh (reader : FileReader) (shelf : Shelf) (system : FileSystem) (path : String) :
    Except FileError (Loaded × Shelf) := do
  let grammar ← reader system path
  return (⟨shelf.loads, grammar⟩, { shelf with loads := shelf.loads + 1 })

/-- Loads the grammar of a path, with the shelf or without it. -/
def load (reader : FileReader) (shelf : Shelf) (system : FileSystem) (path : String)
    (useShelf : Bool) : Except FileError (Loaded × Shelf) :=
  if useShelf then
    match shelf.get? (system.absolute path) with
    | some loaded => .ok (loaded, shelf)
    | none => do
      let (loaded, shelf) ← shelf.loadFresh reader system path
      return (loaded, { shelf with kept := (system.absolute path, loaded) :: shelf.kept })
  else shelf.loadFresh reader system path

end Shelf

end GrammarFuzz.Grammar

import GrammarFuzz.FileSystem.Basic
import GrammarFuzz.Log.Record
import GrammarFuzz.Text.Utf8

/-!
# Handlers

A logger passes records of its level and above to its handlers: the console, and a file if
there is a directory for one.  Each handler takes records of its own level and above.  On a
terminal the names of levels and the messages that matter are coloured; the file always
has plain lines.
-/

namespace GrammarFuzz.Log

/-! ## Colours -/

/-- A terminal sequence. -/
def sequence (code : String) : String := "\x1b[" ++ code ++ "m"

/-- The sequence that ends colours. -/
def plain : String := sequence "0"

/-- The colour of the name of a level; levels without a name of their own have none. -/
def levelColour? (level : Level) : Option String :=
  if level = Level.debug then some (sequence "94")
  else if level = Level.info then some (sequence "92")
  else if level = Level.warning then some (sequence "93")
  else if level = Level.error then some (sequence "91")
  else if level = Level.critical then some (sequence "1" ++ sequence "91")
  else none

/-- The colour of the message of a level. -/
def messageColour? (level : Level) : Option String :=
  if Level.error ≤ level then some (sequence "91")
  else if level = Level.warning then some (sequence "93")
  else none

/-- A text in a colour. -/
def coloured (colour? : Option String) (text : String) : String :=
  match colour? with
  | some colour => colour ++ text ++ plain
  | none => text

/-! ## Lines -/

/-- What lines say about the moment and the origin of a record. -/
structure Stamp where
  time : String
  place : String

/-- The handlers of a logger. -/
structure Handlers where
  level : Level
  consoleLevel : Level
  /-- Whether lines on the console start with the time. -/
  timed : Bool
  /-- Whether the console is a terminal. -/
  terminal : Bool
  /-- The path of the file and its level. -/
  file : Option (String × Level)

namespace Handlers

/-- The line of a record on the console. -/
def consoleLine (handlers : Handlers) (stamp : Stamp) (record : Record) : String :=
  let colour (colour? : Option String) (text : String) :=
    if handlers.terminal then coloured colour? text else text
  (if handlers.timed then stamp.time ++ " - " else "") ++
    colour (levelColour? record.level) (Level.name record.level) ++ " - " ++
    colour (messageColour? record.level) record.message ++ "\n"

/-- The line of a record in the file. -/
def fileLine (stamp : Stamp) (record : Record) : String :=
  stamp.time ++ " - " ++ record.logger ++ " - " ++ Level.name record.level ++ " - " ++
    stamp.place ++ " - " ++ record.message ++ "\n"

/-- The level that counts: a logger without a level takes that of warnings. -/
def effectiveLevel (handlers : Handlers) : Level :=
  if handlers.level = 0 then Level.warning else handlers.level

/-- The number of handlers. -/
def count (handlers : Handlers) : Nat := if handlers.file.isSome then 2 else 1

/-- What a console shows and the files. -/
structure Sheet where
  console : String
  files : FileSystem

/-- Passes a record to the handlers. -/
def emit (handlers : Handlers) (stamp : Stamp) (sheet : Sheet) (record : Record) : Sheet :=
  if record.level < handlers.effectiveLevel then sheet
  else
    let files := match handlers.file with
      | some (path, level) =>
        if record.level < level then sheet.files
        else
          match sheet.files.append path (Text.encodeUtf8 (fileLine stamp record)) with
          | .ok files => files
          | .error _ => sheet.files
      | none => sheet.files
    let console :=
      if record.level < handlers.consoleLevel then sheet.console
      else sheet.console ++ handlers.consoleLine stamp record
    ⟨console, files⟩

/-- Sets up a logger: makes the directory and the file of the log, if there is to be one, and
notes it.  `fileStamp` is the time in the name of the file. -/
def setup (logger : String) (directory : Option String) (level consoleLevel fileLevel : Level)
    (timed terminal : Bool) (fileStamp : String) (stamp : Stamp) (sheet : Sheet) :
    Except FileSystem.Error (Handlers × Sheet) := do
  match directory.filter (!·.isEmpty) with
  | none => return (⟨level, consoleLevel, timed, terminal, none⟩, sheet)
  | some directory =>
    let files ← sheet.files.makeDirectories directory
    let path := FileSystem.join directory (logger ++ "_" ++ fileStamp ++ ".log")
    let files ← files.append path []
    let handlers : Handlers := ⟨level, consoleLevel, timed, terminal, some (path, fileLevel)⟩
    let note : Record := ⟨Level.debug, logger, "Logging initialized. Log file: " ++ path⟩
    return (handlers, handlers.emit stamp ⟨sheet.console, files⟩ note)

end Handlers

end GrammarFuzz.Log

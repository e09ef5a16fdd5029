import GrammarFuzz.FileSystem.Basic
import GrammarFuzz.Json.Printer
import GrammarFuzz.Log.Record
import GrammarFuzz.Text.Utf8

/-!
# Findings

A finding is a program that was kept: because an oracle failed on it, or because there is no
oracle.  On the console it is framed by marker lines; in a directory of results it is a
document, with the number of the finding in the name of its file.
-/

namespace GrammarFuzz

/-- A program that was kept and why. -/
structure Finding where
  source : String
  /-- What the failing oracle said. -/
  error : Option String
  /-- How the parse oracle sees the program. -/
  dump : Option String
  /-- The number of programs that were generated to find this one. -/
  attempts : Int
  /-- The number of cuts that were accepted. -/
  cuts : Int
  /-- The program before the cuts. -/
  uncut : String
  deriving DecidableEq, Repr

namespace Finding

/-- A text or nothing as a document value. -/
def textOrNull : Option String → Json
  | some text => .text text
  | none => .null

/-- The members of a finding in a document. -/
def members (finding : Finding) : List (String × Json) := [
  ("source", .text finding.source),
  ("error", textOrNull finding.error),
  ("tree", textOrNull finding.dump),
  ("attempts", .int finding.attempts),
  ("pruning_steps", .int finding.cuts),
  ("original_source", .text finding.uncut)]

/-- A finding as messages show it. -/
def shown (finding : Finding) : String :=
  "FuzzResult(source=" ++ Text.quoted finding.source ++ ", error=" ++
    (textOrNull finding.error).shown ++ ")"

/-- Lines between their marker lines. -/
def framed (word : String) (lines : List String) : List String :=
  [">>>>>" ++ word] ++ lines ++ ["<<<<<" ++ word]

/-- Nothing, or a text between its marker lines. -/
def framedIfAny (word : String) : Option String → List String
  | some text => framed word [text]
  | none => []

/-- The lines of a finding on the console; a text may take several of them. -/
def lines (finding : Finding) : List String :=
  framed "RESULT" (framed "SOURCE" [finding.source] ++ framedIfAny "AST" finding.dump ++
    framedIfAny "ERROR" finding.error)

/-- A finding as it is printed. -/
def text (finding : Finding) : String := "\n".intercalate finding.lines ++ "\n"

/-! ## Files -/

/-- A number with zeros in front up to four characters, the sign included. -/
def fourDigits (number : Int) : String :=
  let digits := toString number.natAbs
  let sign := if number < 0 then "-" else ""
  sign ++ String.ofList (List.replicate (4 - digits.length - sign.length) '0') ++ digits

/-- The name of the file of a finding. -/
def fileName (number : Int) : String := "result_" ++ fourDigits number ++ ".json"

/-- The content of the file of a finding; `stamp` is the time at which it is saved. -/
def document (finding : Finding) (stamp : String) : Json :=
  .object (finding.members ++ [("saved_at", .text stamp)])

/-- Saves a finding in a directory, which is made if it is missing. -/
def save (finding : Finding) (system : FileSystem) (directory : String) (number : Int)
    (stamp : String) : Except FileSystem.Error (String × FileSystem) := do
  let system ← system.makeDirectories directory
  let path := FileSystem.join directory (fileName number)
  let content := Text.encodeUtf8 (finding.document stamp).indented
  return (path, ← system.write path content)

/-- The note about a saved finding. -/
def savedNote (path : String) : Log.Record :=
  ⟨Log.Level.info, "treesaw.report", "Saved result to " ++ path⟩

end Finding

end GrammarFuzz

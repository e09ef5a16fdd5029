import GrammarFuzz.FileSystem.Basic
import GrammarFuzz.Interpreter
import GrammarFuzz.Number
import GrammarFuzz.Oracle.Language

/-!
# The platform

What the program builds on and does not hold itself: the interpreter, the modules that languages
come from, and the commands that can be run.  All of it is open.  A module may turn out to be
anything, and a command may end in any way, change the files, and end in another way when it is run
again.
-/

namespace GrammarFuzz

/-- What the import of a module comes to. -/
inductive Import where
  /-- The module cannot be imported, and the reason. -/
  | missing (reason : String)
  /-- The module fails while it is run or makes its language. -/
  | broken (reason : String)
  | noLanguage
  | language (language : Language)

/-- How a command ends. -/
inductive CommandEnd where
  /-- The system refuses to start it, and the reason. -/
  | cannotStart (reason : String)
  | timedOut
  /-- The status, or the negated number of a signal, and the two outputs. -/
  | exited (status : Int) (output errors : List UInt8)

/-- What the program finds where it runs. -/
structure Platform where
  interpreter : Interpreter
  importModule : (name : String) → Import
  /-- Runs a command on an input for a time, `before` commands after the first. -/
  runCommand : (before : Nat) → (files : FileSystem) → (arguments : List String) →
    (input : List UInt8) → (time : Option Number) → CommandEnd × FileSystem

/-- A platform that offers nothing. -/
def Platform.bare : Platform where
  interpreter := .plain
  importModule name := .missing ("No module named " ++ Text.quoted name)
  runCommand _ files arguments _ _ :=
    (.cannotStart (FileSystem.Error.atPath .noEntry (arguments.headD "")).message, files)

end GrammarFuzz

import GrammarFuzz.FileSystem.Basic
import GrammarFuzz.Log.Record
import GrammarFuzz.Oracle.Verdict

/-!
# Oracles

An oracle gives verdicts on programs and may describe how it sees them.  It works in a scene:
the files, and a memory of whatever the oracles of a campaign remember.  Nothing is
assumed about its verdicts; they may change from one question to the next.
-/

namespace GrammarFuzz

/-- Files and a memory. -/
structure Scene (σ : Type) where
  files : FileSystem
  memory : σ

namespace Oracle

/-- Why an oracle cannot be set up or asked. -/
inductive Error where
  /-- The module of this name cannot be imported. -/
  | noModule (name reason : String)
  /-- The module fails by itself. -/
  | brokenModule (reason : String)
  /-- The module has no language. -/
  | noLanguage (name : String)
  | emptyModuleName
  /-- The name of the module starts with a dot. -/
  | relativeModule (name : String)
  | emptyCommand
  | cannotStart (program reason : String)
  /-- A word of the command holds a zero character. -/
  | zeroCharacter
  /-- The time to wait is not a number. -/
  | waitUndefined
  | waitEndless
  | waitTooLong
  /-- The oracle gives no verdicts. -/
  | noVerdicts
  deriving DecidableEq, Repr

/-- The wording of an error. -/
def Error.message : Error → String
  | .noModule name reason =>
    "Cannot import tree-sitter grammar " ++ Text.quoted name ++ ": " ++ reason
  | .brokenModule reason => reason
  | .noLanguage name => "Module " ++ Text.quoted name ++ " is not a tree-sitter grammar binding"
  | .emptyModuleName => "Empty module name"
  | .relativeModule name =>
    "the 'package' argument is required to perform a relative import for " ++ Text.quoted name
  | .emptyCommand => "Compiler command line is empty"
  | .cannotStart program reason =>
    "Cannot start compiler " ++ Text.quoted program ++ ": " ++ reason
  | .zeroCharacter => FileSystem.Error.zeroCharacter.message
  | .waitUndefined => "cannot convert float NaN to integer"
  | .waitEndless => "cannot convert float infinity to integer"
  | .waitTooLong => "timeout is too large"
  | .noVerdicts => "Subclasses must implement this method"

/-- Whether an error is reported as a fault of the setup. -/
def Error.isSetupFault : Error → Bool
  | .noModule _ _ | .noLanguage _ | .emptyCommand | .cannotStart _ _ => true
  | _ => false

/-- What an oracle answers: a verdict or an error, and notes for the log. -/
structure Answer where
  verdict : Except Error Verdict
  notes : List Log.Record

/-- An answer without notes. -/
def Answer.quiet (verdict : Verdict) : Answer := ⟨.ok verdict, []⟩

end Oracle

/-- An oracle of a scene with memory `σ`. -/
structure Oracle (σ : Type) where
  name : String
  check : String → StateM (Scene σ) Oracle.Answer
  describe : String → StateM (Scene σ) (Option String)
  close : StateM (Scene σ) Unit

/-- The oracle that gives no verdicts. -/
def Oracle.silent (σ : Type) : Oracle σ where
  name := "oracle"
  check _ := return ⟨.error .noVerdicts, []⟩
  describe _ := return none
  close := return ()

end GrammarFuzz

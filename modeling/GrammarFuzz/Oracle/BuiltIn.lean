import GrammarFuzz.Config
import GrammarFuzz.Oracle.Basic
import GrammarFuzz.Platform
import GrammarFuzz.Text.Utf8

/-!
# The parse oracle and the compiler oracle

The parse oracle fails programs that a language cannot parse cleanly.  The compiler oracle runs
a command on the program and fails it unless the command ends with status zero.  Languages
and commands are those of a platform.  The memory of the two is the number of commands
that have been run.
-/

namespace GrammarFuzz

/-- A parse oracle: a language and the module that it comes from. -/
structure ParseOracle where
  moduleName : String
  language : Language

namespace ParseOracle

/-- The language of a module. -/
def languageOf (platform : Platform) (name : String) : Except Oracle.Error Language :=
  if name.isEmpty then .error .emptyModuleName
  else if name.startsWith "." then .error (.relativeModule name)
  else
    match platform.importModule name with
    | .missing reason => .error (.noModule name reason)
    | .broken reason => .error (.brokenModule reason)
    | .noLanguage => .error (.noLanguage name)
    | .language language => .ok language

/-- The parse oracle of a module, with a note for the log. -/
def ofModule (platform : Platform) (name : String) :
    Except Oracle.Error (ParseOracle × Log.Record) :=
  (languageOf platform name).map fun language =>
    (⟨name, language⟩, ⟨Log.Level.debug, "treesaw.oracles.parser_oracle",
      "Parser oracle ready for " ++ Text.quoted name⟩)

/-- The verdict on a program. -/
def verdict (oracle : ParseOracle) (source : String) : Verdict :=
  if (oracle.language.parse source).hasFault then .failure "AST error" else .passed

/-- How the language sees a program. -/
def dump (oracle : ParseOracle) (source : String) : String := (oracle.language.parse source).dump

/-- The parse oracle as an oracle. -/
def toOracle {σ : Type} (oracle : ParseOracle) : Oracle σ where
  name := "parser"
  check source := return .quiet (oracle.verdict source)
  describe source := return some (oracle.dump source)
  close := return ()

end ParseOracle

/-- A compiler oracle: the command and the seconds after which it counts as hanging. -/
structure CompilerOracle where
  arguments : List String
  timeout : Option Number

namespace CompilerOracle

/-- The compiler oracle of a command. -/
def ofCommand (command : Command) (timeout : Option Number) :
    Except Oracle.Error CompilerOracle :=
  if command.arguments.isEmpty then .error .emptyCommand else .ok ⟨command.arguments, timeout⟩

/-- How a run of the command ended: the status, unless the time was up, and what was written. -/
structure Report where
  status : Option Int
  output : String
  deriving DecidableEq, Repr

/-- The name of the logger. -/
def logger : String := "treesaw.oracles.compiler_oracle"

/-- The text of the timeout. -/
def timeoutText (oracle : CompilerOracle) : String :=
  (oracle.timeout.map Number.text).getD "None"

/-- The greatest number of seconds that can be waited for. -/
def longestWait : Number := .float 2147483.647

/-- Why a number of seconds cannot be waited for. -/
def waitFault? (seconds : Number) : Option Oracle.Error :=
  if seconds.isUnordered then some .waitUndefined
  else if seconds.isInfinite then some .waitEndless
  else if longestWait.lt seconds then some .waitTooLong
  else none

/-- Whether no time is left from the start. -/
def hasNoTime (oracle : CompilerOracle) : Bool :=
  oracle.timeout.any fun seconds => !(Number.int 0).lt seconds

/-- The report and the note of a run whose time is up. -/
def timedOut (oracle : CompilerOracle) : Report × Log.Record :=
  (⟨none, "timed out after " ++ oracle.timeoutText ++ "s"⟩, ⟨Log.Level.warning, logger,
    "Compiler timed out after " ++ oracle.timeoutText ++ " seconds"⟩)

/-- What the oracle makes of a command that has ended. -/
def settle (oracle : CompilerOracle) (ending : CommandEnd) :
    Except Oracle.Error Report × List Log.Record :=
  let late := (Except.ok oracle.timedOut.1, [oracle.timedOut.2])
  -- a command that cannot start is never waited for
  match ending, oracle.timeout.bind waitFault? with
  | .cannotStart reason, _ => (.error (.cannotStart (oracle.arguments.headD "") reason), [])
  | _, some error => (.error error, [])
  | .timedOut, none => late
  | .exited status output errors, none =>
    if oracle.hasNoTime then late
    else
      (.ok ⟨some status, String.ofList
        (Text.decodeUtf8Lenient output ++ Text.decodeUtf8Lenient errors)⟩, [])

/-- Runs the command on a program. -/
def run (platform : Platform) (oracle : CompilerOracle) (source : String) :
    StateM (Scene Nat) (Except Oracle.Error Report × List Log.Record) := do
  let scene ← get
  if oracle.arguments.any (·.contains '\x00') then
    set { scene with memory := scene.memory + 1 }
    return (.error .zeroCharacter, [])
  else
    let (ending, files) := platform.runCommand scene.memory scene.files oracle.arguments
      (Text.encodeUtf8 source) oracle.timeout
    set (⟨files, scene.memory + 1⟩ : Scene Nat)
    return oracle.settle ending

/-- The verdict on a run. -/
def verdict (report : Report) : Verdict :=
  if report.status = some 0 then .passed
  else .failure ("Compiler error:\n" ++ Text.strip report.output)

/-- The note about a run. -/
def notes (report : Report) : List Log.Record :=
  if report.status = some 0 then []
  else [⟨Log.Level.debug, logger,
    "Compiler exited with status " ++ (report.status.map toString).getD "None"⟩]

/-- Asks for the verdict on a program. -/
def check (platform : Platform) (oracle : CompilerOracle) (source : String) :
    StateM (Scene Nat) Oracle.Answer := do
  let (result, before) ← oracle.run platform source
  match result with
  | .error error => return ⟨.error error, before⟩
  | .ok report => return ⟨.ok (verdict report), before ++ notes report⟩

/-- The compiler oracle as an oracle. -/
def toOracle (platform : Platform) (oracle : CompilerOracle) : Oracle Nat where
  name := "compiler"
  check := oracle.check platform
  describe _ := return none
  close := return ()

end CompilerOracle

/-- The oracles that a configuration can name. -/
inductive BuiltInOracle where
  | parse (oracle : ParseOracle)
  | compiler (oracle : CompilerOracle)

namespace BuiltInOracle

/-- A built-in oracle as an oracle. -/
def toOracle (platform : Platform) : BuiltInOracle → Oracle Nat
  | parse oracle => oracle.toOracle
  | compiler oracle => oracle.toOracle platform

/-- The oracles that a configuration names, the parse oracle first, and notes for the log. -/
def ofConfig (platform : Platform) (config : Config) :
    Except Oracle.Error (List BuiltInOracle × List Log.Record) := do
  let (parsers, notes) ← match config.language with
    | some name => do
      let (oracle, note) ← ParseOracle.ofModule platform name
      pure ([parse oracle], [note])
    | none => pure ([], [])
  let compilers ← match config.compiler with
    | some command => do pure [compiler (← CompilerOracle.ofCommand command config.timeout)]
    | none => pure []
  return (parsers ++ compilers, notes)

end BuiltInOracle

end GrammarFuzz

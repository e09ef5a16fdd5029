import GrammarFuzz.Campaign.Run
import GrammarFuzz.CommandLine.Arguments
import GrammarFuzz.Grammar.Shelf
import GrammarFuzz.Log.Handlers

/-!
# The program

The program reads its arguments, sets up the log, loads the grammar and runs a campaign.
Findings go to the output as they are found, and messages to the console and the log file.  Faults
of the arguments end the program with status 2; faults of the options, the grammar or the oracles
are reported and end it with status 1; any other failure is passed on.

The program may run in any monad with a terminal.  To say what its output is, the texts that are
printed are collected (`run`).
-/

namespace GrammarFuzz.CommandLine

/-- The name of the program. -/
def programName : String := "tree-saw"

/-- The version of the program. -/
def versionText : String := programName ++ " 1.0.0\n"

/-! ## Usage -/

/-- A switch in the usage. -/
def usageWord (switch : Switch) : String :=
  let spelling := switch.spellings.headD ""
  match switch.placeholder? with
  | some value => "[" ++ spelling ++ " " ++ value ++ "]"
  | none => "[" ++ spelling ++ "]"

/-- How the program is called. -/
def usageText : String :=
  "usage: " ++ " ".intercalate (programName :: Switch.all.map usageWord ++ [fileWord]) ++ "\n"

/-- A switch in the help text. -/
def helpLine (switch : Switch) : String :=
  let value := match switch.placeholder? with
    | some value => " " ++ value
    | none => ""
  "  " ++ ", ".intercalate (switch.spellings.map (· ++ value)) ++ "  " ++ switch.purpose ++ "\n"

/-- The help text. -/
def helpText : String := usageText ++ "\n" ++ String.join (Switch.all.map helpLine)

/-! ## Running -/

/-- What the program finds: the platform, the files, the time as it is written in the log and in the
name of the log file, the times at which findings are saved, and a seed for runs that are given
none. -/
structure Surroundings where
  platform : Platform
  files : FileSystem
  stamp : Log.Stamp
  fileStamp : String
  clock : Nat → String
  seed : Int

/-- Why a run fails. -/
inductive Failure where
  | log (error : FileSystem.Error)
  | grammar (error : Grammar.FileError)
  | campaign (error : Campaign.Error)

/-- The wording of a failure. -/
def Failure.message : Failure → String
  | .log error => error.message
  | .grammar error => error.message
  | .campaign error => error.message

/-- Whether a failure is reported to the user. -/
def Failure.isReported : Failure → Bool
  | .log _ => false
  | .grammar error => error.isGrammarFault
  | .campaign error => error.isReported

/-- Whether the program has come upon a surrogate outside of a pair.  Its texts can hold one and go
on, but no text here can. -/
def Failure.isOutside : Failure → Bool
  | .grammar (.document .loneSurrogate) => true
  | .campaign (.generation (.sample .surrogates)) => true
  | _ => false

/-- How the program ends. -/
inductive Ending where
  | exit (status : Nat)
  /-- The failure is not the program's to report. -/
  | failed (failure : Failure)

/-- What the program leaves.  It is not said how it ends if it has come upon a surrogate. -/
structure Outcome where
  ending : Option Ending
  console : String
  files : FileSystem

/-- What a campaign leaves: the records in their order, the files, and its failure. -/
structure Trace where
  log : List Log.Record
  files : FileSystem
  failure : Option Failure

/-- The name of the logger. -/
def logger : String := "treesaw"

/-- The note about the options. -/
def configNote (config : Config) : Log.Record :=
  ⟨Log.Level.debug, logger, "Configuration: " ++ config.shown⟩

/-- The note at the end of a campaign. -/
def doneNote (stats : Campaign.Stats) : Log.Record :=
  ⟨Log.Level.info, logger, "Done: " ++ toString stats.results ++ " result(s) from " ++
    toString stats.attempts ++ " attempts, " ++ toString stats.oracleCalls ++ " oracle calls"⟩

/-- What the program reaches while it runs. -/
structure Terminal (m : Type → Type) where
  print : String → m PUnit
  /-- Sets the clock that shows the times at which findings are saved. -/
  setClock : (clock : Nat → String) → m (Nat → String)

section Printing

variable {m : Type → Type} [Monad m] (terminal : Terminal m)

/-- Pulls some findings of a run and prints each of them as it comes.  The error is the one that
ended them. -/
def printFindings (campaign : Campaign Nat Number) :
    (count : Nat) → Campaign.Run → Campaign.State Nat Number →
      m (Option Campaign.Error × Campaign.Run × Campaign.State Nat Number)
  | 0, run, state => return (none, run, state)
  | count + 1, run, state => do
    let clock ← terminal.setClock campaign.clock
    match ({ campaign with clock }.pull run).run state with
    | ((.ok (some finding), run), state) =>
      terminal.print finding.text
      printFindings campaign count run state
    | ((.ok none, run), state) => return (none, run, state)
    | ((.error error, run), state) => return (some error, run, state)

/-- Runs a campaign to its end. -/
def runCampaign (campaign : Campaign Nat Number) (seed : Int) (files : FileSystem)
    (notes : List Log.Record) : m Trace := do
  let state : Campaign.State Nat Number :=
    ⟨.fresh (.ofSeed seed), ⟨files, 0⟩, .fresh, notes.reverse⟩
  let pulls := (campaign.config.results - (state.stats.results : Int)).toNat + 1
  let (error, run, state) ← printFindings terminal campaign pulls .fresh state
  let closing : StateM (Campaign.State Nat Number) Unit := do
    Campaign.closeRun run
    let _ ← campaign.close.run
  let state := (closing.run state).2
  let log := match error with
    | some _ => state.log
    | none => doneNote state.stats :: state.log
  return ⟨log.reverse, state.scene.files, error.map .campaign⟩

/-- Loads the grammar and runs the campaign that the options describe. -/
def perform (surroundings : Surroundings) (files : FileSystem) (config : Config)
    (path : String) : m Trace :=
  let platform := surroundings.platform
  match config.validate with
  | .error error => return ⟨[], files, some (.campaign (.config error))⟩
  | .ok config =>
    match Grammar.ofFile platform.interpreter.digitLimit files path with
    | .error error => return ⟨[configNote config], files, some (.grammar error)⟩
    | .ok grammar =>
      let notes := [configNote config, grammar.loadedNote, Grammar.fileNote path]
      match Campaign.ofConfig platform surroundings.clock config grammar with
      | .error error => return ⟨notes, files, some (.campaign error)⟩
      | .ok (campaign, more) =>
        runCampaign terminal campaign (config.seed.getD surroundings.seed) files (notes ++ more)

end Printing

/-- The record that reports a failure. -/
def failureNote (failure : Failure) : Log.Record := ⟨Log.Level.error, logger, failure.message⟩

/-- How a campaign ends the program, and the records with the report of a failure. -/
def Trace.conclude (trace : Trace) : Option Ending × List Log.Record :=
  match trace.failure with
  | none => (some (.exit 0), trace.log)
  | some failure =>
    if failure.isReported then (some (.exit 1), trace.log ++ [failureNote failure])
    else (if failure.isOutside then none else some (.failed failure), trace.log)

section Printing

variable {m : Type → Type} [Monad m] (terminal : Terminal m)

/-- Runs with settings. -/
def runWith (surroundings : Surroundings) (settings : Settings) (path : String) : m Outcome :=
  match Log.Handlers.setup logger settings.logDirectory Log.Level.debug settings.level
      Log.Level.debug true false surroundings.fileStamp surroundings.stamp
      ⟨"", surroundings.files⟩ with
  | .error error =>
    let files := (settings.logDirectory.filter (!·.isEmpty)).elim surroundings.files
      surroundings.files.withDirectories
    return ⟨some (.failed (.log error)), "", files⟩
  | .ok (handlers, sheet) => do
    let trace ← perform terminal surroundings sheet.files settings.config path
    let (ending, log) := trace.conclude
    let sheet := log.foldl (handlers.emit surroundings.stamp) ⟨sheet.console, trace.files⟩
    return ⟨ending, sheet.console, sheet.files⟩

/-- Runs the program and prints what it gives out. -/
def runPrinting (surroundings : Surroundings) (arguments : List String) : m Outcome :=
  match Request.ofArguments surroundings.platform.interpreter.digitLimit arguments with
  | .error error =>
    return ⟨some (.exit 2), usageText ++ programName ++ ": error: " ++ error.message ++ "\n",
      surroundings.files⟩
  | .ok .help => do
    terminal.print helpText
    return ⟨some (.exit 0), "", surroundings.files⟩
  | .ok .version => do
    terminal.print versionText
    return ⟨some (.exit 0), "", surroundings.files⟩
  | .ok (.run file settings) => runWith terminal surroundings settings file

end Printing

/-- Adds each text to what has been printed, and leaves clocks as they are. -/
def Terminal.collecting : Terminal (StateM String) where
  print text := modify (· ++ text)
  setClock := pure

/-- Runs the program: what it leaves, and all that it prints. -/
def run (surroundings : Surroundings) (arguments : List String) : Outcome × String :=
  (runPrinting .collecting surroundings arguments).run ""

end GrammarFuzz.CommandLine

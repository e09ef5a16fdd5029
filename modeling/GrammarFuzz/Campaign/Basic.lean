import GrammarFuzz.Finding
import GrammarFuzz.Generator.Expand
import GrammarFuzz.Oracle.BuiltIn

/-!
# Campaigns

A campaign generates programs and asks oracles about them until it has found what it looks for.
It counts what it does, writes a log and saves its findings.  A program fails if an
oracle fails it, and the first oracle that does decides: its message is the error, and no
oracle after it is asked.  A failing verdict without a message passes the program.
-/

namespace GrammarFuzz

namespace Campaign

/-- Why a campaign cannot be set up or cannot go on. -/
inductive Error where
  | config (error : Config.Error)
  /-- The grammar has this many external symbols. -/
  | externals (count : Nat)
  | generation (error : GenerationError)
  | oracle (error : Oracle.Error)
  | file (error : FileSystem.Error)
  /-- The allowed attempts are used up. -/
  | exhausted (attempts found : Nat) (wanted : Int)
  /-- More attempts were made than can ever be made. -/
  | endless

/-- The wording of an error. -/
def Error.message : Error → String
  | .config error => error.message
  | .externals count => Generator.externalsMessage count
  | .generation error => error.message
  | .oracle error => error.message
  | .file error => error.message
  | .exhausted attempts found wanted =>
    "Found " ++ toString found ++ " of " ++ toString wanted ++ " results in " ++
      toString attempts ++ " attempts"
  | .endless => "endless campaign"

/-- Whether an error is reported to the user as such. -/
def Error.isReported : Error → Bool
  | .config _ => true
  | .externals _ => true
  | .generation error => error.isGrammarFault
  | .oracle error => error.isSetupFault
  | .file _ => false
  | .exhausted _ _ _ => true
  | .endless => false

/-- Where a campaign is. -/
inductive Status where
  | idle
  | running
  | completed
  | failed
  deriving DecidableEq, Repr

/-- The word for a status. -/
def Status.word : Status → String
  | idle => "idle"
  | running => "running"
  | completed => "completed"
  | failed => "failed"

/-- What a campaign counts. -/
structure Stats where
  status : Status
  attempts : Nat
  results : Nat
  oracleCalls : Nat
  /-- The accepted cuts. -/
  cuts : Nat
  /-- Whether a run has started. -/
  started : Bool
  /-- Whether a run has ended. -/
  ended : Bool
  deriving DecidableEq, Repr

/-- The counts before anything is done. -/
def Stats.fresh : Stats := ⟨.idle, 0, 0, 0, 0, false, false⟩

/-- What changes during a campaign. -/
structure State (σ S : Type) where
  session : Generator.Session S
  scene : Scene σ
  stats : Stats
  /-- The records, the last ones first. -/
  log : List Log.Record

end Campaign

/-- A campaign: its options, its generator and its oracles. -/
structure Campaign (σ S : Type) where
  config : Config
  generator : Generator S
  oracles : List (Oracle σ)
  /-- The time in the file of a finding, by the number of the finding. -/
  clock : Nat → String

namespace Campaign

variable {σ S : Type}

/-- A step of a campaign. -/
abbrev Work (σ S α : Type) := ExceptT Error (StateM (State σ S)) α

/-- The name of the logger. -/
def logger : String := "treesaw.fuzzer"

namespace Work

/-- Adds a record to the log. -/
def note (record : Log.Record) : Work σ S Unit :=
  modify fun state => { state with log := record :: state.log }

/-- Adds a message about progress to the log. -/
def inform (message : String) : Work σ S Unit := note ⟨Log.Level.info, logger, message⟩

/-- Changes the counts. -/
def count (change : Stats → Stats) : Work σ S Unit :=
  modify fun state => { state with stats := change state.stats }

/-- Lets an oracle act in the scene. -/
def act {α : Type} (action : StateM (Scene σ) α) : Work σ S α := do
  let state ← get
  let (result, scene) := action.run state.scene
  set { state with scene }
  return result

/-- The record about weights that were computed. -/
def weightsNote [Scalar S] (rule : Nat) (weights : List S) : Log.Record :=
  ⟨Log.Level.debug, "treesaw.structure.generator",
    "Sample weights for rule " ++ toString rule ++ ": [" ++
      ", ".intercalate (weights.map Scalar.text) ++ "]"⟩

/-- Lets the generator act; the weights it computes are noted in the log. -/
def generate [Scalar S] {α : Type} (action : Generator.Gen S α) : Work σ S α := do
  let state ← get
  let (result, session) := action.run.run { state.session with notes := [] }
  let notes := session.notes.map fun (rule, weights) => weightsNote rule weights
  set { state with session := { session with notes := [] }, log := notes ++ state.log }
  match result with
  | .ok value => return value
  | .error error => throw (.generation error)

end Work

/-- Whether there is an oracle. -/
def hasOracle (campaign : Campaign σ S) : Bool := !campaign.oracles.isEmpty

/-- Asks oracles one after the other until one fails the program. -/
def firstFailure (source : String) : List (Oracle σ) → Work σ S (Option String)
  | [] => return none
  | oracle :: rest => do
    let answer ← Work.act (oracle.check source)
    modify fun state => { state with log := answer.notes.reverse ++ state.log }
    match answer.verdict with
    | .error error => throw (.oracle error)
    | .ok verdict => if verdict.failed then return verdict.message else firstFailure source rest

/-- The error of a program, if an oracle fails it. -/
def error? (campaign : Campaign σ S) (source : String) : Work σ S (Option String) := do
  Work.count fun stats => { stats with oracleCalls := stats.oracleCalls + 1 }
  firstFailure source campaign.oracles

/-- The first description that an oracle gives of a program. -/
def firstDescription (source : String) : List (Oracle σ) → Work σ S (Option String)
  | [] => return none
  | oracle :: rest => do
    match ← Work.act (oracle.describe source) with
    | some dump => return some dump
    | none => firstDescription source rest

/-- How the oracles see a program. -/
def describe (campaign : Campaign σ S) (source : String) : Work σ S (Option String) :=
  firstDescription source campaign.oracles

/-- Closes the oracles. -/
def close (campaign : Campaign σ S) : Work σ S Unit :=
  campaign.oracles.forM fun oracle => Work.act oracle.close

/-- The generator of a configuration. -/
def generatorOf [Scalar S] (config : Config) (meanRepeat : S) (grammar : Grammar)
    (interpreter : Interpreter) : Except Error (Generator S) :=
  (Generator.make grammar config.depth meanRepeat config.regexRepeat interpreter).mapError
    .externals

/-- The campaign that a configuration describes, with the oracles that it names, and notes for the
log.  The options are checked first. -/
def ofConfig (platform : Platform) (clock : Nat → String) (config : Config) (grammar : Grammar) :
    Except Error (Campaign Nat Number × List Log.Record) := do
  let config ← config.validate.mapError .config
  let generator ← generatorOf config config.repetition grammar platform.interpreter
  let (oracles, notes) ← (BuiltInOracle.ofConfig platform config).mapError .oracle
  return (⟨config, generator, oracles.map (BuiltInOracle.toOracle platform), clock⟩, notes)

end Campaign

end GrammarFuzz

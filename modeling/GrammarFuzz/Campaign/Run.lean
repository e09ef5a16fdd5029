import GrammarFuzz.Campaign.Shrink

/-!
# Runs

A run looks for the number of findings that the configuration asks for.  It is pulled: each
pull goes on until the next finding.  A run that is closed between two pulls has ended, but
the campaign still counts as running; a run that fails has ended for good.

A search generates programs until one is accepted: any program if there is no oracle, else
one that fails, shrunk.  The number of attempts may be bounded; where it is not, a search has
patience for a number of them that no program reaches.
-/

namespace GrammarFuzz.Campaign

variable {σ S : Type} [Scalar S]

/-! ## Searching -/

/-- Counts an attempt, if there is one left. -/
def nextAttempt (campaign : Campaign σ S) : Work σ S Unit := do
  let stats := (← get).stats
  match campaign.config.maxAttempts with
  | some bound =>
    if bound ≤ (stats.attempts : Int) then
      throw (.exhausted stats.attempts stats.results campaign.config.results)
  | none => pure ()
  Work.count fun stats => { stats with attempts := stats.attempts + 1 }

/-- The finding that a failing program leads to. -/
def findingOf (campaign : Campaign σ S) (attempts : Nat) (failing : Failing) :
    Work σ S Finding := do
  let (shrunk, steps) ← campaign.shrink failing
  return ⟨shrunk.source, some shrunk.error, ← campaign.describe shrunk.source, attempts, steps,
    failing.source⟩

/-- Generates programs until one is accepted; `attempts` were made before.  At most `fuel` are
made. -/
def search (campaign : Campaign σ S) : (fuel : Nat) → (attempts : Nat) → Work σ S Finding
  | 0, _ => throw .endless
  | fuel + 1, attempts => do
    campaign.nextAttempt
    let attempts := attempts + 1
    let tree ← Work.generate campaign.generator.generate
    let source := tree.source campaign.config.separator
    if !campaign.hasOracle then return ⟨source, none, none, attempts, 0, source⟩
    else
      match ← campaign.error? source with
      | none =>
        Work.note ⟨Log.Level.debug, logger, "Attempt " ++ toString attempts ++ ": no error (" ++
          toString source.length ++ " chars)"⟩
        search campaign fuel attempts
      | some error =>
        Work.inform ("Attempt " ++ toString attempts ++ ": oracle error, minimizing " ++
          toString tree.tokens.length ++ " tokens")
        campaign.findingOf attempts ⟨tree, source, error⟩

/-- A number of attempts that no search makes. -/
def attemptLimit : Nat := Nat.pow 2 62

/-- The number of attempts that a search can make: those that are left, and one that finds none
left. -/
def attemptsLeft (campaign : Campaign σ S) (patience : Nat) (stats : Stats) : Nat :=
  match campaign.config.maxAttempts with
  | some bound => (bound - stats.attempts).toNat + 1
  | none => patience

/-- The next accepted program, with patience for some attempts. -/
def findWithin (campaign : Campaign σ S) (patience : Nat) : Work σ S Finding := do
  campaign.search (campaign.attemptsLeft patience (← get).stats) 0

/-- The next accepted program. -/
def find (campaign : Campaign σ S) : Work σ S Finding := campaign.findWithin attemptLimit

/-! ## Runs -/

/-- Where a run is. -/
inductive Run where
  /-- Nothing has been pulled. -/
  | fresh
  /-- It waits for the next pull. -/
  | suspended
  | ended
  deriving DecidableEq, Repr

/-- Saves a finding, if there is a directory for it. -/
def saveFinding (campaign : Campaign σ S) (finding : Finding) : Work σ S Unit := do
  match campaign.config.outputDirectory.filter (!·.isEmpty) with
  | none => return ()
  | some directory =>
    let state ← get
    match finding.save state.scene.files directory state.stats.results
        (campaign.clock state.stats.results) with
    | .ok (path, files) =>
      set { state with scene := { state.scene with files } }
      Work.note (Finding.savedNote path)
    | .error error =>
      set { state with scene :=
        { state.scene with files := state.scene.files.withDirectories directory } }
      throw (.file error)

/-- Goes on to the next finding; nothing if there are enough. -/
def advance (campaign : Campaign σ S) (patience : Nat) : Work σ S (Option Finding) := do
  if ((← get).stats.results : Int) < campaign.config.results then
    let finding ← campaign.findWithin patience
    -- a finding counts even if it cannot be saved
    Work.count fun stats => { stats with results := stats.results + 1 }
    campaign.saveFinding finding
    Work.inform ("Result " ++ toString (← get).stats.results ++ "/" ++
      toString campaign.config.results ++ " found after " ++ toString finding.attempts ++
      " attempts")
    return some finding
  else return none

/-- Marks the start of a run. -/
def begin (campaign : Campaign σ S) : Work σ S Unit := do
  Work.count fun stats => { stats with status := .running, started := true }
  Work.inform ("Looking for " ++ toString campaign.config.results ++ " result(s)")

/-- Pulls the next finding of a run whose searches have some patience. -/
def pullWithin (campaign : Campaign σ S) (patience : Nat) (run : Run) :
    StateM (State σ S) (Except Error (Option Finding) × Run) := do
  if run = .ended then return (.ok none, .ended)
  else
    let step : Work σ S (Option Finding) := do
      if run = .fresh then campaign.begin
      campaign.advance patience
    let result ← step.run
    match result with
    | .ok (some finding) => return (.ok (some finding), .suspended)
    | .ok none =>
      modify fun state =>
        { state with stats := { state.stats with status := .completed, ended := true } }
      return (.ok none, .ended)
    | .error error =>
      modify fun state =>
        { state with stats := { state.stats with status := .failed, ended := true } }
      return (.error error, .ended)

/-- Pulls the next finding of a run. -/
def pull (campaign : Campaign σ S) (run : Run) :
    StateM (State σ S) (Except Error (Option Finding) × Run) :=
  campaign.pullWithin attemptLimit run

/-- Closes a run. -/
def closeRun (run : Run) : StateM (State σ S) Unit :=
  if run = .suspended then
    modify fun state => { state with stats := { state.stats with ended := true } }
  else return ()

/-- The findings that some pulls give, and the error that ended them. -/
def pullMany (campaign : Campaign σ S) (patience : Nat) :
    (count : Nat) → (run : Run) → StateM (State σ S) (List Finding × Option Error × Run)
  | 0, run => return ([], none, run)
  | count + 1, run => do
    match ← campaign.pullWithin patience run with
    | (.ok (some finding), run) =>
      let (findings, error, run) ← pullMany campaign patience count run
      return (finding :: findings, error, run)
    | (.ok none, run) => return ([], none, run)
    | (.error error, run) => return ([], some error, run)

/-- A new run, whose searches have some patience, of which at most some findings are pulled, all if
no number is given; then it is closed. -/
def runWithin (campaign : Campaign σ S) (patience : Nat) (most : Option Nat) :
    StateM (State σ S) (List Finding × Option Error) := do
  let wanted := (campaign.config.results - ((← get).stats.results : Int)).toNat + 1
  let (findings, error, run) ← campaign.pullMany patience (most.getD wanted) .fresh
  closeRun run
  return (findings, error)

/-- A new run of which at most some findings are pulled, all if no number is given; then it is
closed. -/
def run (campaign : Campaign σ S) (most : Option Nat) :
    StateM (State σ S) (List Finding × Option Error) :=
  campaign.runWithin attemptLimit most

end GrammarFuzz.Campaign

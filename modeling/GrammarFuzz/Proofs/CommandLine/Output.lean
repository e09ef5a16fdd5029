import GrammarFuzz.CommandLine.Program
import GrammarFuzz.Proofs.Campaign.Invariants

/-!
# The output of a failed call

Findings are printed while a campaign goes on, and a failure that is reported ends the program with
status 1.  What has been printed by then depends on where the call stops.  Options, the grammar
file, external symbols and the names of oracles are checked before the campaign starts, and
nothing is printed if one of them is at fault.  A name is only looked up when its symbol is
expanded, though, a pattern is only read when it is sampled, and a compiler is only started when it
is asked: such a fault can come after any number of findings below the wanted one.

## Strategy

`Stops` lists the places at which a call fails, each with its failure and the findings before it.
It fits the program exactly (`exists_stops`, `Stops.performed_eq`).  What a run adds is
`Campaign.runWithin_meets`: its error is one of a campaign at work, and findings are missing.
-/

namespace GrammarFuzz

namespace Campaign

/-! ## Runs that fail -/

variable {σ S : Type} [Scalar S] {campaign : Campaign σ S}

end Campaign

namespace CommandLine

/-- The failure comes from a campaign at work. -/
def Failure.IsLate : Failure → Prop
  | .log _ => False
  | .grammar _ => False
  | .campaign error => error.IsLate

/-! ## Where a call stops -/

/-- The state in which the campaign of a call starts; the oracles have left some notes. -/
def startState (surroundings : Surroundings) (files : FileSystem) (config : Config) (path : String)
    (grammar : Grammar) (notes : List Log.Record) : Campaign.State Nat Number :=
  ⟨.fresh (.ofSeed (config.seed.getD surroundings.seed)), ⟨files, 0⟩, .fresh,
    ([configNote config, grammar.loadedNote, Grammar.fileNote path] ++ notes).reverse⟩

/-- A call with options and a grammar file fails, and there are some findings before. -/
inductive Stops (surroundings : Surroundings) (files : FileSystem) (config : Config)
    (path : String) : Failure → List Finding → Prop
  | options {error : Config.Error} (hoptions : config.fault? = some error) :
      Stops surroundings files config path (.campaign (.config error)) []
  | grammar {error : Grammar.FileError} (hoptions : config.fault? = none)
      (hgrammar :
        Grammar.ofFile surroundings.platform.interpreter.digitLimit files path = .error error) :
      Stops surroundings files config path (.grammar error) []
  | setup {grammar : Grammar} {error : Campaign.Error} (hoptions : config.fault? = none)
      (hgrammar :
        Grammar.ofFile surroundings.platform.interpreter.digitLimit files path = .ok grammar)
      (hsetup :
        Campaign.ofConfig surroundings.platform surroundings.clock config grammar = .error error) :
      Stops surroundings files config path (.campaign error) []
  | run {grammar : Grammar} {campaign : Campaign Nat Number} {notes : List Log.Record}
      {findings : List Finding} {error : Campaign.Error} (hoptions : config.fault? = none)
      (hgrammar :
        Grammar.ofFile surroundings.platform.interpreter.digitLimit files path = .ok grammar)
      (hsetup : Campaign.ofConfig surroundings.platform surroundings.clock config grammar =
        .ok (campaign, notes))
      (hrun : ((campaign.run none).run
        (startState surroundings files config path grammar notes)).1 = (findings, some error)) :
      Stops surroundings files config path (.campaign error) findings

section Stops

variable {surroundings : Surroundings} {files : FileSystem} {config : Config} {path : String}
  {failure : Failure}

/-- Findings are printed in the order in which they are pulled. -/
theorem printFindings_collecting {campaign : Campaign Nat Number} {count : Nat}
    {run last : Campaign.Run} {state after : Campaign.State Nat Number} {findings : List Finding}
    {error : Option Campaign.Error}
    (hpulls : (campaign.pullMany Campaign.attemptLimit count run).run state =
      ((findings, error, last), after)) (printed : String) :
    (printFindings .collecting campaign count run state).run printed =
      ((error, last, after), printed ++ String.join (findings.map Finding.text)) := by
  induction count generalizing run state findings printed with
  | zero =>
      cases hpulls
      exact congrArg (Prod.mk _) String.append_empty.symm
  | succ count ih =>
      rw [Campaign.pullMany_succ] at hpulls
      rw [printFindings, Terminal.collecting, pure_bind, Campaign.pull]
      cases hpull : (campaign.pullWithin Campaign.attemptLimit run).run state with
      | mk ending between =>
          obtain ⟨answer, next⟩ := ending
          rw [hpull] at hpulls
          -- a run that gives nothing more is not printed from, nor is one that fails
          rcases answer with failed | finding | finding
          · cases hpulls
            exact congrArg (Prod.mk _) String.append_empty.symm
          · cases hpulls
            exact congrArg (Prod.mk _) String.append_empty.symm
          · cases hrest : (campaign.pullMany Campaign.attemptLimit count next).run between with
            | mk ending final =>
                obtain ⟨others, stop, run⟩ := ending
                dsimp only at hpulls
                rw [hrest] at hpulls
                cases hpulls
                refine (ih hrest (printed ++ finding.text)).trans ?_
                rw [List.map_cons, String.join_cons, String.append_assoc]

/-- A campaign prints its findings, and its error is the failure of the call. -/
theorem runCampaign_collecting {campaign : Campaign Nat Number} {seed : Int}
    {notes : List Log.Record} {findings : List Finding} {error : Option Campaign.Error}
    (hrun : ((campaign.run none).run ⟨.fresh (.ofSeed seed), ⟨files, 0⟩, .fresh, notes.reverse⟩).1 =
      (findings, error)) :
    ((runCampaign .collecting campaign seed files notes).run "").1.failure =
        error.map .campaign ∧
      ((runCampaign .collecting campaign seed files notes).run "").2 =
        String.join (findings.map Finding.text) := by
  let start : Campaign.State Nat Number :=
    ⟨.fresh (.ofSeed seed), ⟨files, 0⟩, .fresh, notes.reverse⟩
  cases hpulls : (campaign.pullMany Campaign.attemptLimit
      ((campaign.config.results - (start.stats.results : Int)).toNat + 1) .fresh).run start with
  | mk ending after =>
      obtain ⟨pulled, stop, last⟩ := ending
      obtain ⟨ended, hclosed⟩ : ∃ ended, (campaign.runWithin Campaign.attemptLimit none).run start =
          ((pulled, stop), { after with stats := { after.stats with ended } }) :=
        Campaign.runWithin_closes hpulls
      obtain ⟨rfl, rfl⟩ : pulled = findings ∧ stop = error := by
        rw [Campaign.run, hclosed] at hrun
        exact Prod.mk.inj hrun
      unfold runCampaign
      rw [StateT.run_bind, printFindings_collecting hpulls]
      exact ⟨rfl, String.empty_append⟩

end Stops

/-! ## Calls that end with status 1 -/

section Call

variable {surroundings : Surroundings} {arguments : List String} {file : String}
  {settings : Settings} {handlers : Log.Handlers} {sheet : Log.Handlers.Sheet}

end Call

/-- What a call finds in an empty file system on a platform without anything. -/
def nowhere : Surroundings := ⟨.bare, .empty, ⟨"", ""⟩, "", fun _ => "", 0⟩

end CommandLine

/-! ### A symbol that nothing defines -/

namespace Grammar

namespace Dangling

/-- Nothing. -/
def blank : Rule := ⟨0, .blank, .null, .null, [], none⟩

/-- The symbol. -/
def symbol : Rule := ⟨1, .symbol, .null, .text "T", [], none⟩

/-- Nothing or the symbol. -/
def start : Rule := ⟨2, .choice, .null, .null, [blank, symbol], none⟩

/-- The document of the symbol. -/
def symbolDocument : Json := .object [("type", .text "SYMBOL"), ("name", .text "T")]

end Dangling

end Grammar

namespace CommandLine

end CommandLine

end GrammarFuzz

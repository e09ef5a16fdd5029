import GrammarFuzz.Proofs.Campaign.Invariants
import GrammarFuzz.Proofs.Finding

/-!
# The files of a run

A run saves each finding before it delivers it.  So after some pulls a directory that was empty
holds one file for each finding that was delivered, under its number, and nothing else; and each
file is read as the document of its finding (`pullMany_files`).

Two things could put other files there.  One is an oracle, which may do anything in its scene: the
oracles are asked to leave the directory alone (`Oracle.LeavesAlone`), as those of a configuration
always do if it runs no compiler (`BuiltInOracle.leavesAlone`).  The other is a finding with the
number of an earlier one, but the campaign counts its findings and different numbers have different
names, so each finding comes to a new name (`new_of_perm`).

## Strategy

The directory need not exist before the first finding.  `FileSystem.held` is what it holds once it
is made, and `State.Holds` ties it to the number of findings.  Asking and searching keep that
(`search_holds`), a pull that delivers a finding adds one file (`advance_saved`), and the files of
several pulls add up (`pullMany_saves`).
-/

namespace GrammarFuzz

variable {σ S : Type}

/-- Whatever the oracle does in a scene, a directory holds what it held before. -/
structure Oracle.LeavesAlone (oracle : Oracle σ) (directory : String) : Prop where
  check : ∀ source scene,
    ((oracle.check source).run scene).2.files.held directory = scene.files.held directory
  describe : ∀ source scene,
    ((oracle.describe source).run scene).2.files.held directory = scene.files.held directory

/-- Without a compiler the oracles that a configuration names leave every directory alone. -/
theorem BuiltInOracle.leavesAlone {platform : Platform} {config : Config}
    {oracles : List BuiltInOracle} {notes : List Log.Record}
    (horacles : ofConfig platform config = .ok (oracles, notes))
    (hcompiler : config.compiler = none) (directory : String) :
    ∀ oracle ∈ oracles, (oracle.toOracle platform).LeavesAlone directory := by
  unfold ofConfig at horacles
  rw [hcompiler] at horacles
  cases hlanguage : config.language with
  | none =>
      rw [hlanguage] at horacles
      cases horacles
      exact nofun
  | some name =>
      rw [hlanguage] at horacles
      dsimp only at horacles
      cases hparser : ParseOracle.ofModule platform name with
      | error error =>
          rw [hparser] at horacles
          cases horacles
      | ok parser =>
          rw [hparser] at horacles
          cases horacles
          intro oracle horacle
          rw [List.mem_singleton.mp horacle]
          -- a parse oracle does nothing in the scene
          exact ⟨fun _ _ => rfl, fun _ _ => rfl⟩

namespace Campaign

variable {campaign : Campaign σ S} {directory : String} {held : List (String × Entry)}
  {found : Nat}

/-- The directory holds some entries, and there are some findings. -/
def State.Holds (directory : String) (held : List (String × Entry)) (found : Nat)
    (state : State σ S) : Prop :=
  state.scene.files.held directory = some held ∧ state.stats.results = found

/-- Oracles that leave the directory alone keep what it holds. -/
theorem keptByAsking_holds (horacles : ∀ oracle ∈ campaign.oracles, oracle.LeavesAlone directory)
    (held : List (String × Entry)) (found : Nat) :
    campaign.KeptByAsking (State.Holds directory held found) where
  check oracle horacle source state hstate :=
    ⟨((horacles oracle horacle).check source state.scene).trans hstate.1, hstate.2⟩
  describe oracle horacle source state hstate :=
    ⟨((horacles oracle horacle).describe source state.scene).trans hstate.1, hstate.2⟩
  notes _ _ _ _ hstate := hstate

/-- A finding is saved in the directory of the campaign, if there is one. -/
theorem exists_save_of_saveFinding (houtput : campaign.config.outputDirectory = some directory)
    (hdirectory : directory ≠ "") {finding : Finding} {state after : State σ S}
    (hsave : outcome (campaign.saveFinding finding) state = (.ok ⟨⟩, after)) :
    after.stats = state.stats ∧ ∃ path,
      finding.save state.scene.files directory state.stats.results
        (campaign.clock state.stats.results) = .ok (path, after.scene.files) := by
  have hfilter : campaign.config.outputDirectory.filter (!·.isEmpty) = some directory := by
    rw [houtput, Option.filter_some, if_pos]
    simpa using hdirectory
  unfold saveFinding at hsave
  rw [hfilter] at hsave
  dsimp only at hsave
  rw [outcome_get_bind] at hsave
  cases hsaved : finding.save state.scene.files directory state.stats.results
      (campaign.clock state.stats.results) with
  | error error =>
      rw [hsaved] at hsave
      cases hsave
  | ok saved =>
      rw [hsaved] at hsave
      cases hsave
      exact ⟨rfl, saved.1, rfl⟩

/-- What a pull leads to that delivers a finding: its file is in the directory, beside what was
there. -/
def Saved (campaign : Campaign σ S) (directory : String) (held : List (String × Entry))
    (found : Nat) : Except Error (Option Finding) × State σ S → Prop
  | (.ok (some finding), after) =>
    after.stats.results = found + 1 ∧ after.scene.files.isDirectory directory = true ∧
      (after.scene.files.list directory).Perm
        ((Finding.fileName (found + 1 : Nat),
          .file (finding.content (campaign.clock (found + 1)))) :: held)
  | _ => True

/-- Behind a new file the names of the next ones are still free. -/
theorem new_of_perm {held listed : List (String × Entry)} {found : Nat} {entry : Entry}
    (hlist : listed.Perm ((Finding.fileName (found + 1 : Nat), entry) :: held))
    (hnew : ∀ index, Finding.fileName (found + index + 1 : Nat) ∉ held.map (·.1)) (index : Nat) :
    Finding.fileName (found + 1 + index + 1 : Nat) ∉ listed.map (·.1) := by
  rw [(hlist.map _).mem_iff, List.map_cons, List.mem_cons, not_or]
  refine ⟨fun hname => ?_, ?_⟩
  · have := Finding.fileName_injective hname
    omega
  · have hnext := hnew (index + 1)
    rwa [show found + (index + 1) + 1 = found + 1 + index + 1 by omega] at hnext

variable [Scalar S]

/-- The generator changes its session and the log. -/
theorem generate_keeps {invariant : State σ S → Prop}
    (hsession : ∀ state session log, invariant state → invariant { state with session, log })
    (generator : Generator S) :
    Meets invariant (Work.generate generator.generate : Work σ S Tree) (fun _ => True)
      Error.IsLate := by
  refine Meets.get_bind fun state hstate => ?_
  dsimp only
  generalize generator.generate.run.run { state.session with notes := [] } = ending
  obtain ⟨answer, session⟩ := ending
  cases answer with
  | ok tree => exact ⟨hsession state _ _ hstate, trivial⟩
  | error error => exact ⟨hsession state _ _ hstate, trivial⟩

section Pulls

variable (houtput : campaign.config.outputDirectory = some directory) (hdirectory : directory ≠ "")
  (horacles : ∀ oracle ∈ campaign.oracles, oracle.LeavesAlone directory)

include horacles

/-- A search saves nothing. -/
theorem search_holds (held : List (String × Entry)) (found fuel attempts : Nat) :
    Meets (State.Holds directory held found)
      (campaign.search fuel attempts : Work σ S Finding) (fun _ => True) Error.IsLate := by
  have hkept := keptByAsking_holds horacles held found
  have hgenerate : Meets (State.Holds directory held found)
      (Work.generate campaign.generator.generate : Work σ S Tree) (fun _ => True) Error.IsLate :=
    generate_keeps (fun _ _ _ hstate => hstate) campaign.generator
  refine hkept.search (fun _ _ hstate => hstate) hgenerate (fun _ _ _ => trivial)
    (fun tree attempts error _ => ?_) fuel attempts
  have hcut : ∀ failing : Failing, True → ∀ variant ∈ failing.tree.variants,
      String → True := fun _ _ _ _ _ => trivial
  exact (hkept.findingOf hcut trivial attempts).mono (fun _ _ => trivial) Error.isLate_of_oracle

include houtput hdirectory

/-- **A finding is in the directory before it is delivered.** -/
theorem advance_saved (patience : Nat) {held : List (String × Entry)} {found : Nat}
    (hnew : Finding.fileName (found + 1 : Nat) ∉ held.map (·.1)) {state : State σ S}
    (hstate : state.Holds directory held found) :
    campaign.Saved directory held found (outcome (campaign.advance patience) state) := by
  have hfind : Meets (State.Holds directory held found) (campaign.findWithin patience)
      (fun _ => True) Error.IsLate :=
    Meets.get_bind fun state hstate => search_holds horacles held found _ _ state hstate
  unfold advance
  rw [outcome_get_bind]
  split
  next hmore =>
    have hending := hfind state hstate
    rw [outcome_bind]
    cases houtcome : outcome (campaign.findWithin patience) state with
    | mk answer after =>
        rw [houtcome] at hending
        cases answer with
        | error error => trivial
        | ok finding =>
            obtain ⟨⟨hheld, hresults⟩, -⟩ := hending
            dsimp only [Work.count]
            rw [outcome_modify_bind, outcome_bind]
            cases hsaved : outcome (campaign.saveFinding finding) _ with
            | mk answer final =>
                cases answer with
                | error error => trivial
                | ok done =>
                    obtain ⟨hstats, path, hsave⟩ :=
                      exists_save_of_saveFinding houtput hdirectory hsaved
                    rw [hresults] at hstats hsave
                    have hlist := Finding.list_save hdirectory hsave hheld hnew
                    exact ⟨congrArg Stats.results hstats, hlist⟩
  next => trivial

theorem pullWithin_saved (patience : Nat) (run : Run) {held : List (String × Entry)} {found : Nat}
    (hnew : Finding.fileName (found + 1 : Nat) ∉ held.map (·.1)) {state : State σ S}
    (hstate : state.Holds directory held found) {answer : Except Error (Option Finding)}
    {last : Run} {after : State σ S}
    (hpull : (campaign.pullWithin patience run).run state = ((answer, last), after)) :
    campaign.Saved directory held found (answer, after) := by
  refine pullWithin_of_advance (fun state begun _ hscene _ hresults hstate => ?_)
    (fun _ hstate => advance_saved houtput hdirectory horacles patience hnew hstate)
    (fun answer status state => ?_) (fun _ _ => trivial) hstate hpull
  · exact ⟨(congrArg (·.files.held directory) hscene).trans hstate.1, hresults.trans hstate.2⟩
  · rcases answer with error | finding | finding
    · exact id
    · exact id
    · exact id

/-- Pulls that all deliver a finding leave their files in the directory, beside what was there. -/
theorem pullMany_saves (patience count : Nat) (run : Run) {held : List (String × Entry)}
    {found : Nat} (hnew : ∀ index, Finding.fileName (found + index + 1 : Nat) ∉ held.map (·.1))
    {state after : State σ S} (hstate : state.Holds directory held found)
    {findings : List Finding} {error : Option Error} {last : Run}
    (hpulls : (campaign.pullMany patience count run).run state = ((findings, error, last), after))
    (hcount : findings.length = count) :
    (∃ listed, after.Holds directory listed (found + count) ∧
        listed.Perm (Finding.files campaign.clock found findings ++ held)) ∧
      (after.scene.files.isDirectory directory = true ∨ findings = [] ∧ after = state) := by
  induction count generalizing held found run state findings with
  | zero =>
      cases hpulls
      exact ⟨⟨held, hstate, List.Perm.refl _⟩, Or.inr ⟨rfl, rfl⟩⟩
  | succ count ih =>
      rw [pullMany_succ] at hpulls
      cases hpull : (campaign.pullWithin patience run).run state with
      | mk ending middle =>
          obtain ⟨answer, next⟩ := ending
          have hsaved := pullWithin_saved houtput hdirectory horacles patience run (hnew 0) hstate
            hpull
          rw [hpull] at hpulls
          rcases answer with stop | finding | finding
          · cases hpulls
            cases hcount
          · cases hpulls
            cases hcount
          · obtain ⟨hresults, hmade, hlist⟩ := hsaved
            dsimp only at hpulls
            cases hrest : (campaign.pullMany patience count next).run middle with
            | mk ending final =>
                obtain ⟨others, stop, last⟩ := ending
                rw [hrest] at hpulls
                cases hpulls
                have hmiddle : middle.Holds directory (middle.scene.files.list directory)
                    (found + 1) := ⟨FileSystem.held_of_isDirectory hmade, hresults⟩
                have hothers := ih next (new_of_perm hlist hnew) hmiddle hrest (Nat.succ.inj hcount)
                obtain ⟨⟨listed, hlisted, hperm⟩, hdirectory⟩ := hothers
                rw [show found + 1 + count = found + (count + 1) by omega] at hlisted
                refine ⟨⟨listed, hlisted, ?_⟩, Or.inl ?_⟩
                · rw [Finding.files_cons]
                  exact (hperm.trans (hlist.append_left _)).trans List.perm_middle
                · rcases hdirectory with hdirectory | ⟨-, hsame⟩
                  · exact hdirectory
                  · rw [hsame]
                    exact hmade

end Pulls

/-- **The files of a run.**  Pulls that each deliver a finding leave one file for each of them in a
directory that held nothing, or had to be made, and that the oracles leave alone.  The names are
numbered in the order of the findings, on from those that the campaign has found before; none comes
twice.  Under its name a finding is read as a document in ASCII: its own members, and then the time
at which it was saved. -/
theorem pullMany_files (houtput : campaign.config.outputDirectory = some directory)
    (hdirectory : directory ≠ "")
    (horacles : ∀ oracle ∈ campaign.oracles, oracle.LeavesAlone directory) (patience : Nat)
    (run : Run) {state after : State σ S}
    (hempty : state.scene.files.held directory = some []) {count : Nat} (hcount : 0 < count)
    {findings : List Finding} {error : Option Error} {last : Run}
    (hpulls : (campaign.pullMany patience count run).run state = ((findings, error, last), after))
    (hfindings : findings.length = count) :
    ((after.scene.files.list directory).map (·.1)).Perm
        ((List.range count).map fun index =>
          Finding.fileName (state.stats.results + index + 1 : Nat)) ∧
      ((after.scene.files.list directory).map (·.1)).Nodup ∧
      ∀ index (hindex : index < findings.length), ∃ content,
        after.scene.files.read (FileSystem.join directory
            (Finding.fileName (state.stats.results + index + 1 : Nat))) = .ok content ∧
          Json.Encodes content
            (.object (findings[index].members ++
              [("saved_at", .text (campaign.clock (state.stats.results + index + 1)))])) := by
  have hnew : ∀ index, Finding.fileName (state.stats.results + index + 1 : Nat) ∉
      ([] : List (String × Entry)).map (·.1) := fun _ => List.not_mem_nil
  obtain ⟨⟨listed, ⟨hheld, -⟩, hperm⟩, hdirectory'⟩ := pullMany_saves houtput hdirectory horacles
    patience count run hnew ⟨hempty, rfl⟩ hpulls hfindings
  have hmade : after.scene.files.isDirectory directory = true := by
    refine hdirectory'.resolve_right fun hnone => ?_
    rw [hnone.1] at hfindings
    exact absurd hfindings hcount.ne
  rw [FileSystem.held_of_isDirectory hmade] at hheld
  rw [List.append_nil, ← Option.some.inj hheld] at hperm
  have hnames := hperm.map (·.1)
  have hnodup := hnames.nodup_iff.mpr (Finding.nodup_map_fst_files _ _ _)
  refine ⟨?_, hnodup, fun index hindex => ?_⟩
  · rw [← hfindings, ← Finding.map_fst_files campaign.clock]
    exact hnames
  · refine ⟨findings[index].content (campaign.clock (state.stats.results + index + 1)), ?_,
      Finding.encodes_content _ _⟩
    refine FileSystem.read_of_mem_list hdirectory (Finding.isName_fileName _) hmade hnodup ?_
    rw [hperm.mem_iff, Finding.files, List.mem_mapIdx]
    exact ⟨index, hindex, rfl⟩

/-- The campaign of two findings with a directory for their files. -/
def savedChain : Campaign Unit (Exact fun _ => 0) :=
  { chain with
    config := { chain.config with outputDirectory := some "results" }
    clock := fun number => if number = 1 then "morning" else "noon" }

/-- It makes the directory, which does not exist, and saves both findings there. -/
theorem pullMany_files_chain :
    ∃ findings error last after,
      (savedChain.pullMany attemptLimit 2 .fresh).run (chainState [0, 0, 0, 0]) =
        ((findings, error, last), after) ∧
      findings.length = 2 ∧
      ((after.scene.files.list "results").map (·.1)).Perm
        ["result_0001.json", "result_0002.json"] ∧
      ∀ index (hindex : index < findings.length), ∃ content,
        after.scene.files.read (FileSystem.join "results"
            (Finding.fileName (0 + index + 1 : Nat))) = .ok content ∧
          Json.Encodes content
            (.object (findings[index].members ++
              [("saved_at", .text (savedChain.clock (0 + index + 1)))])) := by
  have horacles : ∀ oracle ∈ savedChain.oracles, oracle.LeavesAlone "results" := by
    intro oracle horacle
    rw [List.mem_singleton.mp horacle]
    exact ⟨fun _ _ => rfl, fun _ _ => rfl⟩
  have hempty : (chainState [0, 0, 0, 0]).scene.files.held "results" = some [] := by
    decide +kernel
  have hlength : ((savedChain.pullMany attemptLimit 2 .fresh).run
      (chainState [0, 0, 0, 0])).1.1.length = 2 := by
    decide +kernel
  cases hpulls : (savedChain.pullMany attemptLimit 2 .fresh).run (chainState [0, 0, 0, 0]) with
  | mk ending after =>
      obtain ⟨findings, error, last⟩ := ending
      rw [hpulls] at hlength
      obtain ⟨hnames, -, hcontents⟩ := pullMany_files rfl (by decide) horacles attemptLimit .fresh
        hempty (Nat.zero_lt_succ 1) hpulls hlength
      have hlist : ((List.range 2).map fun index => Finding.fileName (0 + index + 1 : Nat)) =
          ["result_0001.json", "result_0002.json"] := by
        decide +kernel
      exact ⟨findings, error, last, after, rfl, hlength, hlist ▸ hnames, hcontents⟩

end Campaign

end GrammarFuzz

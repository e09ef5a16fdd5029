import GrammarFuzz.Proofs.Campaign.Invariants

/-!
# What a campaign counts

A campaign counts an attempt before it starts a program, so attempts are programs that were
started, whatever became of them, and a bound on attempts holds wherever a run stops.  A finding is
counted before it is saved, since its number is part of the name of its file.  Findings are
therefore those that were delivered, and one more whenever a finding could not be saved
(`unsaved`): it is counted, but it is not delivered.  No other failure counts a finding.

## Strategy

`Since` compares the counts of two states of a campaign.  It reads the session and two counts, so
all that oracles, cuts and notes do leaves it alone (`Since.ignoresAsking`).  Three steps do more,
and there is a lemma for each: an attempt (`attempt_ends`), a finding that is counted
(`Since.count`), and one that is then lost (`Since.lose`).  A search is an induction over its
attempts, a run one over its pulls, and a sequence of runs one over the runs.
-/

namespace GrammarFuzz

/-! ## Options in range -/

namespace Config

/-- What a check lets through is not at fault. -/
theorem not_and_of_check_eq_none {fault : Prop} [Decidable fault] {error : Error}
    {rest : Option Error} (hcheck : (if fault then some error else rest) = none) :
    ¬ fault ∧ rest = none := by
  by_cases hfault : fault
  · rw [if_pos hfault] at hcheck
    cases hcheck
  · rw [if_neg hfault] at hcheck
    exact ⟨hfault, hcheck⟩

/-- At least one finding is wanted, and a bound leaves at least one attempt. -/
theorem bounds_of_fault?_eq_none {config : Config} (hvalid : config.fault? = none) :
    1 ≤ config.results ∧ ∀ bound, config.maxAttempts = some bound → 1 ≤ bound := by
  unfold fault? at hvalid
  -- the wanted findings are checked first, three other options come before the bound
  obtain ⟨hresults, hvalid⟩ := not_and_of_check_eq_none hvalid
  obtain ⟨-, hvalid⟩ := not_and_of_check_eq_none hvalid
  obtain ⟨-, hvalid⟩ := not_and_of_check_eq_none hvalid
  obtain ⟨-, hvalid⟩ := not_and_of_check_eq_none hvalid
  simp only [Option.orElse_eq_orElse, Option.orElse_eq_or, Option.or_eq_none_iff] at hvalid
  refine ⟨not_lt.mp hresults, fun bound hbound => ?_⟩
  have hattempts := hvalid.2.1
  rw [hbound] at hattempts
  exact not_lt.mp (not_and_of_check_eq_none hattempts).1

end Config

namespace Campaign

variable {σ S : Type} [Scalar S] {campaign : Campaign σ S} {source : Random.Source}

/-! ## Counts in order -/

/-- As many programs were started as attempts are counted, and both counts are within their
bounds. -/
structure InOrder (campaign : Campaign σ S) (source : Random.Source) (state : State σ S) :
    Prop where
  session : Generator.SameButNotes
    (campaign.generator.sessionAfter source state.stats.attempts) state.session
  attempts_le : ∀ bound, campaign.config.maxAttempts = some bound →
    (state.stats.attempts : Int) ≤ bound
  results_le : (state.stats.results : Int) ≤ campaign.config.results

/-- The number of findings that are counted although an error kept them from being delivered. -/
def unsaved : Option Error → Nat
  | some (.file _) => 1
  | _ => 0

/-- The counts are in order, and this is what has become of them since an earlier state, while some
findings were delivered and perhaps an error ended it. -/
structure Since (campaign : Campaign σ S) (source : Random.Source) (before : State σ S)
    (delivered : Nat) (error : Option Error) (after : State σ S) : Prop
    extends campaign.InOrder source after where
  results_eq : after.stats.results = before.stats.results + delivered + unsaved error
  attempts_mono : before.stats.attempts ≤ after.stats.attempts
  /-- Every program that was started was also made, but for the last one if the generator failed. -/
  made : ∀ index, before.stats.attempts ≤ index → index < after.stats.attempts →
    (∃ tree, campaign.generator.treeAt source index = .ok tree) ∨
      index + 1 = after.stats.attempts ∧ ∃ failure, error = some (.generation failure) ∧
        campaign.generator.treeAt source index = .error failure
  /-- A program at which the generator fails is counted. -/
  failed : ∀ failure, error = some (.generation failure) →
    ∃ last, before.stats.attempts ≤ last ∧ after.stats.attempts = last + 1 ∧
      campaign.generator.treeAt source last = .error failure
  /-- Exhaustion is reported with the counts as they are, and only at the bound. -/
  exhausted : ∀ attempts found wanted, error = some (.exhausted attempts found wanted) →
    attempts = after.stats.attempts ∧ found = after.stats.results ∧
      wanted = campaign.config.results ∧ campaign.config.maxAttempts = some (attempts : Int)

variable {before middle after : State σ S} {delivered : Nat} {error : Option Error}

/-- A fresh campaign with options in range is in order. -/
theorem inOrder_fresh (hvalid : campaign.config.fault? = none) {state : State σ S}
    (hsession : state.session = .fresh source) (hstats : state.stats = .fresh) :
    campaign.InOrder source state := by
  obtain ⟨hresults, hattempts⟩ := Config.bounds_of_fault?_eq_none hvalid
  have hzero : state.stats.attempts = 0 ∧ state.stats.results = 0 := by
    rw [hstats]
    exact ⟨rfl, rfl⟩
  refine ⟨?_, fun bound hbound => ?_, ?_⟩
  · rw [hzero.1, hsession]
    exact ⟨[], rfl⟩
  · have hone := hattempts bound hbound
    omega
  · omega

namespace InOrder

theorem since (hstate : campaign.InOrder source before) :
    campaign.Since source before 0 none before where
  toInOrder := hstate
  results_eq := rfl
  attempts_mono := le_rfl
  made := fun _ hle hlt => absurd hlt (not_lt.mpr hle)
  failed := nofun
  exhausted := nofun

end InOrder

namespace Since

/-- Only the session, the attempts and the findings matter. -/
theorem of_eq (hsince : campaign.Since source before delivered error middle)
    (hsession : after.session = middle.session)
    (hattempts : after.stats.attempts = middle.stats.attempts)
    (hresults : after.stats.results = middle.stats.results) :
    campaign.Since source before delivered error after := by
  obtain ⟨⟨hsame, hbound, hwanted⟩, heq, hmono, hmade, hfailed, hexhausted⟩ := hsince
  rw [← hattempts] at hsame hbound hmono hmade hfailed hexhausted
  rw [← hresults] at hwanted heq hexhausted
  rw [← hsession] at hsame
  exact ⟨⟨hsame, hbound, hwanted⟩, heq, hmono, hmade, hfailed, hexhausted⟩

theorem ignoresAsking (campaign : Campaign σ S) (source : Random.Source) (before : State σ S)
    (delivered : Nat) (error : Option Error) :
    IgnoresAsking (campaign.Since source before delivered error) :=
  fun _ _ _ _ _ hsince => hsince.of_eq rfl rfl rfl

theorem exists_treeAt (hsince : campaign.Since source before delivered none after) {index : Nat}
    (hle : before.stats.attempts ≤ index) (hlt : index < after.stats.attempts) :
    ∃ tree, campaign.generator.treeAt source index = .ok tree := by
  rcases hsince.made index hle hlt with hmade | ⟨-, failure, hnone, -⟩
  · exact hmade
  · cases hnone

/-- An error that neither loses a finding nor comes from the generator leaves the counts as they
are. -/
theorem stop (hsince : campaign.Since source before delivered none after) {error : Error}
    (hunsaved : unsaved (some error) = 0) (hgenerator : ∀ failure, error ≠ .generation failure)
    (hexhausted : ∀ attempts found wanted, error = .exhausted attempts found wanted →
      attempts = after.stats.attempts ∧ found = after.stats.results ∧
        wanted = campaign.config.results ∧ campaign.config.maxAttempts = some (attempts : Int)) :
    campaign.Since source before delivered (some error) after where
  toInOrder := hsince.toInOrder
  results_eq := by
    rw [hunsaved]
    exact hsince.results_eq
  attempts_mono := hsince.attempts_mono
  made := fun _ hle hlt => .inl (hsince.exists_treeAt hle hlt)
  failed := fun failure heq => absurd (Option.some.inj heq) (hgenerator failure)
  exhausted := fun attempts found wanted heq =>
    hexhausted attempts found wanted (Option.some.inj heq)

theorem of_oracle (hsince : campaign.Since source before delivered none after) {error : Error}
    (herror : ∃ fault, error = .oracle fault) :
    campaign.Since source before delivered (some error) after := by
  obtain ⟨fault, rfl⟩ := herror
  exact hsince.stop rfl nofun nofun

theorem exhaust (hsince : campaign.Since source before delivered none after)
    (hbound : campaign.config.maxAttempts = some (after.stats.attempts : Int)) :
    campaign.Since source before delivered
      (some (.exhausted after.stats.attempts after.stats.results campaign.config.results))
      after := by
  refine hsince.stop rfl nofun fun attempts found wanted heq => ?_
  cases heq
  exact ⟨rfl, rfl, rfl, hbound⟩

/-- One more program is started, and an attempt is counted for it. -/
theorem attempt (hsince : campaign.Since source before delivered none middle)
    (hleft : ∀ bound, campaign.config.maxAttempts = some bound →
      (middle.stats.attempts : Int) < bound)
    (hsession : Generator.SameButNotes
      (campaign.generator.sessionAfter source (middle.stats.attempts + 1)) after.session)
    (hstats : after.stats = { middle.stats with attempts := middle.stats.attempts + 1 })
    (hanswer : (∃ tree, campaign.generator.treeAt source middle.stats.attempts = .ok tree) ∧
        error = none ∨
      ∃ failure, campaign.generator.treeAt source middle.stats.attempts = .error failure ∧
        error = some (.generation failure)) :
    campaign.Since source before delivered error after := by
  have hattempts : after.stats.attempts = middle.stats.attempts + 1 := by rw [hstats]
  have hresults : after.stats.results = middle.stats.results := by rw [hstats]
  have hunsaved : unsaved error = 0 := by
    rcases hanswer with ⟨-, rfl⟩ | ⟨failure, -, rfl⟩
    · rfl
    · rfl
  have hmono := hsince.attempts_mono
  refine ⟨⟨?_, fun bound hbound => ?_, ?_⟩, ?_, ?_, fun index hle hlt => ?_, ?_, ?_⟩
  · rw [hattempts]
    exact hsession
  · have hless := hleft bound hbound
    omega
  · rw [hresults]
    exact hsince.results_le
  · rw [hresults, hunsaved]
    exact hsince.results_eq
  · omega
  · rcases Nat.lt_or_ge index middle.stats.attempts with hless | hge
    · exact .inl (hsince.exists_treeAt hle hless)
    · -- this is the new program
      obtain rfl : index = middle.stats.attempts := by omega
      rcases hanswer with ⟨htree, -⟩ | ⟨failure, hfailure, rfl⟩
      · exact .inl htree
      · exact .inr ⟨hattempts.symm, failure, rfl, hfailure⟩
  · rintro failure rfl
    rcases hanswer with ⟨-, hnone⟩ | ⟨other, hfailure, hsome⟩
    · cases hnone
    · cases hsome
      exact ⟨middle.stats.attempts, hmono, hattempts, hfailure⟩
  · rintro attempts found wanted rfl
    rcases hanswer with ⟨-, hnone⟩ | ⟨other, -, hsome⟩
    · cases hnone
    · cases hsome

/-- A finding that is wanted is counted. -/
theorem count (hsince : campaign.Since source before delivered none after)
    (hmore : (after.stats.results : Int) < campaign.config.results) :
    campaign.Since source before (delivered + 1) none
      { after with stats := { after.stats with results := after.stats.results + 1 } } where
  session := hsince.session
  attempts_le := hsince.attempts_le
  results_le := by
    dsimp only
    omega
  results_eq := by
    have heq := hsince.results_eq
    dsimp only [unsaved] at heq ⊢
    omega
  attempts_mono := hsince.attempts_mono
  made := hsince.made
  failed := nofun
  exhausted := nofun

/-- A finding that cannot be saved has been counted and is not delivered. -/
theorem lose (hsince : campaign.Since source before (delivered + 1) none after)
    {error : Error} (herror : ∃ fault, error = .file fault) :
    campaign.Since source before delivered (some error) after := by
  obtain ⟨fault, rfl⟩ := herror
  have heq := hsince.results_eq
  refine ⟨hsince.toInOrder, ?_, hsince.attempts_mono,
    fun _ hle hlt => .inl (hsince.exists_treeAt hle hlt), nofun, nofun⟩
  dsimp only [unsaved] at heq ⊢
  omega

end Since

/-! ## Ends of steps -/

/-- How a step of a campaign may end when some findings were delivered: well, with more of them by
its value, or with an error that is reflected in the counts. -/
def Ends {α : Type} (campaign : Campaign σ S) (source : Random.Source) (before : State σ S)
    (delivered : Nat) (more : α → Nat) : Except Error α × State σ S → Prop
  | (.ok value, after) => campaign.Since source before (delivered + more value) none after
  | (.error error, after) => campaign.Since source before delivered (some error) after

namespace Ends

variable {α β : Type} {more : α → Nat} {state : State σ S}

/-- Asking delivers nothing, and fails only if an oracle breaks down. -/
theorem of_asking {step : Work σ S α} {result : α → Prop}
    (hstep : Meets (campaign.Since source before delivered none) step result
      fun error => ∃ fault, error = .oracle fault)
    (hstate : campaign.Since source before delivered none state) :
    campaign.Ends source before delivered (fun _ => 0) (outcome step state) := by
  have hending := hstep state hstate
  generalize outcome step state = ending at hending
  obtain ⟨answer, after⟩ := ending
  cases answer with
  | ok value => exact hending.1
  | error error => exact hending.1.of_oracle hending.2

theorem asking_bind {step : Work σ S β} {next : β → Work σ S α} {result : β → Prop}
    (hstep : Meets (campaign.Since source before delivered none) step result
      fun error => ∃ fault, error = .oracle fault)
    (hnext : ∀ value state, campaign.Since source before delivered none state →
      campaign.Ends source before delivered more (outcome (next value) state))
    (hstate : campaign.Since source before delivered none state) :
    campaign.Ends source before delivered more (outcome (step >>= next) state) := by
  have hending := hstep state hstate
  rw [outcome_bind]
  generalize outcome step state = ending at hending
  obtain ⟨answer, after⟩ := ending
  cases answer with
  | ok value => exact hnext value after hending.1
  | error error => exact hending.1.of_oracle hending.2

end Ends

/-! ## Searching -/

variable {state : State σ S}

/-- An attempt is counted if and only if a program is started for it.  A failure of the generator
is the answer to the program that was started last. -/
theorem attempt_ends (fuel attempts : Nat)
    (hjudge : ∀ tree state, campaign.Since source before delivered none state →
      campaign.Ends source before delivered (fun _ => 0)
        (outcome (campaign.judge fuel (attempts + 1) tree) state))
    (hstate : campaign.Since source before delivered none state) :
    campaign.Ends source before delivered (fun _ => 0)
      (outcome (campaign.search (fuel + 1) attempts) state) := by
  rw [search_succ]
  by_cases hleft : ∀ bound, campaign.config.maxAttempts = some bound →
      (state.stats.attempts : Int) < bound
  · rw [outcome_bind_ok (nextAttempt_counts hleft)]
    -- the attempt is counted, and the program is still to be started
    have hcounted : Generator.SameButNotes
        (campaign.generator.sessionAfter source state.stats.attempts)
        { state with stats :=
          { state.stats with attempts := state.stats.attempts + 1 } }.session := hstate.session
    obtain ⟨after, hgenerate, hsession, hstats⟩ := exists_outcome_generate hcounted
    cases htree : campaign.generator.treeAt source state.stats.attempts with
    | ok tree =>
        rw [htree] at hgenerate
        have hafter : campaign.Since source before delivered none after :=
          hstate.attempt hleft hsession hstats (.inl ⟨⟨tree, htree⟩, rfl⟩)
        rw [outcome_bind_ok hgenerate]
        exact hjudge tree after hafter
    | error failure =>
        rw [htree] at hgenerate
        rw [outcome_bind_error hgenerate]
        exact hstate.attempt hleft hsession hstats (.inr ⟨failure, htree, rfl⟩)
  · obtain ⟨bound, hbound, hle⟩ : ∃ bound, campaign.config.maxAttempts = some bound ∧
        bound ≤ (state.stats.attempts : Int) := by
      push Not at hleft
      exact hleft
    have heq : bound = (state.stats.attempts : Int) :=
      le_antisymm hle (hstate.attempts_le bound hbound)
    rw [outcome_bind_error (nextAttempt_exhausted hbound hle)]
    exact hstate.exhaust (hbound.trans (congrArg some heq))

/-- A program is delivered as it is, led to a finding or passed over; nothing is counted yet. -/
theorem judge_ends (fuel attempts : Nat) (tree : Tree)
    (hsearch : ∀ state, campaign.Since source before delivered none state →
      campaign.Ends source before delivered (fun _ => 0)
        (outcome (campaign.search fuel attempts) state))
    (hstate : campaign.Since source before delivered none state) :
    campaign.Ends source before delivered (fun _ => 0)
      (outcome (campaign.judge fuel attempts tree) state) := by
  have hkept := (Since.ignoresAsking campaign source before delivered none).kept campaign
  unfold judge
  split
  · exact hstate
  · refine Ends.asking_bind (hkept.error? _) (fun answer state hstate => ?_) hstate
    cases answer with
    | none =>
        have hnote : Meets (campaign.Since source before delivered none)
            (Work.note (passedNote attempts (tree.source campaign.config.separator)) :
              Work σ S Unit) (fun _ => True) fun error => ∃ fault, error = .oracle fault :=
          Meets.modify (fun _ hstate => hstate.of_eq rfl rfl rfl) trivial
        exact Ends.asking_bind hnote (fun _ => hsearch) hstate
    | some error =>
        refine Ends.asking_bind (hkept.inform _) (fun _ state hstate => ?_) hstate
        have hcut : ∀ failing : Failing, True → ∀ variant ∈ failing.tree.variants,
            String → True := fun _ _ _ _ _ => trivial
        exact Ends.of_asking (hkept.findingOf hcut trivial attempts) hstate

/-- A search counts attempts and no findings. -/
theorem search_ends (fuel attempts : Nat)
    (hstate : campaign.Since source before delivered none state) :
    campaign.Ends source before delivered (fun _ => 0)
      (outcome (campaign.search fuel attempts) state) := by
  induction fuel generalizing attempts state with
  | zero => exact hstate.stop rfl nofun nofun
  | succ fuel ih =>
      refine attempt_ends fuel attempts (fun tree state hstate => ?_) hstate
      exact judge_ends fuel (attempts + 1) tree (fun state hstate => ih (attempts + 1) hstate)
        hstate

/-! ## Pulling -/

/-- A finding is counted when it is found, and delivered if it can be saved. -/
theorem advance_ends (patience : Nat)
    (hstate : campaign.Since source before delivered none state) :
    campaign.Ends source before delivered (fun pulled : Option Finding => pulled.toList.length)
      (outcome (campaign.advance patience) state) := by
  have hfind : campaign.Ends source before delivered (fun _ => 0)
      (outcome (campaign.findWithin patience) state) := search_ends _ 0 hstate
  unfold advance
  rw [outcome_get_bind]
  split
  next hmore =>
    rw [outcome_bind]
    generalize outcome (campaign.findWithin patience) state = ending at hfind
    obtain ⟨answer, found⟩ := ending
    cases answer with
    | error error => exact hfind
    | ok finding =>
        -- a search leaves the number of findings as it is, so this one is still wanted
        have hsame : found.stats.results = state.stats.results :=
          hfind.results_eq.trans hstate.results_eq.symm
        have hcounted := Since.count hfind (by rw [hsame]; exact hmore)
        have hignores := Since.ignoresAsking campaign source before (delivered + 1) none
        have hsave := hignores.saveFinding campaign finding _ hcounted
        dsimp only [Work.count]
        rw [outcome_modify_bind, outcome_bind]
        generalize outcome (campaign.saveFinding finding) _ = ending at hsave
        obtain ⟨answer, saved⟩ := ending
        cases answer with
        | error error => exact hsave.1.lose hsave.2
        | ok done => exact hsave.1.of_eq rfl rfl rfl
  next => exact hstate

/-- A pull goes on with the campaign, or ends the run, which the counts do not show. -/
theorem pullWithin_ends (patience : Nat) (run : Run)
    (hstate : campaign.Since source before delivered none state)
    {answer : Except Error (Option Finding)} {last : Run}
    (hpull : (campaign.pullWithin patience run).run state = ((answer, last), after)) :
    campaign.Ends source before delivered (fun pulled => pulled.toList.length)
      (answer, after) := by
  refine pullWithin_of_advance
    (fun state begun hsession _ hattempts hresults hstate =>
      hstate.of_eq hsession hattempts hresults)
    (fun _ hstate => advance_ends patience hstate) (fun answer status state hends => ?_)
    (fun _ hstate => hstate) hstate hpull
  cases answer with
  | error error => exact Since.of_eq hends rfl rfl rfl
  | ok pulled => exact Since.of_eq hends rfl rfl rfl

/-- Pulls deliver their findings one by one. -/
theorem pullMany_since (patience count : Nat) (run : Run)
    (hstate : campaign.Since source before delivered none state) {findings : List Finding}
    {last : Run}
    (hpulls : (campaign.pullMany patience count run).run state =
      ((findings, error, last), after)) :
    campaign.Since source before (delivered + findings.length) error after := by
  induction count generalizing delivered run state findings with
  | zero =>
      cases hpulls
      exact hstate
  | succ count ih =>
      rw [pullMany_succ] at hpulls
      cases hpull : (campaign.pullWithin patience run).run state with
      | mk ending middle =>
          obtain ⟨answer, next⟩ := ending
          have hends := pullWithin_ends patience run hstate hpull
          rw [hpull] at hpulls
          rcases answer with stop | finding | finding
          · cases hpulls
            exact hends
          · cases hpulls
            exact hends
          · dsimp only at hpulls
            cases hrest : (campaign.pullMany patience count next).run middle with
            | mk ending final =>
                obtain ⟨others, stop, last⟩ := ending
                rw [hrest] at hpulls
                cases hpulls
                have hothers := ih next hends hrest
                rwa [List.length_cons, Nat.add_comm others.length, ← Nat.add_assoc]

/-! ## Runs -/

/-- What a run does to counts that are in order. -/
theorem runWithin_since (patience : Nat) (most : Option Nat)
    (hstate : campaign.InOrder source before) {findings : List Finding}
    (hrun : (campaign.runWithin patience most).run before = ((findings, error), after)) :
    campaign.Since source before findings.length error after := by
  cases hpulls : (campaign.pullMany patience
      (most.getD ((campaign.config.results - (before.stats.results : Int)).toNat + 1)) .fresh).run
        before with
  | mk ending closing =>
      obtain ⟨pulled, stop, last⟩ := ending
      have hpulled := pullMany_since patience _ .fresh hstate.since hpulls
      obtain ⟨ended, hclosed⟩ := runWithin_closes hpulls
      rw [hclosed] at hrun
      cases hrun
      rw [Nat.zero_add] at hpulled
      exact hpulled.of_eq rfl rfl rfl

/-- Run after run the counts stay in order, and findings are counted that were delivered or could
not be saved. -/
theorem runs_inOrder (patience : Nat) (runs : List (Option Nat))
    (hstate : campaign.InOrder source before)
    {endings : List (List Finding × Option Error)}
    (hruns : (runs.mapM (campaign.runWithin patience)).run before = (endings, after)) :
    campaign.InOrder source after ∧ after.stats.results = before.stats.results +
      (endings.map fun ending => ending.1.length + unsaved ending.2).sum := by
  induction runs generalizing before endings with
  | nil =>
      cases hruns
      exact ⟨hstate, rfl⟩
  | cons most rest ih =>
      rw [List.mapM_cons, StateT.run_bind] at hruns
      cases hrun : (campaign.runWithin patience most).run before with
      | mk ending middle =>
          obtain ⟨findings, error⟩ := ending
          have hsince := runWithin_since patience most hstate hrun
          rw [hrun] at hruns
          have hruns : (rest.mapM (campaign.runWithin patience) >>= fun others =>
              pure ((findings, error) :: others)).run middle = (endings, after) := hruns
          rw [StateT.run_bind] at hruns
          cases hrest : (rest.mapM (campaign.runWithin patience)).run middle with
          | mk others final =>
              rw [hrest] at hruns
              cases hruns
              obtain ⟨hafter, hsum⟩ := ih hsince.toInOrder hrest
              refine ⟨hafter, ?_⟩
              rw [hsum, hsince.results_eq, List.map_cons, List.sum_cons]
              dsimp only
              omega

/-- **What is counted wherever a run stops.**  Let some runs of a fresh campaign be followed by one
more, each of them pulled as far as one likes, with any oracles and with files that may fail.  Then
the findings that are counted are those that were delivered, and one for each run that stopped
because a finding could not be saved.  As many programs were started as attempts are counted; all
of them were made, but for the last one if the generator failed.  Neither count passes its bound,
and exhaustion is reported with both. -/
theorem runs_counted (campaign : Campaign σ S) (hvalid : campaign.config.fault? = none)
    (source : Random.Source) (state : State σ S) (hsession : state.session = .fresh source)
    (hstats : state.stats = .fresh) (patience : Nat) (earlier : List (Option Nat))
    (most : Option Nat) {endings : List (List Finding × Option Error)} {before after : State σ S}
    (hearlier : (earlier.mapM (campaign.runWithin patience)).run state = (endings, before))
    {findings : List Finding} {error : Option Error}
    (hrun : (campaign.runWithin patience most).run before = ((findings, error), after)) :
    after.stats.results =
        (endings.map fun ending => ending.1.length + unsaved ending.2).sum + findings.length +
          unsaved error ∧
      campaign.Since source before findings.length error after := by
  obtain ⟨hbefore, hcounted⟩ :=
    runs_inOrder patience earlier (inOrder_fresh hvalid hsession hstats) hearlier
  have hsince := runWithin_since patience most hbefore hrun
  refine ⟨?_, hsince⟩
  rw [hsince.results_eq, hcounted, hstats]
  exact congrArg (· + findings.length + unsaved error) (Nat.zero_add _)

/-- A campaign that is to save its finding in a directory that no file system can hold. -/
def unwritable : Campaign Unit (Exact fun _ => 0) :=
  ⟨{ Config.standard with outputDirectory := some "\x00" }, Generator.items, [], fun _ => ""⟩

/-- Its finding is counted, but not delivered. -/
theorem unwritable_counts_undelivered :
    ((unwritable.run none).run (chainState [0])).1 = ([], some (.file .zeroCharacter)) ∧
      ((unwritable.run none).run (chainState [0])).2.stats.results = 1 := by
  constructor
  · with_unfolding_all rfl
  · with_unfolding_all rfl

/-- A second run of it wants no more findings, although none has been delivered. -/
theorem runs_counted_unwritable :
    ∃ before after,
      ([none].mapM (unwritable.runWithin attemptLimit)).run (chainState [0]) =
          ([([], some (.file .zeroCharacter))], before) ∧
        (unwritable.runWithin attemptLimit none).run before = (([], none), after) ∧
        after.stats.results = 1 ∧ unwritable.Since (.ofWords [0]) before 0 none after := by
  have hearlier : (([none].mapM (unwritable.runWithin attemptLimit)).run (chainState [0])).1 =
      [([], some (.file .zeroCharacter))] := by
    with_unfolding_all rfl
  have hrun : ((unwritable.runWithin attemptLimit none).run
      (([none].mapM (unwritable.runWithin attemptLimit)).run (chainState [0])).2).1 =
        ([], none) := by
    with_unfolding_all rfl
  generalize hfirst : ([none].mapM (unwritable.runWithin attemptLimit)).run (chainState [0]) = first
    at hearlier hrun ⊢
  obtain ⟨endings, before⟩ := first
  generalize hsecond : (unwritable.runWithin attemptLimit none).run before = second at hrun
  obtain ⟨ending, after⟩ := second
  cases hearlier
  cases hrun
  have hvalid : unwritable.config.fault? = none := by with_unfolding_all rfl
  exact ⟨before, after, rfl, hsecond, runs_counted unwritable hvalid (.ofWords [0])
    (chainState [0]) rfl rfl attemptLimit [none] none hfirst hsecond⟩

end Campaign

end GrammarFuzz

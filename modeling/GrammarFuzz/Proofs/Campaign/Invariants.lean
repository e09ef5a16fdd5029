import GrammarFuzz.Proofs.Campaign.Findings

/-!
# Invariants of a campaign

A campaign asks oracles, cuts trees, counts its attempts and saves its findings, and all that leaves
the session of the generator and the number of findings alone.  What holds of a session between
two programs is therefore kept by a whole run, and findings are counted one by one.

Steps may fail, since oracles and files may.  What the setup of a campaign checks is settled,
though, and its faults do not come up later (`Error.IsLate`).

## Strategy

Questions, cuts and searches keep whatever the oracles keep (`KeptByAsking`).  For sessions there is
one lemma for each step, about an arbitrary property of them (`State.Has`).  It remains to say of a
search what it finds; `runWithin_meets` then says it of all findings of a run, and that
a run which fails has not found enough.
-/

namespace GrammarFuzz.Campaign

variable {σ S : Type} {campaign : Campaign σ S}

/-- The error is one of a campaign at work.  Of the setup only the oracles can still fail there. -/
def Error.IsLate : Error → Prop
  | .config _ => False
  | .externals _ => False
  | .generation _ => True
  | .oracle _ => True
  | .file _ => True
  | .exhausted _ _ _ => True
  | .endless => True

/-- The session is as it should be, and there are some findings. -/
def State.Has (kept : Generator.Session S → Prop) (found : Nat) (state : State σ S) : Prop :=
  kept state.session ∧ state.stats.results = found

/-- A session and a number of findings are nothing that questions and cuts change. -/
theorem State.Has.ignoresAsking (kept : Generator.Session S → Prop) (found : Nat) :
    IgnoresAsking (State.Has kept found : State σ S → Prop) :=
  fun _ _ _ _ _ hstate => hstate

theorem Error.isLate_of_oracle (error : Error) : (∃ fault, error = .oracle fault) → error.IsLate := by
  rintro ⟨fault, rfl⟩
  trivial

/-! ## Asking and cutting -/

/-- Saving may write files, and it fails only because of them. -/
theorem IgnoresAsking.saveFinding {invariant : State σ S → Prop}
    (hignores : IgnoresAsking invariant) (campaign : Campaign σ S) (finding : Finding) :
    Meets invariant (campaign.saveFinding finding) (fun _ => True)
      fun error => ∃ fault, error = .file fault := by
  unfold Campaign.saveFinding
  split
  · exact Meets.pure trivial
  · refine Meets.get_bind fun state hstate => ?_
    split
    · exact ⟨hignores state _ _ _ _ hstate, trivial⟩
    · rename_i fault _
      exact ⟨hignores state _ state.log _ _ hstate, fault, rfl⟩

namespace KeptByAsking

variable {invariant : State σ S → Prop} (hkept : campaign.KeptByAsking invariant)

include hkept

theorem inform (message : String) {failure : Error → Prop} :
    Meets invariant (Work.inform message : Work σ S Unit) (fun _ => True) failure :=
  Meets.modify (fun state hstate => hkept.notes state _ _ _ hstate) trivial

/-- A question can only fail because an oracle breaks down. -/
theorem error? (source : String) :
    Meets invariant (campaign.error? source) (fun _ => True)
      fun error => ∃ fault, error = .oracle fault :=
  Meets.modify_bind (fun state hstate => hkept.notes state state.log _ _ hstate)
    (firstFailure_keeps source campaign.oracles
      (fun oracle horacle => hkept.check oracle horacle source)
      fun state log hstate => hkept.notes state log _ _ hstate)

theorem describes (source : String) {failure : Error → Prop} :
    Meets invariant (campaign.describe source) (fun _ => True) failure :=
  firstDescription_keeps source campaign.oracles fun oracle horacle =>
    hkept.describe oracle horacle source

/-- What a round accepts is one of the trees that the cuts lead to, with its source. -/
theorem firstFailingCut {good : Failing → Prop} (tree : Tree) (cuts : List Tree.Cut)
    (hcuts : ∀ variant ∈ cuts.map tree.apply, ∀ error,
      good ⟨variant, variant.source campaign.config.separator, error⟩) :
    Meets invariant (campaign.firstFailingCut tree cuts)
      (fun smaller => ∀ failing ∈ smaller, good failing)
      fun error => ∃ fault, error = .oracle fault := by
  induction cuts with
  | nil => exact Meets.pure (by simp)
  | cons cut rest ih =>
      rw [Campaign.firstFailingCut]
      refine Meets.bind (hkept.error? _) fun answer _ => ?_
      cases answer with
      | some error =>
          refine Meets.pure fun failing hfailing => ?_
          rw [← Option.some.inj hfailing]
          exact hcuts _ (List.mem_cons_self ..) error
      | none => exact ih fun variant hvariant => hcuts variant (List.mem_cons_of_mem _ hvariant)

variable {good : Failing → Prop}
  (hcut : ∀ failing, good failing → ∀ variant ∈ failing.tree.variants, ∀ error,
    good ⟨variant, variant.source campaign.config.separator, error⟩)
  {failing : Failing} (hgood : good failing)

include hcut hgood

/-- What holds of a failing program, and with a program of all that a cut of it leads to, holds of
the shrunk program. -/
theorem shrink :
    Meets invariant (campaign.shrink failing) (fun final => good final.1)
      fun error => ∃ fault, error = .oracle fault := by
  have hrounds : ∀ fuel failing steps, good failing →
      Meets invariant (campaign.shrinkRounds fuel failing steps) (fun final => good final.1)
        fun error => ∃ fault, error = .oracle fault := by
    intro fuel
    induction fuel with
    | zero => exact fun failing steps hgood => Meets.pure hgood
    | succ fuel ih =>
        intro failing steps hgood
        rw [shrinkRounds]
        have hround := hkept.firstFailingCut failing.tree failing.tree.cuts (by
          rw [Tree.map_apply_cuts]
          exact hcut failing hgood)
        refine Meets.bind hround fun smaller hsmaller => ?_
        cases smaller with
        | some smaller => exact ih smaller (steps + 1) (hsmaller smaller rfl)
        | none => exact Meets.pure hgood
  refine Meets.bind (hrounds _ _ _ hgood) fun final hfinal => ?_
  refine Meets.modify_bind (fun state hstate => hkept.notes state state.log _ _ hstate) ?_
  exact Meets.bind (hkept.inform _) fun _ _ => Meets.pure hfinal

/-- A finding shows the shrunk program and the one before it. -/
theorem findingOf (attempts : Nat) :
    Meets invariant (campaign.findingOf attempts failing)
      (fun finding => finding.uncut = failing.source ∧
        ∃ final, good final ∧ finding.source = final.source)
      fun error => ∃ fault, error = .oracle fault := by
  refine Meets.bind (hkept.shrink hcut hgood) fun final hfinal => ?_
  refine Meets.bind (hkept.describes _) fun dump _ => ?_
  exact Meets.pure ⟨rfl, final.1, hfinal, rfl⟩

end KeptByAsking

variable (kept : Generator.Session S → Prop) (found : Nat)

section Shrinking

variable {good : Failing → Prop}
  (hcut : ∀ failing, good failing → ∀ variant ∈ failing.tree.variants, ∀ error,
    good ⟨variant, variant.source campaign.config.separator, error⟩)
  {failing : Failing} (hgood : good failing)

include hcut hgood

theorem shrink_meets :
    Meets (State.Has kept found) (campaign.shrink failing) (fun final => good final.1)
      Error.IsLate :=
  (((State.Has.ignoresAsking kept found).kept campaign).shrink hcut hgood).mono (fun _ => id)
    Error.isLate_of_oracle

theorem findingOf_meets (attempts : Nat) :
    Meets (State.Has kept found) (campaign.findingOf attempts failing)
      (fun finding => finding.uncut = failing.source ∧
        ∃ final, good final ∧ finding.source = final.source)
      Error.IsLate :=
  (((State.Has.ignoresAsking kept found).kept campaign).findingOf hcut hgood attempts).mono
    (fun _ => id) Error.isLate_of_oracle

end Shrinking

/-! ## Counting and saving -/

/-- An attempt is counted, and otherwise nothing changes. -/
theorem nextAttempt_keeps {invariant : State σ S → Prop}
    (hattempts : ∀ state attempts, invariant state →
      invariant { state with stats := { state.stats with attempts } })
    (campaign : Campaign σ S) :
    Meets invariant campaign.nextAttempt (fun _ => True) Error.IsLate := by
  refine Meets.get_bind fun state hstate => ?_
  dsimp only
  split
  · split
    · exact ⟨hstate, trivial⟩
    · exact ⟨hattempts state _ hstate, trivial⟩
  · exact ⟨hattempts state _ hstate, trivial⟩

theorem saveFinding_keeps (campaign : Campaign σ S) (finding : Finding) :
    Meets (State.Has kept found) (campaign.saveFinding finding) (fun _ => True) Error.IsLate := by
  refine ((State.Has.ignoresAsking kept found).saveFinding campaign finding).mono (fun _ => id) ?_
  rintro error ⟨fault, rfl⟩
  trivial

/-! ## What a pull leads to -/

variable {kept} {result : Finding → Prop}

/-- What a pull may lead to when there are some findings: one more, if more are wanted; nothing; or
an error while more are wanted. -/
def Pulled (campaign : Campaign σ S) (kept : Generator.Session S → Prop) (result : Finding → Prop)
    (found : Nat) : Except Error (Option Finding) × State σ S → Prop
  | (.ok (some finding), after) =>
    State.Has kept (found + 1) after ∧ result finding ∧ (found : Int) < campaign.config.results
  | (.ok none, after) => State.Has kept found after
  | (.error error, _) => error.IsLate ∧ (found : Int) < campaign.config.results

/-- From the moment at which a finding is counted, a pull has it or fails. -/
theorem pulled_of_at {finding : Finding} {ending : Except Error (Option Finding) × State σ S}
    (hending : Meets.At (State.Has kept (found + 1)) (· = some finding) Error.IsLate ending)
    (hresult : result finding) (hmore : (found : Int) < campaign.config.results) :
    campaign.Pulled kept result found ending := by
  obtain ⟨answer, after⟩ := ending
  cases answer with
  | error error => exact ⟨hending.2, hmore⟩
  | ok pulled =>
      obtain ⟨hafter, rfl⟩ := hending
      exact ⟨hafter, hresult, hmore⟩

/-! ## Searching -/

variable [Scalar S] {good : Tree → Prop}

/-- A campaign generates with its session, without the notes of the program before. -/
theorem work_generate_meets
    (hnotes : ∀ session notes, kept session → kept { session with notes })
    (hgenerate : Meets kept campaign.generator.generate good fun _ => True) :
    Meets (State.Has kept found) (Work.generate campaign.generator.generate : Work σ S Tree) good
      Error.IsLate := by
  refine Meets.get_bind fun state hstate => ?_
  have hending := hgenerate { state.session with notes := [] } (hnotes state.session [] hstate.1)
  cases houtcome : outcome campaign.generator.generate { state.session with notes := [] } with
  | mk answer session =>
      rw [houtcome] at hending
      have hrun : campaign.generator.generate.run.run { state.session with notes := [] } =
          (answer, session) := houtcome
      have hkept : kept { session with notes := [] } := hnotes session [] hending.kept
      dsimp only
      rw [hrun]
      cases answer with
      | ok tree => exact ⟨⟨hkept, hstate.2⟩, hending.2⟩
      | error error => exact ⟨⟨hkept, hstate.2⟩, trivial⟩

/-- A search finds what it makes of a program that it has generated, and keeps what its steps
keep. -/
theorem KeptByAsking.search {invariant : State σ S → Prop}
    (hkept : campaign.KeptByAsking invariant)
    (hattempts : ∀ state attempts, invariant state →
      invariant { state with stats := { state.stats with attempts } })
    (hgenerate : Meets invariant
      (Work.generate campaign.generator.generate : Work σ S Tree) good Error.IsLate)
    (hplain : ∀ tree attempts, good tree →
      result ⟨tree.source campaign.config.separator, none, none, attempts, 0,
        tree.source campaign.config.separator⟩)
    (hfinding : ∀ tree attempts error, good tree →
      Meets invariant (campaign.findingOf attempts
        ⟨tree, tree.source campaign.config.separator, error⟩) result Error.IsLate)
    (fuel attempts : Nat) :
    Meets invariant (campaign.search fuel attempts : Work σ S Finding) result Error.IsLate := by
  induction fuel generalizing attempts with
  | zero => exact Meets.throw trivial
  | succ fuel ih =>
      rw [search_succ]
      refine Meets.bind (nextAttempt_keeps hattempts campaign) fun _ _ => ?_
      refine Meets.bind hgenerate fun tree htree => ?_
      unfold judge
      split
      · exact Meets.pure (hplain tree _ htree)
      · refine Meets.bind ((hkept.error? _).mono (fun _ => id) Error.isLate_of_oracle)
          fun answer _ => ?_
        have hnote : ∀ record, Meets invariant (Work.note record : Work σ S Unit)
            (fun _ => True) Error.IsLate := fun record =>
          Meets.modify (fun state hstate => hkept.notes state _ _ _ hstate) trivial
        cases answer with
        | none => exact Meets.bind (hnote _) fun _ _ => ih _
        | some error => exact Meets.bind (hnote _) fun _ _ => hfinding tree _ error htree

theorem search_meets
    (hgenerate : Meets (State.Has kept found)
      (Work.generate campaign.generator.generate : Work σ S Tree) good Error.IsLate)
    (hplain : ∀ tree attempts, good tree →
      result ⟨tree.source campaign.config.separator, none, none, attempts, 0,
        tree.source campaign.config.separator⟩)
    (hfinding : ∀ tree attempts error, good tree →
      Meets (State.Has kept found) (campaign.findingOf attempts
        ⟨tree, tree.source campaign.config.separator, error⟩) result Error.IsLate)
    (fuel attempts : Nat) :
    Meets (State.Has kept found) (campaign.search fuel attempts : Work σ S Finding) result
      Error.IsLate :=
  ((State.Has.ignoresAsking kept found).kept campaign).search (fun _ _ hstate => hstate) hgenerate
    hplain hfinding fuel attempts

/-! ## Runs -/

section Runs

variable (hsearch : ∀ found fuel,
  Meets (State.Has kept found) (campaign.search fuel 0 : Work σ S Finding) result Error.IsLate)

include hsearch

theorem advance_pulled (patience : Nat) {state : State σ S} (hstate : State.Has kept found state) :
    campaign.Pulled kept result found (outcome (campaign.advance patience) state) := by
  have hfind : Meets (State.Has kept found) (campaign.findWithin patience) result Error.IsLate :=
    Meets.get_bind fun state hstate => hsearch found _ state hstate
  unfold advance
  rw [outcome_get_bind, hstate.2]
  split
  next hmore =>
    have hending := hfind state hstate
    rw [outcome_bind]
    cases houtcome : outcome (campaign.findWithin patience) state with
    | mk answer after =>
        rw [houtcome] at hending
        cases answer with
        | error error => exact ⟨hending.2, hmore⟩
        | ok finding =>
            -- the finding counts from here on
            have hcounted : State.Has kept (found + 1)
                { after with stats := { after.stats with results := after.stats.results + 1 } } :=
              ⟨hending.1.1, congrArg (· + 1) hending.1.2⟩
            dsimp only
            refine pulled_of_at found ?_ hending.2 hmore
            refine Meets.bind (saveFinding_keeps kept (found + 1) campaign finding)
              (fun _ _ => ?_) _ hcounted
            refine Meets.get_bind fun state hstate => ?_
            have hnote : ∀ message, Meets (State.Has kept (found + 1))
                (Work.inform message : Work σ S Unit) (fun _ => True) Error.IsLate :=
              fun _ => ((State.Has.ignoresAsking kept (found + 1)).kept campaign).inform _
            exact Meets.bind (hnote _) (fun _ _ => Meets.pure rfl) state hstate
  next => exact hstate

/-- A pull leads to what the campaign leads to, or to nothing. -/
theorem pullWithin_pulled (patience : Nat) (run : Run) {state : State σ S}
    (hstate : State.Has kept found state) {answer : Except Error (Option Finding)} {last : Run}
    {after : State σ S}
    (hpull : (campaign.pullWithin patience run).run state = ((answer, last), after)) :
    campaign.Pulled kept result found (answer, after) := by
  refine pullWithin_of_advance (fun state begun hsession _ _ hresults hstate => ?_)
    (fun _ hstate => advance_pulled found hsearch patience hstate) (fun answer status state => ?_)
    (fun _ hstate => hstate) hstate hpull
  · rw [State.Has, hsession, hresults]
    exact hstate
  · rcases answer with error | finding | finding
    · exact id
    · exact id
    · exact id

theorem pullMany_meets (patience count : Nat) (run : Run) {state after : State σ S}
    (hstate : State.Has kept found state) {findings : List Finding} {error : Option Error}
    {last : Run}
    (hpulls : (campaign.pullMany patience count run).run state = ((findings, error, last), after)) :
    (∀ finding ∈ findings, result finding) ∧ ∀ late ∈ error, late.IsLate ∧
      ((found + findings.length : Nat) : Int) < campaign.config.results := by
  induction count generalizing found run state findings with
  | zero =>
      cases hpulls
      exact ⟨nofun, nofun⟩
  | succ count ih =>
      rw [pullMany_succ] at hpulls
      cases hpull : (campaign.pullWithin patience run).run state with
      | mk ending middle =>
          obtain ⟨answer, next⟩ := ending
          have hpulled := pullWithin_pulled found hsearch patience run hstate hpull
          rw [hpull] at hpulls
          rcases answer with stop | finding | finding
          · cases hpulls
            refine ⟨nofun, fun late hlate => ?_⟩
            cases hlate
            exact hpulled
          · cases hpulls
            exact ⟨nofun, nofun⟩
          · obtain ⟨hmiddle, hresult, -⟩ := hpulled
            dsimp only at hpulls
            cases hrest : (campaign.pullMany patience count next).run middle with
            | mk ending final =>
                obtain ⟨others, stop, last⟩ := ending
                rw [hrest] at hpulls
                cases hpulls
                obtain ⟨hothers, hstop⟩ := ih (found + 1) next hmiddle hrest
                refine ⟨List.forall_mem_cons.mpr ⟨hresult, hothers⟩, fun late hlate => ?_⟩
                obtain ⟨hlate, hfewer⟩ := hstop late hlate
                refine ⟨hlate, ?_⟩
                rw [List.length_cons]
                omega

/-- **What holds of a search holds of a run.**  Every finding of a run is one that a search may
find.  If the run fails, it has fewer findings than are wanted, and its error is one of a campaign
at work. -/
theorem runWithin_meets (patience : Nat) (most : Option Nat) {state : State σ S}
    (hstate : State.Has kept found state) {findings : List Finding} {error : Option Error}
    (hrun : ((campaign.runWithin patience most).run state).1 = (findings, error)) :
    (∀ finding ∈ findings, result finding) ∧ ∀ late ∈ error, late.IsLate ∧
      ((found + findings.length : Nat) : Int) < campaign.config.results := by
  cases hpulls : (campaign.pullMany patience
      (most.getD ((campaign.config.results - (state.stats.results : Int)).toNat + 1)) .fresh).run
        state with
  | mk ending after =>
      obtain ⟨pulled, stop, last⟩ := ending
      obtain ⟨final, hfinal, -⟩ := runWithin_eq hpulls
      rw [hfinal] at hrun
      cases hrun
      exact pullMany_meets found hsearch patience _ .fresh hstate hpulls

end Runs

end GrammarFuzz.Campaign

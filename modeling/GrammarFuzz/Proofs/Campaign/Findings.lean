import GrammarFuzz.Campaign.Run
import GrammarFuzz.Proofs.Campaign.Rounds
import GrammarFuzz.Proofs.Generator.Agreement
import Mathlib.Data.Nat.Nth

/-!
# The findings of a run

A campaign generates one program after the other, and nothing that it does with a program has an
influence on the next ones.  The programs are therefore those of a fresh generator, and the
findings of a run are made from the ones among them that the campaign accepts, in order
(`Follow`): none is left out and none comes twice.

## Strategy

`Reached` ties the state of a campaign to the programs that it has generated.  What oracles and
cuts change is ignored by it (`Reached.ignoresAsking`), so a search moves along the programs
one by one (`search_step`) up to the next accepted one (`search_finds`) or to the bound
(`search_exhausts`).  Between two pulls the last program was an accepted one
(`Between`), and a run is a row of pulls from one such state to the next.
-/

namespace GrammarFuzz.Campaign

variable {σ S : Type} {campaign : Campaign σ S} {source : Random.Source}
  {program : Nat → Tree}

/-! ## Accepted programs -/

/-- Without oracles every program is accepted, with oracles those that they fail. -/
def Accepts (campaign : Campaign σ S) (tree : Tree) : Prop :=
  campaign.hasOracle = true →
    ∃ error, campaign.Answers (tree.source campaign.config.separator) (some error)

open scoped Classical in
/-- The number of accepted ones among the first programs. -/
noncomputable def accepted (campaign : Campaign σ S) (program : Nat → Tree) (count : Nat) : Nat :=
  Nat.count (fun made => campaign.Accepts (program made)) count

/-- The number of programs up to and with an accepted one; the first one has the number one. -/
noncomputable def place (campaign : Campaign σ S) (program : Nat → Tree) : Nat → Nat
  | 0 => 0
  | found + 1 => Nat.nth (fun made => campaign.Accepts (program made)) found + 1

/-- The finding that a program leads to after some attempts. -/
structure IsFinding (campaign : Campaign σ S) (tree : Tree) (attempts : Nat) (finding : Finding) :
    Prop where
  uncut : finding.uncut = tree.source campaign.config.separator
  attempts_eq : finding.attempts = attempts
  /-- Without oracles the program is kept as it is. -/
  plain : campaign.hasOracle = false → finding.source = finding.uncut ∧ finding.error = none ∧
    finding.dump = none ∧ finding.cuts = 0
  /-- With oracles it is shrunk and described. -/
  shrunk : campaign.hasOracle = true → ∃ error final steps,
    campaign.Answers (tree.source campaign.config.separator) (some error) ∧
    Yields (campaign.shrink ⟨tree, tree.source campaign.config.separator, error⟩) (final, steps) ∧
    finding.source = final.source ∧ finding.error = some final.error ∧
    finding.cuts = (steps : Nat) ∧ Yields (campaign.describe final.source) finding.dump

/-- The findings are made from the accepted programs that follow the first `found` ones, and count
the programs from one of them to the next. -/
def Follow (campaign : Campaign σ S) (program : Nat → Tree) (found : Nat)
    (findings : List Finding) : Prop :=
  ∀ index finding, findings[index]? = some finding →
    campaign.IsFinding (program (campaign.place program (found + index + 1) - 1))
      (campaign.place program (found + index + 1) - campaign.place program (found + index)) finding

theorem Follow.cons {found : Nat} {finding : Finding} {findings : List Finding}
    (hfirst : campaign.IsFinding (program (campaign.place program (found + 1) - 1))
      (campaign.place program (found + 1) - campaign.place program found) finding)
    (hrest : campaign.Follow program (found + 1) findings) :
    campaign.Follow program found (finding :: findings) := by
  intro index other hother
  cases index with
  | zero =>
      rw [← Option.some.inj hother]
      exact hfirst
  | succ index =>
      have hindex := hrest index other hother
      rwa [show found + 1 + index = found + (index + 1) by omega] at hindex

theorem accepted_succ (campaign : Campaign σ S) (program : Nat → Tree) {made : Nat}
    (haccepts : campaign.Accepts (program made)) :
    campaign.accepted program (made + 1) = campaign.accepted program made + 1 := by
  rw [accepted, accepted, Nat.count_succ, if_pos haccepts]

theorem accepted_succ_of_not (campaign : Campaign σ S) (program : Nat → Tree) {made : Nat}
    (hrejects : ¬ campaign.Accepts (program made)) :
    campaign.accepted program (made + 1) = campaign.accepted program made := by
  rw [accepted, accepted, Nat.count_succ, if_neg hrejects, Nat.add_zero]

theorem accepted_eq_of_forall {count : Nat}
    (haccepts : ∀ made < count, campaign.Accepts (program made)) :
    campaign.accepted program count = count := by
  classical
  rw [accepted]
  exact Nat.count_of_forall fun {made} hmade => haccepts made hmade

/-- An accepted program comes as the next one. -/
theorem place_succ (campaign : Campaign σ S) (program : Nat → Tree) {made : Nat}
    (haccepts : campaign.Accepts (program made)) :
    campaign.place program (campaign.accepted program made + 1) = made + 1 := by
  classical
  rw [place, accepted, Nat.nth_count haccepts]

theorem place_le {found limit : Nat} (hfound : found ≤ campaign.accepted program limit) :
    campaign.place program found ≤ limit := by
  classical
  cases found with
  | zero => exact Nat.zero_le _
  | succ found => exact Nat.nth_lt_of_lt_count hfound

/-- The attempts that are left suffice up to the limit. -/
theorem le_add_attemptsLeft {patience limit made : Nat} {stats : Stats}
    (hattempts : stats.attempts = made)
    (hpatience : campaign.config.maxAttempts = none → limit ≤ patience)
    (hbound : ∀ bound, campaign.config.maxAttempts = some bound → (limit : Int) ≤ bound) :
    limit ≤ made + campaign.attemptsLeft patience stats := by
  unfold attemptsLeft
  split
  · rename_i bound hsome
    have := hbound bound hsome
    omega
  · rename_i hnone
    have := hpatience hnone
    omega

variable [Scalar S]

/-! ## States -/

/-- The campaign has generated `made` programs, counts `attempts` of them, and has found
`results`. -/
structure Reached (campaign : Campaign σ S) (source : Random.Source) (made attempts results : Nat)
    (state : State σ S) : Prop where
  session : Generator.SameButNotes (campaign.generator.sessionAfter source made) state.session
  attempts_eq : state.stats.attempts = attempts
  results_eq : state.stats.results = results

theorem Reached.ignoresAsking (campaign : Campaign σ S) (source : Random.Source)
    (made attempts results : Nat) : IgnoresAsking (campaign.Reached source made attempts results) :=
  fun _ _ _ _ _ hreached => ⟨hreached.session, hreached.attempts_eq, hreached.results_eq⟩

/-- The next tree or error of the generator is that of a fresh one, whatever has been done with the
programs before. -/
theorem exists_outcome_generate {made : Nat} {state : State σ S}
    (hsession : Generator.SameButNotes (campaign.generator.sessionAfter source made)
      state.session) :
    ∃ after, outcome (Work.generate campaign.generator.generate) state =
        ((campaign.generator.treeAt source made).mapError .generation, after) ∧
      Generator.SameButNotes (campaign.generator.sessionAfter source (made + 1)) after.session ∧
      after.stats = state.stats := by
  obtain ⟨hanswer, hafter⟩ := Generator.generate_of_sameButNotes hsession.clear
  unfold Work.generate
  rw [outcome_get_bind]
  cases houtcome : outcome campaign.generator.generate { state.session with notes := [] } with
  | mk answer session =>
      rw [houtcome] at hanswer hafter
      have hrun : campaign.generator.generate.run.run { state.session with notes := [] } =
          (answer, session) := houtcome
      have hanswer : answer = campaign.generator.treeAt source made := hanswer
      rw [hrun, ← hanswer]
      cases answer with
      | ok tree => exact ⟨_, rfl, hafter.clear, rfl⟩
      | error failure => exact ⟨_, rfl, hafter.clear, rfl⟩

/-- The next program is generated. -/
theorem outcome_generate {made attempts results : Nat} {state : State σ S} {tree : Tree}
    (hreached : campaign.Reached source made attempts results state)
    (htree : campaign.generator.treeAt source made = .ok tree) :
    ∃ after, outcome (Work.generate campaign.generator.generate) state = (.ok tree, after) ∧
      campaign.Reached source (made + 1) attempts results after := by
  obtain ⟨after, houtcome, hsession, hstats⟩ := exists_outcome_generate hreached.session
  rw [htree] at houtcome
  refine ⟨after, houtcome, hsession, ?_, ?_⟩
  · rw [hstats]
    exact hreached.attempts_eq
  · rw [hstats]
    exact hreached.results_eq

/-! ## Counting attempts -/

omit [Scalar S] in
/-- An attempt that may be made is counted. -/
theorem nextAttempt_counts {state : State σ S}
    (hleft : ∀ bound, campaign.config.maxAttempts = some bound →
      (state.stats.attempts : Int) < bound) :
    outcome campaign.nextAttempt state =
      (.ok ⟨⟩, { state with stats := { state.stats with attempts := state.stats.attempts + 1 } }) := by
  unfold nextAttempt
  rw [outcome_get_bind]
  cases hbound : campaign.config.maxAttempts with
  | none => rfl
  | some bound =>
      dsimp only
      rw [if_neg (not_le.mpr (hleft bound hbound))]
      rfl

omit [Scalar S] in
/-- At the bound no attempt is made. -/
theorem nextAttempt_exhausted {state : State σ S} {bound : Int}
    (hbound : campaign.config.maxAttempts = some bound)
    (hle : bound ≤ (state.stats.attempts : Int)) :
    outcome campaign.nextAttempt state =
      (.error (.exhausted state.stats.attempts state.stats.results campaign.config.results),
        state) := by
  unfold nextAttempt
  rw [outcome_get_bind, hbound]
  dsimp only
  rw [if_pos hle]
  rfl

/-! ## Searching -/

/-- The note about a program that no oracle fails. -/
def passedNote (attempts : Nat) (source : String) : Log.Record :=
  ⟨Log.Level.debug, logger, "Attempt " ++ toString attempts ++ ": no error (" ++
    toString source.length ++ " chars)"⟩

/-- What a search does with a program. -/
def judge (campaign : Campaign σ S) (fuel attempts : Nat) (tree : Tree) : Work σ S Finding := do
  let source := tree.source campaign.config.separator
  if !campaign.hasOracle then return ⟨source, none, none, attempts, 0, source⟩
  else
    match ← campaign.error? source with
    | none =>
      Work.note (passedNote attempts source)
      campaign.search fuel attempts
    | some error =>
      Work.inform ("Attempt " ++ toString attempts ++ ": oracle error, minimizing " ++
        toString tree.tokens.length ++ " tokens")
      campaign.findingOf attempts ⟨tree, source, error⟩

theorem search_succ (campaign : Campaign σ S) (fuel attempts : Nat) :
    campaign.search (fuel + 1) attempts = (do
      campaign.nextAttempt
      let tree ← Work.generate campaign.generator.generate
      campaign.judge fuel (attempts + 1) tree) := rfl

/-- A search generates the next program, if it may. -/
theorem search_step (fuel attempts : Nat) {made results : Nat} {state : State σ S} {tree : Tree}
    (hreached : campaign.Reached source made made results state)
    (htree : campaign.generator.treeAt source made = .ok tree)
    (hleft : ∀ bound, campaign.config.maxAttempts = some bound → (made : Int) < bound) :
    ∃ middle, campaign.Reached source (made + 1) (made + 1) results middle ∧
      outcome (campaign.search (fuel + 1) attempts) state =
        outcome (campaign.judge fuel (attempts + 1) tree) middle := by
  have hnext := nextAttempt_counts fun bound hsome => by
    rw [hreached.attempts_eq]
    exact hleft bound hsome
  have hcounted : campaign.Reached source made (made + 1) results
      { state with stats := { state.stats with attempts := state.stats.attempts + 1 } } :=
    ⟨hreached.session, congrArg (· + 1) hreached.attempts_eq, hreached.results_eq⟩
  obtain ⟨middle, hgenerate, hmiddle⟩ := outcome_generate hcounted htree
  refine ⟨middle, hmiddle, ?_⟩
  rw [search_succ, outcome_bind_ok hnext, outcome_bind_ok hgenerate]

/-- At the bound a search gives up. -/
theorem search_exhausted {made results fuel attempts : Nat} {state : State σ S}
    (hreached : campaign.Reached source made made results state)
    (hbound : campaign.config.maxAttempts = some (made : Int)) :
    outcome (campaign.search (fuel + 1) attempts) state =
      (.error (.exhausted made results campaign.config.results), state) := by
  have hnext := nextAttempt_exhausted hbound (by rw [hreached.attempts_eq])
  rw [hreached.attempts_eq, hreached.results_eq] at hnext
  rw [search_succ, outcome_bind_error hnext]

/-- An accepted program leads to its finding. -/
theorem judge_accepts (hdecides : ∀ oracle ∈ campaign.oracles, oracle.Decides)
    (hdescribes : ∀ oracle ∈ campaign.oracles, oracle.Describes) {tree : Tree}
    (haccepts : campaign.Accepts tree) (fuel attempts made results : Nat) :
    Meets (campaign.Reached source made made results) (campaign.judge fuel attempts tree)
      (campaign.IsFinding tree attempts) fun _ => False := by
  have hignores := Reached.ignoresAsking campaign source made made results
  unfold judge
  cases horacle : campaign.hasOracle with
  | false =>
      refine Meets.pure ⟨rfl, rfl, fun _ => ⟨rfl, rfl, rfl, rfl⟩, fun htrue => ?_⟩
      rw [horacle] at htrue
      cases htrue
  | true =>
      obtain ⟨error, herror⟩ := haccepts horacle
      obtain ⟨⟨final, steps⟩, hfinal⟩ := exists_settles_shrink hdecides
        ⟨tree, tree.source campaign.config.separator, error⟩
      obtain ⟨dump, hdump⟩ := exists_settles_describe hdescribes final.source
      refine Meets.bind (herror.settles hdecides _ hignores) fun answer hanswer => ?_
      rw [hanswer]
      refine Meets.modify_bind (fun state hstate => hignores state state.scene _ _ _ hstate) ?_
      refine Meets.bind (hfinal _ hignores) fun shrunk hshrunk => ?_
      rw [hshrunk]
      refine Meets.bind (hdump _ hignores) fun given hgiven => ?_
      rw [hgiven]
      refine Meets.pure ⟨rfl, rfl, fun hfalse => ?_, fun _ => ?_⟩
      · rw [horacle] at hfalse
        cases hfalse
      · exact ⟨error, final, steps, herror, hfinal.yields, rfl, rfl, rfl, hdump.yields⟩

/-- After a program that is not accepted a search goes on. -/
theorem judge_rejects (hdecides : ∀ oracle ∈ campaign.oracles, oracle.Decides) {tree : Tree}
    (hrejects : ¬ campaign.Accepts tree) (fuel attempts : Nat) {made results : Nat}
    {state : State σ S} (hreached : campaign.Reached source made made results state) :
    ∃ after, campaign.Reached source made made results after ∧
      outcome (campaign.judge fuel attempts tree) state =
        outcome (campaign.search fuel attempts) after := by
  obtain ⟨horacle, hnone⟩ := Classical.not_imp.mp hrejects
  obtain ⟨answer, hanswer⟩ :=
    exists_settles_error? hdecides (tree.source campaign.config.separator)
  -- an error would make the program an accepted one
  have heq : answer = none := by
    by_contra hsome
    obtain ⟨error, rfl⟩ := Option.ne_none_iff_exists'.mp hsome
    exact hnone ⟨error, hanswer.yields⟩
  obtain ⟨value, after, houtcome, hafter, hvalue⟩ :=
    (hanswer _ (Reached.ignoresAsking campaign source made made results)).exists_ok hreached
  unfold judge
  rw [horacle]
  refine ⟨{ after with
    log := passedNote attempts (tree.source campaign.config.separator) :: after.log },
    ⟨hafter.session, hafter.attempts_eq, hafter.results_eq⟩, ?_⟩
  show outcome (campaign.error? _ >>= _) state = _
  rw [outcome_bind_ok houtcome, hvalue, heq]
  rfl

/-- A search finds the next accepted program, if there is one before the limit. -/
theorem search_finds (hdecides : ∀ oracle ∈ campaign.oracles, oracle.Decides)
    (hdescribes : ∀ oracle ∈ campaign.oracles, oracle.Describes) {limit : Nat}
    (hprogram : ∀ made < limit, campaign.generator.treeAt source made = .ok (program made))
    (hbound : ∀ bound, campaign.config.maxAttempts = some bound → (limit : Int) ≤ bound)
    {found : Nat} (hfound : found < campaign.accepted program limit) (fuel attempts made : Nat)
    (hmade : made ≤ limit) (hfuel : limit ≤ made + fuel)
    (haccepted : campaign.accepted program made = found) (state : State σ S)
    (hreached : campaign.Reached source made made found state) :
    ∃ finding after, outcome (campaign.search fuel attempts) state = (.ok finding, after) ∧
      (∃ last, campaign.place program (found + 1) = last + 1 ∧ made ≤ last ∧
        campaign.IsFinding (program last) (attempts + (last + 1 - made)) finding ∧
        campaign.Reached source (last + 1) (last + 1) found after ∧
        campaign.accepted program (last + 1) = found + 1) := by
  induction fuel generalizing attempts made state with
  | zero =>
      have heq : made = limit := by omega
      rw [heq] at haccepted
      omega
  | succ fuel ih =>
      have hlt : made < limit := by
        rcases hmade.lt_or_eq with hlt | heq
        · exact hlt
        · rw [heq] at haccepted
          omega
      obtain ⟨middle, hmiddle, hstep⟩ := search_step fuel attempts hreached
        (hprogram made hlt) fun bound hsome => by
          have := hbound bound hsome
          omega
      by_cases haccepts : campaign.Accepts (program made)
      · -- the search ends with this program
        have hmeets : Meets (campaign.Reached source (made + 1) (made + 1) found)
            (campaign.judge fuel (attempts + 1) (program made))
            (campaign.IsFinding (program made) (attempts + 1)) fun _ => False :=
          judge_accepts hdecides hdescribes haccepts fuel (attempts + 1) (made + 1) found
        obtain ⟨finding, after, hjudge, hafter, hfinding⟩ := hmeets.exists_ok hmiddle
        refine ⟨finding, after, hstep.trans hjudge, made, ?_, le_rfl, ?_, hafter, ?_⟩
        · rw [← haccepted, place_succ campaign program haccepts]
        · rwa [Nat.add_sub_cancel_left]
        · rw [accepted_succ campaign program haccepts, haccepted]
      · -- the search goes on, and one more attempt is counted
        obtain ⟨next, hnext, hjudge⟩ := judge_rejects hdecides haccepts fuel (attempts + 1) hmiddle
        obtain ⟨finding, after, hsearch, last, hplace, hle, hfinding, hafter, hlast⟩ :=
          ih (attempts + 1) (made + 1) hlt (by omega)
            ((accepted_succ_of_not campaign program haccepts).trans haccepted) next hnext
        refine ⟨finding, after, (hstep.trans hjudge).trans hsearch, last, hplace, by omega, ?_,
          hafter, hlast⟩
        rwa [show attempts + (last + 1 - made) = attempts + 1 + (last + 1 - (made + 1)) by omega]

/-- If no program before the bound is accepted any more, a search gives up at the bound. -/
theorem search_exhausts (hdecides : ∀ oracle ∈ campaign.oracles, oracle.Decides) {bound : Nat}
    (hprogram : ∀ made < bound, campaign.generator.treeAt source made = .ok (program made))
    (hbound : campaign.config.maxAttempts = some (bound : Int)) {found : Nat}
    (hfound : campaign.accepted program bound = found) (fuel attempts made : Nat)
    (hmade : made ≤ bound) (hfuel : bound < made + fuel)
    (haccepted : campaign.accepted program made = found) (state : State σ S)
    (hreached : campaign.Reached source made made found state) :
    ∃ after, outcome (campaign.search fuel attempts) state =
      (.error (.exhausted bound found campaign.config.results), after) ∧
      campaign.Reached source bound bound found after := by
  induction fuel generalizing attempts made state with
  | zero => omega
  | succ fuel ih =>
      rcases hmade.lt_or_eq with hlt | rfl
      · obtain ⟨middle, hmiddle, hstep⟩ := search_step fuel attempts hreached
          (hprogram made hlt) fun other hsome => by
            rw [hbound] at hsome
            cases hsome
            omega
        -- one more accepted program would be one too many before the bound
        have hrejects : ¬ campaign.Accepts (program made) := by
          intro haccepts
          have hsucc := accepted_succ campaign program haccepts
          have hmono : campaign.accepted program (made + 1) ≤ campaign.accepted program bound := by
            classical
            exact Nat.count_monotone _ hlt
          omega
        obtain ⟨next, hnext, hjudge⟩ := judge_rejects hdecides hrejects fuel (attempts + 1) hmiddle
        obtain ⟨after, hsearch, hafter⟩ := ih (attempts + 1) (made + 1) hlt (by omega)
          ((accepted_succ_of_not campaign program hrejects).trans haccepted) next hnext
        exact ⟨after, (hstep.trans hjudge).trans hsearch, hafter⟩
      · exact ⟨state, search_exhausted hreached hbound, hreached⟩

/-! ## Pulling -/

/-- Between two pulls there are some findings, and the last program led to the last of them. -/
structure Between (campaign : Campaign σ S) (source : Random.Source) (program : Nat → Tree)
    (found : Nat) (state : State σ S) : Prop where
  reached : campaign.Reached source (campaign.place program found) (campaign.place program found)
    found state
  accepted_eq : campaign.accepted program (campaign.place program found) = found

section Pulls

variable (hdirectory : campaign.config.outputDirectory = none)
  (hdecides : ∀ oracle ∈ campaign.oracles, oracle.Decides)
  (hdescribes : ∀ oracle ∈ campaign.oracles, oracle.Describes) {patience limit : Nat}
  (hpatience : campaign.config.maxAttempts = none → limit ≤ patience)
  (hprogram : ∀ made < limit, campaign.generator.treeAt source made = .ok (program made))

include hdirectory hdecides hdescribes hpatience hprogram

theorem advance_finds
    (hbound : ∀ bound, campaign.config.maxAttempts = some bound → (limit : Int) ≤ bound)
    {found : Nat} (hfound : found < campaign.accepted program limit)
    (hresults : (found : Int) < campaign.config.results) {state : State σ S}
    (hbetween : campaign.Between source program found state) :
    ∃ finding after, outcome (campaign.advance patience) state = (.ok (some finding), after) ∧
      campaign.IsFinding (program (campaign.place program (found + 1) - 1))
        (campaign.place program (found + 1) - campaign.place program found) finding ∧
      campaign.Between source program (found + 1) after := by
  obtain ⟨finding, next, hsearch, last, hplace, hle, hfinding, hnext, hlast⟩ :=
    search_finds hdecides hdescribes hprogram hbound hfound
      (campaign.attemptsLeft patience state.stats) 0 _ (place_le hfound.le)
      (le_add_attemptsLeft hbetween.reached.attempts_eq hpatience hbound) hbetween.accepted_eq state
      hbetween.reached
  have hfind : outcome (campaign.findWithin patience) state = (.ok finding, next) := hsearch
  unfold advance
  rw [outcome_get_bind, hbetween.reached.results_eq, if_pos hresults, outcome_bind_ok hfind]
  -- without a directory nothing is written
  have hsave : (campaign.saveFinding finding : Work σ S Unit) = pure () := by
    rw [saveFinding, hdirectory]
    rfl
  rw [hsave]
  refine ⟨finding, _, rfl, ?_, ?_, ?_⟩
  · rw [hplace, Nat.add_sub_cancel]
    rwa [Nat.zero_add] at hfinding
  · rw [hplace]
    exact ⟨hnext.session, hnext.attempts_eq, congrArg (· + 1) hnext.results_eq⟩
  · rw [hplace, hlast]

end Pulls

/-- If no more programs before the bound are accepted, a pull fails. -/
theorem advance_exhausts (hdecides : ∀ oracle ∈ campaign.oracles, oracle.Decides) {bound : Nat}
    (hprogram : ∀ made < bound, campaign.generator.treeAt source made = .ok (program made))
    (hbound : campaign.config.maxAttempts = some (bound : Int)) (patience : Nat) {found : Nat}
    (hfound : campaign.accepted program bound = found)
    (hresults : (found : Int) < campaign.config.results) {state : State σ S}
    (hbetween : campaign.Between source program found state) :
    ∃ after, outcome (campaign.advance patience) state =
      (.error (.exhausted bound found campaign.config.results), after) := by
  have hle : campaign.place program found ≤ bound := place_le hfound.ge
  obtain ⟨after, hsearch, -⟩ :=
    search_exhausts hdecides hprogram hbound hfound (campaign.attemptsLeft patience state.stats) 0 _
      hle (by
        have hattempts := hbetween.reached.attempts_eq
        rw [attemptsLeft, hbound]
        dsimp only
        omega) hbetween.accepted_eq state hbetween.reached
  have hfind : outcome (campaign.findWithin patience) state =
      (.error (.exhausted bound found campaign.config.results), after) := hsearch
  refine ⟨after, ?_⟩
  unfold advance
  rw [outcome_get_bind, hbetween.reached.results_eq, if_pos hresults, outcome_bind_error hfind]

/-- Enough findings end the run. -/
theorem advance_enough (patience : Nat) {found : Nat}
    (hresults : ¬ (found : Int) < campaign.config.results) {state : State σ S}
    (hbetween : campaign.Between source program found state) :
    outcome (campaign.advance patience) state = (.ok none, state) := by
  unfold advance
  rw [outcome_get_bind, hbetween.reached.results_eq, if_neg hresults]
  rfl

/-- The run has ended, well or not. -/
def finish (status : Status) (state : State σ S) : State σ S :=
  { state with stats := { state.stats with status, ended := true } }

/-- How a pull of a run that has not ended wraps up what the campaign leads to. -/
theorem pullWithin_run (campaign : Campaign σ S) (patience : Nat) {run : Run} (hrun : run ≠ .ended)
    (state : State σ S) :
    (campaign.pullWithin patience run).run state =
      match outcome (do
        if run = .fresh then campaign.begin
        campaign.advance patience) state with
      | (.ok (some finding), after) => ((.ok (some finding), .suspended), after)
      | (.ok none, after) => ((.ok none, .ended), finish .completed after)
      | (.error error, after) => ((.error error, .ended), finish .failed after) := by
  unfold pullWithin
  rw [if_neg hrun]
  rw [StateT.run_bind]
  unfold outcome
  generalize StateT.run (ExceptT.run _) state = ending
  obtain ⟨answer, after⟩ := ending
  cases answer with
  | error error => rfl
  | ok finding =>
      cases finding with
      | none => rfl
      | some finding => rfl

/-- A pull of a run that has not ended goes on with the campaign; a fresh run is marked before. -/
theorem pullWithin_begun (campaign : Campaign σ S) (patience : Nat) {run : Run}
    (hrun : run ≠ .ended) (state : State σ S) :
    ∃ begun : State σ S, begun.session = state.session ∧ begun.scene = state.scene ∧
      begun.stats.attempts = state.stats.attempts ∧ begun.stats.results = state.stats.results ∧
      (campaign.pullWithin patience run).run state =
        match outcome (campaign.advance patience) begun with
        | (.ok (some finding), after) => ((.ok (some finding), .suspended), after)
        | (.ok none, after) => ((.ok none, .ended), finish .completed after)
        | (.error error, after) => ((.error error, .ended), finish .failed after) := by
  rw [pullWithin_run campaign patience hrun]
  by_cases hfresh : run = .fresh
  · have hbegin : outcome campaign.begin state = (.ok ⟨⟩, (outcome campaign.begin state).2) := rfl
    refine ⟨(outcome campaign.begin state).2, rfl, rfl, rfl, rfl, ?_⟩
    rw [if_pos hfresh, outcome_bind_ok hbegin]
  · refine ⟨state, rfl, rfl, rfl, rfl, ?_⟩
    rw [if_neg hfresh]

/-- A pull leads to what the campaign leads to, or to nothing, if the marks of a run make no
difference. -/
theorem pullWithin_of_advance {patience : Nat} {ready : State σ S → Prop}
    {ends : Except Error (Option Finding) × State σ S → Prop}
    (hbegin : ∀ state begun : State σ S, begun.session = state.session →
      begun.scene = state.scene → begun.stats.attempts = state.stats.attempts →
      begun.stats.results = state.stats.results → ready state → ready begun)
    (hadvance : ∀ state, ready state → ends (outcome (campaign.advance patience) state))
    (hfinish : ∀ answer status state, ends (answer, state) → ends (answer, finish status state))
    (hended : ∀ state, ready state → ends (.ok none, state)) {run last : Run}
    {state after : State σ S} {answer : Except Error (Option Finding)} (hstate : ready state)
    (hpull : (campaign.pullWithin patience run).run state = ((answer, last), after)) :
    ends (answer, after) := by
  by_cases hrun : run = .ended
  · have hnothing : (campaign.pullWithin patience run).run state = ((.ok none, .ended), state) := by
      unfold pullWithin
      rw [if_pos hrun]
      rfl
    rw [hnothing] at hpull
    cases hpull
    exact hended state hstate
  · obtain ⟨begun, hsession, hscene, hattempts, hresults, heq⟩ :=
      pullWithin_begun campaign patience hrun state
    have hends := hadvance begun (hbegin state begun hsession hscene hattempts hresults hstate)
    rw [heq] at hpull
    generalize outcome (campaign.advance patience) begun = ending at hends hpull
    obtain ⟨pulled, next⟩ := ending
    rcases pulled with error | finding | finding
    · cases hpull
      exact hfinish _ _ _ hends
    · cases hpull
      exact hfinish _ _ _ hends
    · cases hpull
      exact hends

/-- A pull between two findings goes on from there. -/
theorem pullWithin_eq (patience : Nat) {run : Run} (hrun : run ≠ .ended) {found : Nat}
    {state : State σ S} (hbetween : campaign.Between source program found state) :
    ∃ begun, campaign.Between source program found begun ∧
      (campaign.pullWithin patience run).run state =
        match outcome (campaign.advance patience) begun with
        | (.ok (some finding), after) => ((.ok (some finding), .suspended), after)
        | (.ok none, after) => ((.ok none, .ended), finish .completed after)
        | (.error error, after) => ((.error error, .ended), finish .failed after) := by
  obtain ⟨begun, hsession, -, hattempts, hresults, hpull⟩ :=
    pullWithin_begun campaign patience hrun state
  refine ⟨begun, ⟨⟨?_, ?_, ?_⟩, hbetween.accepted_eq⟩, hpull⟩
  · rw [hsession]
    exact hbetween.reached.session
  · rw [hattempts]
    exact hbetween.reached.attempts_eq
  · rw [hresults]
    exact hbetween.reached.results_eq

theorem pullMany_succ (campaign : Campaign σ S) (patience count : Nat) (run : Run)
    (state : State σ S) :
    (campaign.pullMany patience (count + 1) run).run state =
      match (campaign.pullWithin patience run).run state with
      | ((.ok (some finding), run), after) =>
        match (campaign.pullMany patience count run).run after with
        | ((findings, error, run), last) => ((finding :: findings, error, run), last)
      | ((.ok none, run), after) => (([], none, run), after)
      | ((.error error, run), after) => (([], some error, run), after) := by
  rw [pullMany, StateT.run_bind]
  generalize StateT.run (campaign.pullWithin patience run) state = ending
  obtain ⟨⟨answer, run⟩, after⟩ := ending
  cases answer with
  | error error => rfl
  | ok finding =>
      cases finding with
      | none => rfl
      | some finding => rfl

/-! ## Runs -/

theorem suspended_ne_ended : Run.suspended ≠ .ended := nofun

/-- A pull that gives a finding is followed by the other pulls. -/
theorem pullMany_cons {patience count : Nat} {run run' last : Run} {state after final : State σ S}
    {finding : Finding} {findings : List Finding} {error : Option Error}
    (hpull : (campaign.pullWithin patience run).run state = ((.ok (some finding), run'), after))
    (hrest : (campaign.pullMany patience count run').run after = ((findings, error, last), final)) :
    (campaign.pullMany patience (count + 1) run).run state =
      ((finding :: findings, error, last), final) := by
  rw [pullMany_succ, hpull]
  dsimp only
  rw [hrest]

section Pulls

variable (hdirectory : campaign.config.outputDirectory = none)
  (hdecides : ∀ oracle ∈ campaign.oracles, oracle.Decides)
  (hdescribes : ∀ oracle ∈ campaign.oracles, oracle.Describes) {patience limit : Nat}
  (hpatience : campaign.config.maxAttempts = none → limit ≤ patience)
  (hprogram : ∀ made < limit, campaign.generator.treeAt source made = .ok (program made))

include hdirectory hdecides hdescribes hpatience hprogram

/-- A pull gives the next finding, if one is wanted and there is an accepted program for it. -/
theorem pullWithin_finds
    (hbound : ∀ bound, campaign.config.maxAttempts = some bound → (limit : Int) ≤ bound)
    {found : Nat} (hfound : found < campaign.accepted program limit)
    (hresults : (found : Int) < campaign.config.results) {run : Run} (hrun : run ≠ .ended)
    {state : State σ S} (hbetween : campaign.Between source program found state) :
    ∃ finding after,
      (campaign.pullWithin patience run).run state = ((.ok (some finding), .suspended), after) ∧
      campaign.IsFinding (program (campaign.place program (found + 1) - 1))
        (campaign.place program (found + 1) - campaign.place program found) finding ∧
      campaign.Between source program (found + 1) after := by
  obtain ⟨begun, hbegun, hpull⟩ := pullWithin_eq patience hrun hbetween
  obtain ⟨finding, after, hadvance, hfinding, hafter⟩ :=
    advance_finds hdirectory hdecides hdescribes hpatience hprogram hbound hfound hresults hbegun
  rw [hadvance] at hpull
  exact ⟨finding, after, hpull, hfinding, hafter⟩

/-- Pulls that ask for no more findings than there are accepted programs get them. -/
theorem pullMany_finds
    (hbound : ∀ bound, campaign.config.maxAttempts = some bound → (limit : Int) ≤ bound)
    (count found : Nat) (hfound : found ≤ campaign.config.results.toNat)
    (henough : min (found + count) campaign.config.results.toNat ≤
      campaign.accepted program limit) {run : Run} (hrun : run ≠ .ended) {state : State σ S}
    (hbetween : campaign.Between source program found state) :
    ∃ findings last after,
      (campaign.pullMany patience count run).run state = ((findings, none, last), after) ∧
      found + findings.length = min (found + count) campaign.config.results.toNat ∧
      campaign.Follow program found findings ∧
      (campaign.config.results.toNat < found + count → after.stats.status = .completed) := by
  induction count generalizing found run state with
  | zero => exact ⟨[], run, state, rfl, by simpa using hfound, nofun, by omega⟩
  | succ count ih =>
      rcases hfound.lt_or_eq with hlt | heq
      · have hnext : found < campaign.accepted program limit := by omega
        obtain ⟨finding, after, hpull, hfinding, hafter⟩ :=
          pullWithin_finds hdirectory hdecides hdescribes hpatience hprogram hbound hnext
            (by omega) hrun hbetween
        obtain ⟨findings, last, final, hrest, hlength, hfollow, hstatus⟩ :=
          ih (found + 1) hlt (by omega) suspended_ne_ended hafter
        refine ⟨finding :: findings, last, final, pullMany_cons hpull hrest, ?_,
          hfollow.cons hfinding, fun hmore => hstatus (by omega)⟩
        rw [List.length_cons]
        omega
      · -- all findings that are wanted are there, so one more pull ends the run
        obtain ⟨begun, hbegun, hpull⟩ := pullWithin_eq patience hrun hbetween
        rw [pullMany_succ, hpull, advance_enough patience (by omega) hbegun]
        refine ⟨[], .ended, finish .completed begun, rfl, ?_, nofun, fun _ => rfl⟩
        rw [List.length_nil]
        omega

end Pulls

/-- Pulls that ask for more findings than there are accepted programs before the bound get those
and fail. -/
theorem pullMany_exhausts (hdirectory : campaign.config.outputDirectory = none)
    (hdecides : ∀ oracle ∈ campaign.oracles, oracle.Decides)
    (hdescribes : ∀ oracle ∈ campaign.oracles, oracle.Describes) {patience bound : Nat}
    (hprogram : ∀ made < bound, campaign.generator.treeAt source made = .ok (program made))
    (hbound : campaign.config.maxAttempts = some (bound : Int)) (count found : Nat)
    (hfound : found ≤ campaign.accepted program bound)
    (hmore : campaign.accepted program bound < min (found + count) campaign.config.results.toNat)
    {run : Run} (hrun : run ≠ .ended) {state : State σ S}
    (hbetween : campaign.Between source program found state) :
    ∃ findings last after,
      (campaign.pullMany patience count run).run state =
        ((findings, some (.exhausted bound (campaign.accepted program bound)
          campaign.config.results), last), after) ∧
      found + findings.length = campaign.accepted program bound ∧
      campaign.Follow program found findings ∧ after.stats.status = .failed := by
  induction count generalizing found run state with
  | zero => omega
  | succ count ih =>
      rcases hfound.lt_or_eq with hlt | heq
      · have hlimit : ∀ other, campaign.config.maxAttempts = some other →
            (bound : Int) ≤ other := by
          intro other hother
          rw [hbound] at hother
          exact (Option.some.inj hother).le
        have hpatience : campaign.config.maxAttempts = none → bound ≤ patience := by
          intro hnone
          rw [hbound] at hnone
          cases hnone
        obtain ⟨finding, after, hpull, hfinding, hafter⟩ :=
          pullWithin_finds hdirectory hdecides hdescribes hpatience hprogram hlimit hlt (by omega)
            hrun hbetween
        obtain ⟨findings, last, final, hrest, hlength, hfollow, hstatus⟩ :=
          ih (found + 1) hlt (by omega) suspended_ne_ended hafter
        refine ⟨finding :: findings, last, final, pullMany_cons hpull hrest, ?_,
          hfollow.cons hfinding, hstatus⟩
        rw [List.length_cons]
        omega
      · -- no program before the bound is left
        obtain ⟨begun, hbegun, hpull⟩ := pullWithin_eq patience hrun hbetween
        obtain ⟨after, hadvance⟩ := advance_exhausts hdecides hprogram hbound patience heq.symm
          (by omega) hbegun
        rw [pullMany_succ, hpull, hadvance, ← heq]
        exact ⟨[], .ended, finish .failed after, rfl, rfl, nofun, rfl⟩

/-- The number of findings that are pulled at most. -/
def wanted (campaign : Campaign σ S) (most : Option Nat) : Nat :=
  match most with
  | some most => min most campaign.config.results.toNat
  | none => campaign.config.results.toNat

/-- A run is its pulls; closing it marks at most its end. -/
theorem runWithin_closes {patience : Nat} {most : Option Nat} {state after : State σ S}
    {findings : List Finding} {error : Option Error} {last : Run}
    (hpulls : (campaign.pullMany patience
      (most.getD ((campaign.config.results - (state.stats.results : Int)).toNat + 1)) .fresh).run
        state = ((findings, error, last), after)) :
    ∃ ended, (campaign.runWithin patience most).run state =
      ((findings, error), { after with stats := { after.stats with ended } }) := by
  have hrun : (campaign.runWithin patience most).run state =
      ((findings, error), ((closeRun last : StateM (State σ S) Unit).run after).2) := by
    unfold runWithin
    rw [StateT.run_bind, StateT.run_get, pure_bind]
    dsimp only
    rw [StateT.run_bind, hpulls]
    rfl
  rw [hrun]
  unfold closeRun
  split
  · exact ⟨true, rfl⟩
  · exact ⟨after.stats.ended, rfl⟩

theorem runWithin_eq {patience : Nat} {most : Option Nat} {state after : State σ S}
    {findings : List Finding} {error : Option Error} {last : Run}
    (hpulls : (campaign.pullMany patience
      (most.getD ((campaign.config.results - (state.stats.results : Int)).toNat + 1)) .fresh).run
        state = ((findings, error, last), after)) :
    ∃ final, (campaign.runWithin patience most).run state = ((findings, error), final) ∧
      final.stats.status = after.stats.status := by
  obtain ⟨ended, hrun⟩ := runWithin_closes hpulls
  exact ⟨_, hrun, rfl⟩

/-- **A run finds the accepted programs, in order.**  Let `program` be the first `count` trees of a
fresh generator.  If there are enough accepted ones among them, and the bound on attempts does not
come first, then the run has the wanted number of findings and ends well.  If there are not
enough up to the bound, then the run has the accepted ones and fails for exhaustion.  Patience
matters only where there is no bound. -/
theorem run_findings (campaign : Campaign σ S) (hdirectory : campaign.config.outputDirectory = none)
    (hdecides : ∀ oracle ∈ campaign.oracles, oracle.Decides)
    (hdescribes : ∀ oracle ∈ campaign.oracles, oracle.Describes) (source : Random.Source)
    (program : Nat → Tree) (count : Nat)
    (hprogram : ∀ made < count, campaign.generator.treeAt source made = .ok (program made))
    (state : State σ S) (hsession : state.session = .fresh source) (hstats : state.stats = .fresh)
    (patience : Nat) (hpatience : campaign.config.maxAttempts = none → count ≤ patience)
    (most : Option Nat) :
    (∀ limit ≤ count,
      (∀ bound, campaign.config.maxAttempts = some bound → (limit : Int) ≤ bound) →
      campaign.wanted most ≤ campaign.accepted program limit →
      ∃ findings after,
        (campaign.runWithin patience most).run state = ((findings, none), after) ∧
        findings.length = campaign.wanted most ∧ campaign.Follow program 0 findings ∧
        (most = none → after.stats.status = .completed)) ∧
    (∀ bound : Nat, campaign.config.maxAttempts = some (bound : Int) → bound ≤ count →
      campaign.accepted program bound < campaign.wanted most →
      ∃ findings after,
        (campaign.runWithin patience most).run state =
          ((findings, some (.exhausted bound (campaign.accepted program bound)
            campaign.config.results)), after) ∧
        findings.length = campaign.accepted program bound ∧ campaign.Follow program 0 findings ∧
        after.stats.status = .failed) := by
  -- a fresh campaign stands before its first finding
  have hbetween : campaign.Between source program 0 state := by
    refine ⟨⟨⟨[], ?_⟩, ?_, ?_⟩, ?_⟩
    · rw [hsession]
      rfl
    · rw [hstats]
      rfl
    · rw [hstats]
      rfl
    · rw [accepted, place, Nat.count_zero]
  have hfresh : Run.fresh ≠ .ended := by decide
  have hcount : 0 + most.getD ((campaign.config.results - (state.stats.results : Int)).toNat + 1) =
      most.getD (campaign.config.results.toNat + 1) := by
    have hzero : state.stats.results = 0 := by
      rw [hstats]
      rfl
    rw [hzero, Nat.zero_add, Int.natCast_zero, Int.sub_zero]
  have hwanted : campaign.wanted most =
      min (0 + most.getD ((campaign.config.results - (state.stats.results : Int)).toNat + 1))
        campaign.config.results.toNat := by
    rw [hcount]
    cases most with
    | none => exact (min_eq_right (Nat.le_succ _)).symm
    | some most => rfl
  constructor
  · intro limit hlimit hbound henough
    rw [hwanted] at henough
    obtain ⟨findings, last, after, hpulls, hlength, hfollow, hstatus⟩ :=
      pullMany_finds hdirectory hdecides hdescribes
        (fun hnone => hlimit.trans (hpatience hnone))
        (fun made hmade => hprogram made (hmade.trans_le hlimit)) hbound _ 0 (Nat.zero_le _) henough
        hfresh hbetween
    obtain ⟨final, hrun, hfinal⟩ := runWithin_eq hpulls
    refine ⟨findings, final, hrun, ?_, hfollow, fun hall => ?_⟩
    · rw [hwanted, ← hlength, Nat.zero_add]
    · rw [hfinal]
      refine hstatus ?_
      rw [hcount, hall]
      exact Nat.lt_succ_self _
  · intro bound hbound hle hmore
    rw [hwanted] at hmore
    obtain ⟨findings, last, after, hpulls, hlength, hfollow, hstatus⟩ :=
      pullMany_exhausts hdirectory hdecides hdescribes
        (fun made hmade => hprogram made (hmade.trans_le hle)) hbound _ 0 (Nat.zero_le _) hmore
        hfresh hbetween
    obtain ⟨final, hrun, hfinal⟩ := runWithin_eq hpulls
    refine ⟨findings, final, hrun, ?_, hfollow, hfinal.trans hstatus⟩
    rw [← hlength, Nat.zero_add]

/-- On a script of zeros every program is the letter, and both programs become findings. -/
theorem run_findings_chain :
    ∃ findings after, (chain.run none).run (chainState [0, 0, 0, 0]) =
        ((findings, none), after) ∧
      findings.length = 2 ∧
      chain.Follow (fun _ => .branch .choice [.leaf .literal "a"]) 0 findings ∧
      after.stats.status = .completed := by
  have hprogram : ∀ made < 2, chain.generator.treeAt (.ofWords [0, 0, 0, 0]) made =
      .ok (.branch .choice [.leaf .literal "a"]) := by
    intro made hmade
    have hcases : made = 0 ∨ made = 1 := by omega
    rcases hcases with rfl | rfl
    · with_unfolding_all rfl
    · with_unfolding_all rfl
  have hdescribes : ∀ oracle ∈ chain.oracles, oracle.Describes := by
    intro oracle horacle
    rw [List.mem_singleton.mp horacle]
    exact Oracle.nonempty_describes
  have haccepts : chain.Accepts (.branch .choice [.leaf .literal "a"]) := by
    intro _
    have houtcome : (outcome (chain.error?
        ((Tree.branch .choice [.leaf .literal "a"]).source chain.config.separator))
        (chainState [])).1 = .ok (some "not empty") := by
      with_unfolding_all rfl
    exact ⟨"not empty", answers_of_outcome chain_decides houtcome⟩
  have haccepted : chain.accepted (fun _ => .branch .choice [.leaf .literal "a"]) 2 = 2 :=
    accepted_eq_of_forall fun _ _ => haccepts
  have hbound : ∀ bound, chain.config.maxAttempts = some bound → ((2 : Nat) : Int) ≤ bound :=
    fun bound hbound => (Option.some.inj hbound).le
  have hwanted : chain.wanted none = 2 := rfl
  obtain ⟨findings, after, hrun, hlength, hfollow, hstatus⟩ :=
    (run_findings chain rfl chain_decides hdescribes (.ofWords [0, 0, 0, 0])
      (fun _ => .branch .choice [.leaf .literal "a"]) 2 hprogram (chainState [0, 0, 0, 0]) rfl rfl
      attemptLimit nofun none).1 2 le_rfl hbound (hwanted.trans_le haccepted.ge)
  exact ⟨findings, after, hrun, hlength.trans hwanted, hfollow, hstatus rfl⟩

end GrammarFuzz.Campaign

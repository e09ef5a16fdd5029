import GrammarFuzz.Proofs.Campaign.Findings

/-!
# What verdicts lead to

Oracles are asked about a program in order, until one of them fails it or breaks down.  The message
of the failing verdict is all that is passed on, and it stands for the failure itself: a program is
kept, and a cut accepted, exactly if there is a message.  A verdict that fails a program without one
ends the questions as every failing verdict does, but then the program counts as passed, even if an
oracle that has not been asked would have failed it with a message (`mute_spared`).

## Strategy

`Ruled` follows the oracles from one to the next, by their verdicts alone.  There is always one
ruling, and asking answers with it (`exists_ruled`, `Ruled.outcome_eq`).  What searching and
shrinking do with the answers is put in the same terms: shrinking in `Minimizes`, from the rounds
that it falls into, and searching in `Searches`, by the recursion of the search.
-/

namespace GrammarFuzz.Campaign

variable {σ S : Type} {campaign : Campaign σ S} {source : String}

/-! ## Rulings -/

/-- What comes out if oracles are asked about a program one after the other. -/
inductive Ruling where
  | passed
  | failed (message : Option String)
  | broken (error : Oracle.Error)

namespace Ruling

/-- The answer that a ruling is passed on as. -/
def answer : Ruling → Except Error (Option String)
  | passed => .ok none
  | failed message => .ok message
  | broken error => .error (.oracle error)

/-- The program counts as passed: it is, or it is failed without a message. -/
def Spares (ruling : Ruling) : Prop := ruling = .passed ∨ ruling = .failed none

theorem spares_iff {ruling : Ruling} : ruling.Spares ↔ ruling.answer = .ok none := by
  unfold Spares
  cases ruling with
  | passed => exact ⟨fun _ => rfl, fun _ => Or.inl rfl⟩
  | failed message => simp [answer]
  | broken error => simp [answer]

theorem answer_eq_some_iff {ruling : Ruling} {error : String} :
    ruling.answer = .ok (some error) ↔ ruling = .failed (some error) := by
  cases ruling <;> simp [answer]

theorem answer_eq_error_iff {ruling : Ruling} {error : Error} :
    ruling.answer = .error error ↔ ∃ fault, error = .oracle fault ∧ ruling = .broken fault := by
  cases ruling <;> simp [answer, eq_comm]

end Ruling

/-- The answer of an oracle about a program, and the state after it. -/
def asked (oracle : Oracle σ) (source : String) (state : State σ S) : Oracle.Answer × State σ S :=
  let (answer, scene) := (oracle.check source).run state.scene
  (answer, { state with scene, log := answer.notes.reverse ++ state.log })

/-- The oracles are asked about a program in order, from one state to another.  The first one that
does not pass it is the last one that is asked. -/
inductive Ruled (source : String) : List (Oracle σ) → State σ S → Ruling → State σ S → Prop where
  | passed (state : State σ S) : Ruled source [] state .passed state
  | next {oracle : Oracle σ} {rest : List (Oracle σ)} {state last : State σ S} {verdict : Verdict}
      {ruling : Ruling} (hverdict : (asked oracle source state).1.verdict = .ok verdict)
      (hpassed : verdict.failed = false)
      (hrest : Ruled source rest (asked oracle source state).2 ruling last) :
      Ruled source (oracle :: rest) state ruling last
  | failed {oracle : Oracle σ} {rest : List (Oracle σ)} {state : State σ S} {verdict : Verdict}
      (hverdict : (asked oracle source state).1.verdict = .ok verdict)
      (hfailed : verdict.failed = true) :
      Ruled source (oracle :: rest) state (.failed verdict.message) (asked oracle source state).2
  | broken {oracle : Oracle σ} {rest : List (Oracle σ)} {state : State σ S} {error : Oracle.Error}
      (hverdict : (asked oracle source state).1.verdict = .error error) :
      Ruled source (oracle :: rest) state (.broken error) (asked oracle source state).2

theorem exists_ruled (source : String) (oracles : List (Oracle σ)) (state : State σ S) :
    ∃ ruling last, Ruled source oracles state ruling last := by
  induction oracles generalizing state with
  | nil => exact ⟨_, _, .passed state⟩
  | cons oracle rest ih =>
      cases hverdict : (asked oracle source state).1.verdict with
      | error error => exact ⟨_, _, .broken hverdict⟩
      | ok verdict =>
          cases hfailed : verdict.failed with
          | true => exact ⟨_, _, .failed hverdict hfailed⟩
          | false =>
              obtain ⟨ruling, last, hrest⟩ := ih (asked oracle source state).2
              exact ⟨ruling, last, .next hverdict hfailed hrest⟩

/-- Asking starts with the first oracle, and its verdict settles whether it goes on. -/
theorem outcome_firstFailure_cons (oracle : Oracle σ) (rest : List (Oracle σ))
    (state : State σ S) :
    outcome (firstFailure source (oracle :: rest)) state =
      match (asked oracle source state).1.verdict with
      | .error error => (.error (.oracle error), (asked oracle source state).2)
      | .ok verdict =>
        if verdict.failed then (.ok verdict.message, (asked oracle source state).2)
        else outcome (firstFailure source rest) (asked oracle source state).2 := by
  have hstep : outcome (firstFailure source (oracle :: rest)) state =
      outcome (match (asked oracle source state).1.verdict with
        | .error error => throw (.oracle error)
        | .ok verdict => if verdict.failed then return verdict.message
          else firstFailure source rest) (asked oracle source state).2 := rfl
  rw [hstep]
  cases (asked oracle source state).1.verdict with
  | error error => rfl
  | ok verdict =>
      dsimp only
      split
      · rfl
      · rfl

/-- **Asking answers with the ruling.** -/
theorem Ruled.outcome_eq {oracles : List (Oracle σ)} {state last : State σ S} {ruling : Ruling}
    (hruled : Ruled source oracles state ruling last) :
    outcome (firstFailure source oracles) state = (ruling.answer, last) := by
  induction hruled with
  | passed state => rfl
  | next hverdict hpassed _ ih =>
      rw [outcome_firstFailure_cons, hverdict]
      dsimp only
      rw [hpassed, if_neg Bool.false_ne_true, ih]
  | failed hverdict hfailed =>
      rw [outcome_firstFailure_cons, hverdict]
      dsimp only
      rw [hfailed, if_pos rfl]
      rfl
  | broken hverdict =>
      rw [outcome_firstFailure_cons, hverdict]
      rfl

/-- The oracles of the campaign are asked about a program, which is one call. -/
def Asks (campaign : Campaign σ S) (source : String) (state : State σ S) (ruling : Ruling)
    (last : State σ S) : Prop :=
  Ruled source campaign.oracles
    { state with stats := { state.stats with oracleCalls := state.stats.oracleCalls + 1 } } ruling
    last

theorem exists_asks (campaign : Campaign σ S) (source : String) (state : State σ S) :
    ∃ ruling last, campaign.Asks source state ruling last :=
  exists_ruled source campaign.oracles _

theorem Asks.outcome_eq {state last : State σ S} {ruling : Ruling}
    (hasks : campaign.Asks source state ruling last) :
    outcome (campaign.error? source) state = (ruling.answer, last) :=
  Ruled.outcome_eq hasks

/-- An answer comes from a ruling. -/
theorem exists_asks_of_outcome {state last : State σ S} {answer : Except Error (Option String)}
    (hanswer : outcome (campaign.error? source) state = (answer, last)) :
    ∃ ruling, campaign.Asks source state ruling last ∧ ruling.answer = answer := by
  obtain ⟨ruling, other, hasks⟩ := exists_asks campaign source state
  cases hanswer.symm.trans hasks.outcome_eq
  exact ⟨ruling, hasks, rfl⟩

theorem error?_eq_some_iff {state last : State σ S} {error : String} :
    outcome (campaign.error? source) state = (.ok (some error), last) ↔
      campaign.Asks source state (.failed (some error)) last := by
  refine ⟨fun hanswer => ?_, Asks.outcome_eq⟩
  obtain ⟨ruling, hasks, heq⟩ := exists_asks_of_outcome hanswer
  rwa [← Ruling.answer_eq_some_iff.mp heq]

theorem error?_eq_none_iff {state last : State σ S} :
    outcome (campaign.error? source) state = (.ok none, last) ↔
      ∃ ruling, campaign.Asks source state ruling last ∧ ruling.Spares := by
  constructor
  · intro hanswer
    obtain ⟨ruling, hasks, heq⟩ := exists_asks_of_outcome hanswer
    exact ⟨ruling, hasks, Ruling.spares_iff.mpr heq⟩
  · rintro ⟨ruling, hasks, hspares⟩
    rw [hasks.outcome_eq, Ruling.spares_iff.mp hspares]

/-! ## Shrinking -/

/-- The oracles are asked about some trees one after the other, and all of them count as passed. -/
inductive Spared (campaign : Campaign σ S) : State σ S → List Tree → State σ S → Prop where
  | nil (state : State σ S) : Spared campaign state [] state
  | cons {state middle last : State σ S} {tree : Tree} {rest : List Tree} {ruling : Ruling}
      (hasks : campaign.Asks (tree.source campaign.config.separator) state ruling middle)
      (hspares : ruling.Spares) (hrest : Spared campaign middle rest last) :
      Spared campaign state (tree :: rest) last

/-- Shrinking a failing program in a state, with the programs that are accepted, the error that ends
it early, and the last state.  The first variant that is failed with a message takes the place of
the program, and the message that of the error. -/
inductive Minimizes (campaign : Campaign σ S) :
    Failing → State σ S → List Failing → Option Error → State σ S → Prop where
  | last {failing : Failing} {state last : State σ S}
      (hspared : Spared campaign state failing.tree.variants last) :
      Minimizes campaign failing state [] none last
  | accepted {failing : Failing} {state middle next last : State σ S} {spared others : List Tree}
      {tree : Tree} {error : String} {accepted : List Failing} {stop : Option Error}
      (hvariants : failing.tree.variants = spared ++ tree :: others)
      (hspared : Spared campaign state spared middle)
      (hasks : campaign.Asks (tree.source campaign.config.separator) middle (.failed (some error))
        next)
      (hrest : Minimizes campaign ⟨tree, tree.source campaign.config.separator, error⟩ next
        accepted stop last) :
      Minimizes campaign failing state
        (⟨tree, tree.source campaign.config.separator, error⟩ :: accepted) stop last
  | broken {failing : Failing} {state middle last : State σ S} {spared others : List Tree}
      {tree : Tree} {error : Oracle.Error}
      (hvariants : failing.tree.variants = spared ++ tree :: others)
      (hspared : Spared campaign state spared middle)
      (hasks : campaign.Asks (tree.source campaign.config.separator) middle (.broken error) last) :
      Minimizes campaign failing state [] (some (.oracle error)) last

theorem Refused.spared {state last : State σ S} {trees : List Tree}
    (hrefused : Refused campaign state trees last) : Spared campaign state trees last := by
  induction hrefused with
  | nil state => exact .nil state
  | cons hanswer _ ih =>
      obtain ⟨ruling, hasks, heq⟩ := exists_asks_of_outcome hanswer
      exact .cons hasks (Ruling.spares_iff.mpr heq) ih

/-- The rounds of shrinking, by what the oracles say. -/
theorem Rounds.minimizes {failing : Failing} {state last : State σ S} {accepted : List Failing}
    {stop : Option Error} {questions : Nat}
    (hrounds : Rounds campaign failing state accepted stop questions last) :
    Minimizes campaign failing state accepted stop last := by
  induction hrounds with
  | last hrefused => exact .last hrefused.spared
  | accepted hvariants hrefused hanswer _ ih =>
      obtain ⟨ruling, hasks, heq⟩ := exists_asks_of_outcome hanswer
      rw [Ruling.answer_eq_some_iff.mp heq] at hasks
      exact .accepted hvariants hrefused.spared hasks ih
  | broken hvariants hrefused hanswer =>
      obtain ⟨ruling, hasks, heq⟩ := exists_asks_of_outcome hanswer
      obtain ⟨fault, rfl, rfl⟩ := Ruling.answer_eq_error_iff.mp heq
      exact .broken hvariants hrefused.spared hasks

/-- A finding shows the program that shrinking ends with, and its error. -/
theorem findingOf_eq_ok {attempts : Nat} {failing : Failing} {state : State σ S}
    {finding : Finding}
    (hfinding : (outcome (campaign.findingOf attempts failing) state).1 = .ok finding) :
    ∃ final steps, (outcome (campaign.shrink failing) state).1 = .ok (final, steps) ∧
      finding.source = final.source ∧ finding.error = some final.error := by
  obtain ⟨⟨final, steps⟩, after, hshrink, hrest⟩ := exists_of_outcome_bind_ok hfinding
  obtain ⟨dump, last, -, hlast⟩ := exists_of_outcome_bind_ok hrest
  cases hlast
  exact ⟨final, steps, congrArg Prod.fst hshrink, rfl, rfl⟩

/-- What shrinking returns is what was accepted last. -/
theorem ending_eq_ok {failing final : Failing} {accepted : List Failing} {stop : Option Error}
    {steps : Nat} (hending : ending failing accepted stop = .ok (final, steps)) :
    final = accepted.getLastD failing := by
  cases stop with
  | none =>
      cases hending
      rfl
  | some error => cases hending

/-! ## Searching -/

variable [Scalar S]

/-- Generates a program, if an attempt is left. -/
def attempt (campaign : Campaign σ S) : Work σ S Tree := do
  campaign.nextAttempt
  Work.generate campaign.generator.generate

theorem search_eq_attempt (campaign : Campaign σ S) (fuel attempts : Nat) :
    campaign.search (fuel + 1) attempts =
      campaign.attempt >>= campaign.judge fuel (attempts + 1) := by
  rw [search_succ, attempt, bind_assoc]

/-- The note about a program that an oracle fails. -/
def failedNote (attempts : Nat) (tree : Tree) : Log.Record :=
  ⟨Log.Level.info, logger, "Attempt " ++ toString attempts ++ ": oracle error, minimizing " ++
    toString tree.tokens.length ++ " tokens"⟩

/-- A search in a state after some attempts, and what it ends with.  Without oracles it ends with
the first program.  With oracles a program that counts as passed is left behind, and one that is
failed with a message is shrunk to the finding, with the message for its error. -/
inductive Searches (campaign : Campaign σ S) :
    (fuel attempts : Nat) → State σ S → Except Error Finding → State σ S → Prop where
  | endless (attempts : Nat) (state : State σ S) :
      Searches campaign 0 attempts state (.error .endless) state
  | stopped {fuel attempts : Nat} {state last : State σ S} {error : Error}
      (hattempt : outcome campaign.attempt state = (.error error, last)) :
      Searches campaign (fuel + 1) attempts state (.error error) last
  | plain {fuel attempts : Nat} {state last : State σ S} {tree : Tree}
      (hattempt : outcome campaign.attempt state = (.ok tree, last))
      (horacle : campaign.hasOracle = false) :
      Searches campaign (fuel + 1) attempts state
        (.ok ⟨tree.source campaign.config.separator, none, none, (attempts + 1 : Nat), 0,
          tree.source campaign.config.separator⟩) last
  | spared {fuel attempts : Nat} {state made judged last : State σ S} {tree : Tree}
      {ruling : Ruling} {result : Except Error Finding}
      (hattempt : outcome campaign.attempt state = (.ok tree, made))
      (horacle : campaign.hasOracle = true)
      (hasks : campaign.Asks (tree.source campaign.config.separator) made ruling judged)
      (hspares : ruling.Spares)
      (hrest : Searches campaign fuel (attempts + 1) { judged with
        log := passedNote (attempts + 1) (tree.source campaign.config.separator) :: judged.log }
        result last) :
      Searches campaign (fuel + 1) attempts state result last
  | failed {fuel attempts : Nat} {state made judged last : State σ S} {tree : Tree}
      {error : String} {result : Except Error Finding}
      (hattempt : outcome campaign.attempt state = (.ok tree, made))
      (horacle : campaign.hasOracle = true)
      (hasks : campaign.Asks (tree.source campaign.config.separator) made (.failed (some error))
        judged)
      (hfinding : outcome (campaign.findingOf (attempts + 1)
          ⟨tree, tree.source campaign.config.separator, error⟩)
        { judged with log := failedNote (attempts + 1) tree :: judged.log } = (result, last)) :
      Searches campaign (fuel + 1) attempts state result last
  | broken {fuel attempts : Nat} {state made last : State σ S} {tree : Tree} {error : Oracle.Error}
      (hattempt : outcome campaign.attempt state = (.ok tree, made))
      (horacle : campaign.hasOracle = true)
      (hasks : campaign.Asks (tree.source campaign.config.separator) made (.broken error) last) :
      Searches campaign (fuel + 1) attempts state (.error (.oracle error)) last

/-- **A search does with each program what the ruling says.** -/
theorem searches (campaign : Campaign σ S) (fuel attempts : Nat) (state : State σ S) :
    Searches campaign fuel attempts state (outcome (campaign.search fuel attempts) state).1
      (outcome (campaign.search fuel attempts) state).2 := by
  induction fuel generalizing attempts state with
  | zero => exact .endless attempts state
  | succ fuel ih =>
      rw [search_eq_attempt]
      cases hattempt : outcome campaign.attempt state with
      | mk answer made =>
          cases answer with
          | error error =>
              rw [outcome_bind_error hattempt]
              exact .stopped hattempt
          | ok tree =>
              rw [outcome_bind_ok hattempt]
              unfold judge
              cases horacle : campaign.hasOracle with
              | false => exact .plain hattempt horacle
              | true =>
                  obtain ⟨ruling, judged, hasks⟩ :=
                    exists_asks campaign (tree.source campaign.config.separator) made
                  have hanswer := hasks.outcome_eq
                  dsimp only
                  rw [Bool.not_true, if_neg Bool.false_ne_true]
                  cases ruling with
                  | passed =>
                      rw [outcome_bind_ok hanswer]
                      exact .spared hattempt horacle hasks (Or.inl rfl) (ih ..)
                  | failed message =>
                      rw [outcome_bind_ok hanswer]
                      cases message with
                      | none => exact .spared hattempt horacle hasks (Or.inr rfl) (ih ..)
                      | some error => exact .failed hattempt horacle hasks rfl
                  | broken error =>
                      rw [outcome_bind_error hanswer]
                      exact .broken hattempt horacle hasks

/-- **A program is treated as failing if the first failing verdict has a message.**  The oracles are
asked in order up to the first one that does not pass the program, and no further.  If it fails the
program with a message, then this is the error, a search shrinks the program to its finding, and
shrinking accepts the cut that led to the program; without a message neither happens, as if all
oracles had passed it. -/
theorem failures_need_messages (campaign : Campaign σ S) :
    (∀ source state, ∃ ruling last, campaign.Asks source state ruling last ∧
      outcome (campaign.error? source) state = (ruling.answer, last)) ∧
    (∀ source state error last,
      outcome (campaign.error? source) state = (.ok (some error), last) ↔
        campaign.Asks source state (.failed (some error)) last) ∧
    (∀ source state last,
      outcome (campaign.error? source) state = (.ok none, last) ↔
        ∃ ruling, campaign.Asks source state ruling last ∧ ruling.Spares) ∧
    (∀ failing state, ∃ accepted stop last,
      Minimizes campaign failing state accepted stop last ∧
      (outcome (campaign.shrink failing) state).1 = ending failing accepted stop ∧
      (outcome (campaign.shrink failing) state).2.scene = last.scene ∧
      ∀ attempts finding, (outcome (campaign.findingOf attempts failing) state).1 = .ok finding →
        finding.source = (accepted.getLastD failing).source ∧
          finding.error = some (accepted.getLastD failing).error) ∧
    ∀ patience state,
      Searches campaign (campaign.attemptsLeft patience state.stats) 0 state
        (outcome (campaign.findWithin patience) state).1
        (outcome (campaign.findWithin patience) state).2 := by
  refine ⟨fun source state => ?_, fun source state error last => error?_eq_some_iff,
    fun source state last => error?_eq_none_iff, fun failing state => ?_,
    fun patience state => ?_⟩
  · obtain ⟨ruling, last, hasks⟩ := exists_asks campaign source state
    exact ⟨ruling, last, hasks, hasks.outcome_eq⟩
  · obtain ⟨accepted, stop, questions, last, hrounds, hending, -, hscene, -⟩ :=
      outcome_shrink campaign failing state
    refine ⟨accepted, stop, last, hrounds.minimizes, hending, hscene,
      fun attempts finding hfinding => ?_⟩
    obtain ⟨final, steps, hshrink, hfinal⟩ := findingOf_eq_ok hfinding
    rwa [← ending_eq_ok (hending.symm.trans hshrink)]
  · exact searches campaign (campaign.attemptsLeft patience state.stats) 0 state

/-! ### An oracle that says nothing -/

/-- The oracle that fails every program without a message. -/
def mute : Oracle Unit where
  name := "mute"
  check _ := return .quiet ⟨true, none⟩
  describe _ := return none
  close := return ()

/-- The campaign for two programs, with the oracle that says nothing before the one that does. -/
def unheard : Campaign Unit (Exact fun _ => 0) :=
  { chain with oracles := [mute, Oracle.nonempty Unit] }

theorem unheard_error? (source : String) (state : State Unit (Exact fun _ => 0)) :
    (outcome (unheard.error? source) state).1 = .ok none := rfl

theorem unheard_decides : ∀ oracle ∈ unheard.oracles, oracle.Decides := by
  refine List.forall_mem_cons.mpr ⟨⟨fun _ => ⟨true, none⟩, fun _ _ => rfl⟩, ?_⟩
  exact List.forall_mem_singleton.mpr Oracle.nonempty_decides

theorem not_accepts_unheard (tree : Tree) : ¬ unheard.Accepts tree := by
  intro haccepts
  obtain ⟨error, herror⟩ := haccepts rfl
  cases (unheard_error? _ (chainState [])).symm.trans (herror.fst_eq _)

/-- Every program is failed, but the first failing verdict has no message: there is no error, and a
search does not find anything. -/
theorem mute_spared :
    (∀ source scene, ((mute.check source).run scene).1.verdict = .ok ⟨true, none⟩) ∧
      (outcome (unheard.error? "a") (chainState [])).1 = .ok none ∧
      (outcome unheard.find (chainState [0, 0, 0, 0])).1 = .error (.exhausted 2 0 2) := by
  have hprogram : ∀ made < 2, unheard.generator.treeAt (.ofWords [0, 0, 0, 0]) made =
      .ok (.branch .choice [.leaf .literal "a"]) := by
    intro made hmade
    have hcases : made = 0 ∨ made = 1 := by omega
    rcases hcases with rfl | rfl
    · with_unfolding_all rfl
    · with_unfolding_all rfl
  have haccepted : ∀ count,
      unheard.accepted (fun _ => .branch .choice [.leaf .literal "a"]) count = 0 := by
    intro count
    induction count with
    | zero => rfl
    | succ count ih => rw [accepted_succ_of_not _ _ (not_accepts_unheard _), ih]
  have hreached : unheard.Reached (.ofWords [0, 0, 0, 0]) 0 0 0 (chainState [0, 0, 0, 0]) :=
    ⟨⟨[], rfl⟩, rfl, rfl⟩
  obtain ⟨after, hsearch, -⟩ := search_exhausts unheard_decides hprogram rfl (haccepted 2) 3 0 0
    (by decide) (by decide) (haccepted 0) _ hreached
  exact ⟨fun _ _ => rfl, unheard_error? _ _, congrArg Prod.fst hsearch⟩

end GrammarFuzz.Campaign

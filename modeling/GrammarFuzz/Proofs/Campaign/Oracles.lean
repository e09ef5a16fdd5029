import GrammarFuzz.Campaign.Basic
import GrammarFuzz.Proofs.Step

/-!
# Asking oracles

Asking about a program changes the scene and the log and counts as one call; nothing else
changes (`error?_frame`).  If the verdicts of all oracles are functions of the program, then so is
the answer, whatever the oracles remember: asking settles (`Settles`).
-/

namespace GrammarFuzz

variable {σ S : Type}

/-- The verdicts of an oracle are a function of the program. -/
def Oracle.Decides (oracle : Oracle σ) : Prop :=
  ∃ verdict : String → Verdict, ∀ source scene,
    ((oracle.check source).run scene).1.verdict = .ok (verdict source)

/-- The descriptions of an oracle are a function of the program. -/
def Oracle.Describes (oracle : Oracle σ) : Prop :=
  ∃ dump : String → Option String, ∀ source scene,
    ((oracle.describe source).run scene).1 = dump source

namespace Campaign

variable {campaign : Campaign σ S} {source : String}

/-! ## What asking changes -/

theorem act_meets {α : Type} {action : StateM (Scene σ) α} {invariant : State σ S → Prop}
    {result : α → Prop} {failure : Error → Prop}
    (hscene : ∀ state, invariant state →
      invariant { state with scene := (action.run state.scene).2 })
    (hresult : ∀ scene, result (action.run scene).1) :
    Meets invariant (Work.act action) result failure :=
  fun state hstate => ⟨hscene state hstate, hresult state.scene⟩

/-- The first failure changes nothing but the scene, as the oracles do, and the log, and only an
oracle breaks down. -/
theorem firstFailure_keeps {invariant : State σ S → Prop} (source : String)
    (oracles : List (Oracle σ))
    (hcheck : ∀ oracle ∈ oracles, ∀ state, invariant state →
      invariant { state with scene := ((oracle.check source).run state.scene).2 })
    (hlog : ∀ state log, invariant state → invariant { state with log }) :
    Meets invariant (firstFailure source oracles) (fun _ => True)
      fun error => ∃ fault, error = .oracle fault := by
  induction oracles with
  | nil => exact Meets.pure trivial
  | cons oracle rest ih =>
      have hact : Meets invariant (Work.act (oracle.check source)) (fun _ => True)
          fun error => ∃ fault, error = .oracle fault :=
        act_meets (hcheck oracle (List.mem_cons_self ..)) fun _ => trivial
      refine Meets.bind hact fun answer _ => ?_
      refine Meets.modify_bind (fun state hstate => hlog state _ hstate) ?_
      cases answer.verdict with
      | error error => exact Meets.throw ⟨error, rfl⟩
      | ok verdict =>
          dsimp only
          split
          · exact Meets.pure trivial
          · exact ih fun other hother => hcheck other (List.mem_cons_of_mem _ hother)

/-- The first description changes nothing but the scene, as the oracles do. -/
theorem firstDescription_keeps {invariant : State σ S → Prop} {failure : Error → Prop}
    (source : String) (oracles : List (Oracle σ))
    (hdescribe : ∀ oracle ∈ oracles, ∀ state, invariant state →
      invariant { state with scene := ((oracle.describe source).run state.scene).2 }) :
    Meets invariant (firstDescription source oracles) (fun _ => True) failure := by
  induction oracles with
  | nil => exact Meets.pure trivial
  | cons oracle rest ih =>
      have hact : Meets invariant (Work.act (oracle.describe source)) (fun _ => True) failure :=
        act_meets (hdescribe oracle (List.mem_cons_self ..)) fun _ => trivial
      refine Meets.bind hact fun dump _ => ?_
      cases dump with
      | some dump => exact Meets.pure trivial
      | none => exact ih fun other hother => hdescribe other (List.mem_cons_of_mem _ hother)

/-- The state after a question: one more call, and another scene and log. -/
theorem error?_frame (campaign : Campaign σ S) (source : String) (state : State σ S) :
    (outcome (campaign.error? source) state).2.session = state.session ∧
      (outcome (campaign.error? source) state).2.stats =
        { state.stats with oracleCalls := state.stats.oracleCalls + 1 } := by
  have hkeeps : Meets
      (fun after : State σ S => after.session = state.session ∧
        after.stats = { state.stats with oracleCalls := state.stats.oracleCalls + 1 })
      (firstFailure source campaign.oracles) (fun _ => True)
      fun error => ∃ fault, error = .oracle fault :=
    firstFailure_keeps source campaign.oracles (fun _ _ _ hstate => hstate)
      fun _ _ hstate => hstate
  exact (hkeeps { state with stats :=
    { state.stats with oracleCalls := state.stats.oracleCalls + 1 } } ⟨rfl, rfl⟩).kept

theorem oracleCalls_of_error? {state after : State σ S} {answer : Except Error (Option String)}
    (hanswer : outcome (campaign.error? source) state = (answer, after)) :
    after.stats.oracleCalls = state.stats.oracleCalls + 1 := by
  have hframe := (error?_frame campaign source state).2
  rw [hanswer] at hframe
  exact congrArg Stats.oracleCalls hframe

/-! ## Settled steps -/

/-- The invariant does not mind what questions and cuts change: the scene, the log and the counts of
questions and cuts. -/
def IgnoresAsking (invariant : State σ S → Prop) : Prop :=
  ∀ state scene log oracleCalls cuts, invariant state → invariant
    { state with scene, log, stats := { state.stats with oracleCalls, cuts } }

/-- The invariant is kept by all that questions and cuts do in the campaign: by what its oracles do
in the scene, by notes, and by the counts of questions and cuts. -/
structure KeptByAsking (campaign : Campaign σ S) (invariant : State σ S → Prop) : Prop where
  check : ∀ oracle ∈ campaign.oracles, ∀ source state, invariant state →
    invariant { state with scene := ((oracle.check source).run state.scene).2 }
  describe : ∀ oracle ∈ campaign.oracles, ∀ source state, invariant state →
    invariant { state with scene := ((oracle.describe source).run state.scene).2 }
  notes : ∀ state log oracleCalls cuts, invariant state → invariant
    { state with log, stats := { state.stats with oracleCalls, cuts } }

/-- What does not mind any change of the scene does not mind what oracles do in it. -/
theorem IgnoresAsking.kept {invariant : State σ S → Prop} (hignores : IgnoresAsking invariant)
    (campaign : Campaign σ S) : campaign.KeptByAsking invariant where
  check _ _ _ state hstate := hignores state _ state.log _ _ hstate
  describe _ _ _ state hstate := hignores state _ state.log _ _ hstate
  notes state log _ _ hstate := hignores state state.scene log _ _ hstate

/-- The step gives one value in every state, and changes only what questions and cuts change. -/
def Settles {α : Type} (step : Work σ S α) (value : α) : Prop :=
  ∀ invariant : State σ S → Prop, IgnoresAsking invariant →
    Meets invariant step (· = value) fun _ => False

namespace Settles

variable {α β : Type} {step : Work σ S α} {value : α}

theorem yields (hstep : Settles step value) : Yields step value :=
  hstep _ fun _ _ _ _ _ _ => trivial

protected theorem pure (value : α) : Settles (pure value : Work σ S α) value :=
  fun _ _ => Meets.pure rfl

protected theorem bind {next : α → Work σ S β} {last : β} (hstep : Settles step value)
    (hnext : Settles (next value) last) : Settles (step >>= next) last := by
  intro invariant hignores
  refine Meets.bind (hstep invariant hignores) fun other hother => ?_
  rw [hother]
  exact hnext invariant hignores

/-- An oracle acts, and what is known of its result is enough. -/
theorem act_bind {action : StateM (Scene σ) β} {next : β → Work σ S α} (known : β → Prop)
    (haction : ∀ scene, known (action.run scene).1)
    (hnext : ∀ result, known result → Settles (next result) value) :
    Settles (Work.act action >>= next) value := by
  intro invariant hignores
  have hact : Meets invariant (Work.act action) known fun _ => False :=
    act_meets (fun state hstate => hignores state _ state.log _ _ hstate) haction
  exact Meets.bind hact fun result hresult => hnext result hresult invariant hignores

/-- A change of the log. -/
theorem log_bind {next : PUnit → Work σ S α} (change : State σ S → List Log.Record)
    (hnext : Settles (next ⟨⟩) value) :
    Settles ((modify fun state => { state with log := change state }) >>= next) value :=
  fun invariant hignores => Meets.modify_bind
    (fun state hstate => hignores state state.scene (change state) _ _ hstate)
    (hnext invariant hignores)

end Settles

/-! ## Answers -/

/-- The oracles give the same answer about a program whenever they are asked. -/
def Answers (campaign : Campaign σ S) (source : String) (answer : Option String) : Prop :=
  Yields (campaign.error? source) answer

theorem exists_settles_firstFailure {oracles : List (Oracle σ)}
    (hdecides : ∀ oracle ∈ oracles, oracle.Decides) (source : String) :
    ∃ answer, Settles (firstFailure source oracles : Work σ S (Option String)) answer := by
  induction oracles with
  | nil => exact ⟨none, Settles.pure none⟩
  | cons oracle rest ih =>
      obtain ⟨verdict, hverdict⟩ := hdecides oracle (List.mem_cons_self ..)
      obtain ⟨answer, hanswer⟩ :=
        ih fun other hother => hdecides other (List.mem_cons_of_mem _ hother)
      refine ⟨if (verdict source).failed then (verdict source).message else answer, ?_⟩
      refine Settles.act_bind (fun given => given.verdict = .ok (verdict source))
        (hverdict source) fun given hgiven => Settles.log_bind _ ?_
      rw [hgiven]
      dsimp only
      split
      · exact Settles.pure _
      · exact hanswer

/-- Oracles that decide programs have one answer about each. -/
theorem exists_settles_error? (hdecides : ∀ oracle ∈ campaign.oracles, oracle.Decides)
    (source : String) : ∃ answer, Settles (campaign.error? source) answer := by
  obtain ⟨answer, hanswer⟩ :
      ∃ answer, Settles (firstFailure source campaign.oracles : Work σ S _) answer :=
    exists_settles_firstFailure hdecides source
  exact ⟨answer, fun invariant hignores => Meets.modify_bind
    (fun state hstate => hignores state state.scene state.log _ _ hstate) (hanswer _ hignores)⟩

theorem Answers.settles (hdecides : ∀ oracle ∈ campaign.oracles, oracle.Decides)
    {answer : Option String} (hanswer : campaign.Answers source answer) :
    Settles (campaign.error? source) answer := by
  obtain ⟨other, hother⟩ := exists_settles_error? hdecides source
  intro invariant hignores state hstate
  rw [hother.yields.unique (hanswer.fst_eq state)]
  exact hother invariant hignores state hstate

/-- An answer that such oracles give once they give always. -/
theorem answers_of_outcome (hdecides : ∀ oracle ∈ campaign.oracles, oracle.Decides)
    {state : State σ S} {answer : Option String}
    (hanswer : (outcome (campaign.error? source) state).1 = .ok answer) :
    campaign.Answers source answer := by
  obtain ⟨other, hother⟩ := exists_settles_error? hdecides source
  rw [hother.yields.unique hanswer]
  exact hother.yields

/-- Such oracles do not break down. -/
theorem error?_ne_error (hdecides : ∀ oracle ∈ campaign.oracles, oracle.Decides)
    {state : State σ S} {error : Error} :
    (outcome (campaign.error? source) state).1 ≠ .error error := by
  obtain ⟨answer, hanswer⟩ := exists_settles_error? hdecides source
  rw [hanswer.yields.fst_eq]
  exact nofun

/-! ## Descriptions -/

theorem exists_settles_firstDescription {oracles : List (Oracle σ)}
    (hdescribes : ∀ oracle ∈ oracles, oracle.Describes) (source : String) :
    ∃ dump, Settles (firstDescription source oracles : Work σ S (Option String)) dump := by
  induction oracles with
  | nil => exact ⟨none, Settles.pure none⟩
  | cons oracle rest ih =>
      obtain ⟨dump, hdump⟩ := hdescribes oracle (List.mem_cons_self ..)
      obtain ⟨other, hother⟩ :=
        ih fun oracle hmem => hdescribes oracle (List.mem_cons_of_mem _ hmem)
      refine ⟨(dump source).or other, Settles.act_bind (· = dump source) (hdump source)
        fun given hgiven => ?_⟩
      rw [hgiven]
      cases dump source with
      | some text => exact Settles.pure _
      | none => exact hother

/-- Oracles that describe programs have one description of each. -/
theorem exists_settles_describe (hdescribes : ∀ oracle ∈ campaign.oracles, oracle.Describes)
    (source : String) : ∃ dump, Settles (campaign.describe source) dump :=
  exists_settles_firstDescription hdescribes source

end Campaign

/-! ### An oracle that fails every program with a text -/

/-- The oracle that fails every program but the empty one. -/
def Oracle.nonempty (σ : Type) : Oracle σ where
  name := "nonempty"
  check source := return .quiet (if source = "" then .passed else .failure "not empty")
  describe _ := return none
  close := return ()

theorem Oracle.nonempty_decides : (nonempty σ).Decides :=
  ⟨fun source => if source = "" then .passed else .failure "not empty", fun _ _ => rfl⟩

theorem Oracle.nonempty_describes : (nonempty σ).Describes := ⟨fun _ => none, fun _ _ => rfl⟩

end GrammarFuzz

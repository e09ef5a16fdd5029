import Mathlib.Data.List.Forall2

/-!
# Steps that change a state and may fail

Draws, samplers, the generator and the campaign are all written in steps of one form: a step
takes a state, gives a value or an error, and leaves a state behind in either case.  `outcome`
runs a step once.

`Meets` says what a step does in all states of an invariant.  A failing step has to keep the
invariant too, because a session goes on after a failed call.  The predicate on errors makes one
notion of several: with `fun _ => False` it says that the step succeeds, with `fun _ => True`
that nothing is known about its errors.
-/

namespace GrammarFuzz

variable {ε σ τ α β : Type}

/-- What a step does in a state: its value or its error, and the state after it. -/
def outcome (step : ExceptT ε (StateM σ) α) (state : σ) : Except ε α × σ :=
  step.run.run state

@[simp] theorem outcome_pure (value : α) (state : σ) :
    outcome (pure value : ExceptT ε (StateM σ) α) state = (.ok value, state) := rfl

@[simp] theorem outcome_throw (error : ε) (state : σ) :
    outcome (throw error : ExceptT ε (StateM σ) α) state = (.error error, state) := rfl

/-- A step that first reads the state. -/
@[simp] theorem outcome_get_bind (next : σ → ExceptT ε (StateM σ) α) (state : σ) :
    outcome (get >>= next) state = outcome (next state) state := rfl

/-- A step that first changes the state. -/
@[simp] theorem outcome_modify_bind (change : σ → σ) (next : PUnit → ExceptT ε (StateM σ) α)
    (state : σ) :
    outcome (modify change >>= next) state = outcome (next ⟨⟩) (change state) := rfl

theorem outcome_bind (step : ExceptT ε (StateM σ) α) (next : α → ExceptT ε (StateM σ) β)
    (state : σ) :
    outcome (step >>= next) state =
      match outcome step state with
      | (.ok value, after) => outcome (next value) after
      | (.error error, after) => (.error error, after) := by
  show outcome (step >>= next) state = _
  unfold outcome
  simp only [ExceptT.run_bind, StateT.run_bind]
  show (match (step.run.run state : Except ε α × σ) with | (result, after) => _) = _
  cases (step.run.run state : Except ε α × σ) with
  | mk result after => cases result <;> rfl

theorem outcome_bind_ok {step : ExceptT ε (StateM σ) α} {next : α → ExceptT ε (StateM σ) β}
    {state after : σ} {value : α} (hstep : outcome step state = (.ok value, after)) :
    outcome (step >>= next) state = outcome (next value) after := by
  rw [outcome_bind, hstep]

theorem outcome_bind_error {step : ExceptT ε (StateM σ) α} {next : α → ExceptT ε (StateM σ) β}
    {state after : σ} {error : ε} (hstep : outcome step state = (.error error, after)) :
    outcome (step >>= next) state = (.error error, after) := by
  rw [outcome_bind, hstep]

/-- A value comes from a value of the first part and the second part after it. -/
theorem outcome_bind_eq_ok_iff {step : ExceptT ε (StateM σ) α}
    {next : α → ExceptT ε (StateM σ) β} {state last : σ} {value : β} :
    outcome (step >>= next) state = (.ok value, last) ↔
      ∃ middle after, outcome step state = (.ok middle, after) ∧
        outcome (next middle) after = (.ok value, last) := by
  constructor
  · intro hbind
    rw [outcome_bind] at hbind
    cases hstep : outcome step state with
    | mk answer after =>
        rw [hstep] at hbind
        cases answer with
        | ok middle => exact ⟨middle, after, rfl, hbind⟩
        | error error => cases hbind
  · rintro ⟨middle, after, hstep, hnext⟩
    rw [outcome_bind_ok hstep, hnext]

/-- A step that gives a value has come through its first part. -/
theorem exists_of_outcome_bind_ok {step : ExceptT ε (StateM σ) α}
    {next : α → ExceptT ε (StateM σ) β} {state : σ} {value : β}
    (hbind : (outcome (step >>= next) state).1 = .ok value) :
    ∃ middle after, outcome step state = (.ok middle, after) ∧
      (outcome (next middle) after).1 = .ok value := by
  obtain ⟨middle, after, hstep, hnext⟩ := outcome_bind_eq_ok_iff.mp (Prod.ext hbind rfl)
  exact ⟨middle, after, hstep, congrArg Prod.fst hnext⟩

/-- The same without a state. -/
theorem exists_of_bind_ok {first : Except ε α} {next : α → Except ε β} {value : β}
    (hbind : (first >>= next) = .ok value) :
    ∃ middle, first = .ok middle ∧ next middle = .ok value := by
  cases first with
  | error error => cases hbind
  | ok middle => exact ⟨middle, rfl, hbind⟩

/-! ## Steps and invariants -/

/-- What an outcome has to be: a state with the invariant, and a value or an error of the kind
that is expected. -/
def Meets.At (invariant : σ → Prop) (result : α → Prop) (failure : ε → Prop) :
    Except ε α × σ → Prop
  | (.ok value, after) => invariant after ∧ result value
  | (.error error, after) => invariant after ∧ failure error

/-- In every state with the invariant the step keeps it, and gives a value or an error of the kind
that is expected. -/
def Meets (invariant : σ → Prop) (step : ExceptT ε (StateM σ) α) (result : α → Prop)
    (failure : ε → Prop) : Prop :=
  ∀ state, invariant state → Meets.At invariant result failure (outcome step state)

namespace Meets

variable {invariant : σ → Prop} {result result' : α → Prop} {failure failure' : ε → Prop}

theorem At.mono {ending : Except ε α × σ} (hending : At invariant result failure ending)
    (hresult : ∀ value, result value → result' value)
    (hfailure : ∀ error, failure error → failure' error) :
    At invariant result' failure' ending := by
  obtain ⟨answer, after⟩ := ending
  cases answer with
  | ok value => exact ⟨hending.1, hresult value hending.2⟩
  | error error => exact ⟨hending.1, hfailure error hending.2⟩

theorem At.kept {ending : Except ε α × σ} (hending : At invariant result failure ending) :
    invariant ending.2 := by
  obtain ⟨answer, after⟩ := ending
  cases answer with
  | ok value => exact hending.1
  | error error => exact hending.1

theorem mono {step : ExceptT ε (StateM σ) α} (hstep : Meets invariant step result failure)
    (hresult : ∀ value, result value → result' value)
    (hfailure : ∀ error, failure error → failure' error) :
    Meets invariant step result' failure' :=
  fun state hstate => (hstep state hstate).mono hresult hfailure

protected theorem pure {value : α} (hvalue : result value) :
    Meets invariant (pure value : ExceptT ε (StateM σ) α) result failure := by
  intro state hstate
  rw [outcome_pure]
  exact ⟨hstate, hvalue⟩

protected theorem throw {error : ε} (herror : failure error) :
    Meets invariant (throw error : ExceptT ε (StateM σ) α) result failure := by
  intro state hstate
  rw [outcome_throw]
  exact ⟨hstate, herror⟩

protected theorem modify {change : σ → σ} {result : PUnit → Prop}
    (hchange : ∀ state, invariant state → invariant (change state)) (hresult : result ⟨⟩) :
    Meets invariant (modify change : ExceptT ε (StateM σ) PUnit) result failure :=
  fun state hstate => ⟨hchange state hstate, hresult⟩

protected theorem bind {middle : β → Prop} {step : ExceptT ε (StateM σ) β}
    {next : β → ExceptT ε (StateM σ) α} (hstep : Meets invariant step middle failure)
    (hnext : ∀ value, middle value → Meets invariant (next value) result failure) :
    Meets invariant (step >>= next) result failure := by
  intro state hstate
  have hending := hstep state hstate
  rw [outcome_bind]
  cases houtcome : outcome step state with
  | mk answer after =>
      rw [houtcome] at hending
      cases answer with
      -- the value is of the middle kind, and the state after it has the invariant
      | ok value => exact hnext value hending.2 after hending.1
      | error error => exact hending

/-- A step that first changes the state. -/
theorem modify_bind {change : σ → σ} {next : PUnit → ExceptT ε (StateM σ) α}
    (hchange : ∀ state, invariant state → invariant (change state))
    (hnext : Meets invariant (next ⟨⟩) result failure) :
    Meets invariant (modify change >>= next) result failure := by
  intro state hstate
  rw [outcome_modify_bind]
  exact hnext (change state) (hchange state hstate)

/-- Of any step nothing at all is known, but a fact that is not about the state stays one. -/
protected theorem trivial {fact : Prop} (step : ExceptT ε (StateM σ) α) :
    Meets (fun _ => fact) step (fun _ => True) fun _ => True := by
  intro state hfact
  cases outcome step state with
  | mk answer after => cases answer <;> exact ⟨hfact, trivial⟩

/-- A step that first reads the state. -/
theorem get_bind {next : σ → ExceptT ε (StateM σ) α}
    (hnext : ∀ state, invariant state →
      At invariant result failure (outcome (next state) state)) :
    Meets invariant (get >>= next) result failure := by
  intro state hstate
  rw [outcome_get_bind]
  exact hnext state hstate

/-- Each step over a list has a value of its own kind. -/
protected theorem mapM {relation : β → α → Prop} {step : β → ExceptT ε (StateM σ) α}
    (items : List β)
    (hstep : ∀ item ∈ items, Meets invariant (step item) (relation item) failure) :
    Meets invariant (items.mapM step) (List.Forall₂ relation items) failure := by
  induction items with
  | nil => exact Meets.pure List.Forall₂.nil
  | cons item rest ih =>
      rw [List.mapM_cons]
      refine Meets.bind (hstep item (List.mem_cons_self ..)) fun first hfirst => ?_
      refine Meets.bind (ih fun other hother => hstep other (List.mem_cons_of_mem _ hother))
        fun others hothers => ?_
      exact Meets.pure (List.Forall₂.cons hfirst hothers)

/-- What is known of a step in two ways is known at once. -/
protected theorem and {invariant' : σ → Prop} {step : ExceptT ε (StateM σ) α}
    (hfirst : Meets invariant step result failure)
    (hsecond : Meets invariant' step result' failure') :
    Meets (fun state => invariant state ∧ invariant' state) step
      (fun value => result value ∧ result' value) fun error => failure error ∧ failure' error := by
  rintro state ⟨hstate, hstate'⟩
  have hending := hfirst state hstate
  have hending' := hsecond state hstate'
  cases houtcome : outcome step state with
  | mk answer after =>
      rw [houtcome] at hending hending'
      cases answer with
      | ok value => exact ⟨⟨hending.1, hending'.1⟩, hending.2, hending'.2⟩
      | error error => exact ⟨⟨hending.1, hending'.1⟩, hending.2, hending'.2⟩

/-- A value that a step gives is one of those that are expected. -/
theorem of_ok {step : ExceptT ε (StateM σ) α} (hstep : Meets invariant step result failure)
    {state : σ} (hstate : invariant state) {value : α}
    (hvalue : (outcome step state).1 = .ok value) : result value := by
  have hending := hstep state hstate
  rw [← Prod.eta (outcome step state), hvalue] at hending
  exact hending.2

/-- An error that a step gives is one of those that are expected. -/
theorem of_error {step : ExceptT ε (StateM σ) α} (hstep : Meets invariant step result failure)
    {state : σ} (hstate : invariant state) {error : ε}
    (herror : (outcome step state).1 = .error error) : failure error := by
  have hending := hstep state hstate
  rw [← Prod.eta (outcome step state), herror] at hending
  exact hending.2

/-- A step that cannot fail succeeds. -/
theorem exists_ok {step : ExceptT ε (StateM σ) α}
    (hstep : Meets invariant step result fun _ => False) {state : σ} (hstate : invariant state) :
    ∃ value after, outcome step state = (.ok value, after) ∧ invariant after ∧ result value := by
  have hending := hstep state hstate
  cases houtcome : outcome step state with
  | mk answer after =>
      rw [houtcome] at hending
      cases answer with
      | ok value => exact ⟨value, after, rfl, hending⟩
      | error error => exact hending.2.elim

end Meets

/-! ## Steps that succeed -/

/-- A step that succeeds keeps the invariant. -/
def Keeps (invariant : σ → Prop) (step : ExceptT ε (StateM σ) α) : Prop :=
  ∀ before value after, invariant before → outcome step before = (.ok value, after) →
    invariant after

namespace Keeps

variable {invariant : σ → Prop}

protected theorem pure (value : α) :
    Keeps invariant (pure value : ExceptT ε (StateM σ) α) := by
  intro before other after hbefore houtcome
  cases houtcome
  exact hbefore

protected theorem throw (error : ε) :
    Keeps invariant (throw error : ExceptT ε (StateM σ) α) := by
  intro before value after hbefore houtcome
  cases houtcome

theorem of_meets {step : ExceptT ε (StateM σ) α} {result : α → Prop} {failure : ε → Prop}
    (hstep : Meets invariant step result failure) : Keeps invariant step := by
  intro before value after hbefore houtcome
  have hending := hstep before hbefore
  rw [houtcome] at hending
  exact hending.1

protected theorem bind {step : ExceptT ε (StateM σ) β} {next : β → ExceptT ε (StateM σ) α}
    (hstep : Keeps invariant step) (hnext : ∀ value, Keeps invariant (next value)) :
    Keeps invariant (step >>= next) := by
  intro before last after hbefore houtcome
  obtain ⟨value, middle, hfirst, hrest⟩ := outcome_bind_eq_ok_iff.mp houtcome
  exact hnext value middle last after (hstep before value middle hbefore hfirst) hrest

protected theorem mapM {step : β → ExceptT ε (StateM σ) α} (items : List β)
    (hstep : ∀ item ∈ items, Keeps invariant (step item)) :
    Keeps invariant (items.mapM step) := by
  induction items with
  | nil => exact Keeps.pure []
  | cons item rest ih =>
      rw [List.mapM_cons]
      refine Keeps.bind (hstep item (List.mem_cons_self ..)) fun first => ?_
      refine Keeps.bind (ih fun other hother => hstep other (List.mem_cons_of_mem _ hother))
        fun others => ?_
      exact Keeps.pure _

end Keeps

/-! ## Steps with one answer -/

/-- The step gives the same value in every state. -/
def Yields (step : ExceptT ε (StateM σ) α) (value : α) : Prop :=
  Meets (fun _ => True) step (· = value) fun _ => False

namespace Yields

variable {step : ExceptT ε (StateM σ) α} {value : α}

theorem fst_eq (hstep : Yields step value) (state : σ) : (outcome step state).1 = .ok value := by
  have hending := hstep state trivial
  cases houtcome : outcome step state with
  | mk answer after =>
      rw [houtcome] at hending
      cases answer with
      | ok other => exact congrArg Except.ok hending.2
      | error error => exact hending.2.elim

theorem unique {other : α} (hstep : Yields step value) {state : σ}
    (hother : (outcome step state).1 = .ok other) : other = value :=
  hstep.of_ok trivial hother

end Yields

/-! ## A step that does more -/

/-- Where the first step succeeds, the second one does the same. -/
def Extends (first second : ExceptT ε (StateM σ) α) : Prop :=
  ∀ state value after, outcome first state = (.ok value, after) →
    outcome second state = (.ok value, after)

namespace Extends

protected theorem refl (step : ExceptT ε (StateM σ) α) : Extends step step :=
  fun _ _ _ houtcome => houtcome

protected theorem throw (error : ε) (second : ExceptT ε (StateM σ) α) :
    Extends (throw error) second := by
  intro state value after houtcome
  cases houtcome

protected theorem bind {first second : ExceptT ε (StateM σ) β}
    {next next' : β → ExceptT ε (StateM σ) α} (hstep : Extends first second)
    (hnext : ∀ value, Extends (next value) (next' value)) :
    Extends (first >>= next) (second >>= next') := by
  intro state last after houtcome
  obtain ⟨value, middle, hfirst, hrest⟩ := outcome_bind_eq_ok_iff.mp houtcome
  rw [outcome_bind_ok (hstep state value middle hfirst)]
  exact hnext value middle last after hrest

protected theorem mapM {first second : β → ExceptT ε (StateM σ) α} (items : List β)
    (hstep : ∀ item ∈ items, Extends (first item) (second item)) :
    Extends (items.mapM first) (items.mapM second) := by
  induction items with
  | nil => exact Extends.refl _
  | cons item rest ih =>
      rw [List.mapM_cons, List.mapM_cons]
      refine Extends.bind (hstep item (List.mem_cons_self ..)) fun first => ?_
      refine Extends.bind (ih fun other hother => hstep other (List.mem_cons_of_mem _ hother))
        fun others => ?_
      exact Extends.refl _

end Extends

/-! ## Two steps side by side -/

/-- What two outcomes have to be: the same value or error, where a value is of the kind that is
expected, and related states. -/
structure Agree.At (related : σ → τ → Prop) (result : α → Prop) (first : Except ε α × σ)
    (second : Except ε α × τ) : Prop where
  answer_eq : first.1 = second.1
  result : ∀ value, first.1 = .ok value → result value
  related : related first.2 second.2

/-- In related states the steps give the same value or error and leave related states. -/
def Agree (related : σ → τ → Prop) (first : ExceptT ε (StateM σ) α)
    (second : ExceptT ε (StateM τ) α) (result : α → Prop) : Prop :=
  ∀ state state', related state state' →
    Agree.At related result (outcome first state) (outcome second state')

namespace Agree

variable {related : σ → τ → Prop} {result result' : α → Prop}

theorem mono {first : ExceptT ε (StateM σ) α} {second : ExceptT ε (StateM τ) α}
    (hstep : Agree related first second result) (hresult : ∀ value, result value → result' value) :
    Agree related first second result' := by
  intro state state' hrelated
  obtain ⟨hanswer, hvalue, hafter⟩ := hstep state state' hrelated
  exact ⟨hanswer, fun value heq => hresult value (hvalue value heq), hafter⟩

protected theorem pure {value : α} (hvalue : result value) :
    Agree related (pure value : ExceptT ε (StateM σ) α) (pure value : ExceptT ε (StateM τ) α)
      result :=
  fun _ _ hrelated => ⟨rfl, fun _ heq => Except.ok.inj heq ▸ hvalue, hrelated⟩

protected theorem throw (error : ε) :
    Agree related (throw error : ExceptT ε (StateM σ) α) (throw error : ExceptT ε (StateM τ) α)
      result :=
  fun _ _ hrelated => ⟨rfl, nofun, hrelated⟩

protected theorem bind {middle : β → Prop} {first : ExceptT ε (StateM σ) β}
    {second : ExceptT ε (StateM τ) β} {next : β → ExceptT ε (StateM σ) α}
    {next' : β → ExceptT ε (StateM τ) α} (hstep : Agree related first second middle)
    (hnext : ∀ value, middle value → Agree related (next value) (next' value) result) :
    Agree related (first >>= next) (second >>= next') result := by
  intro state state' hrelated
  have hstep := hstep state state' hrelated
  rw [outcome_bind, outcome_bind]
  generalize outcome first state = ending at hstep ⊢
  generalize outcome second state' = ending' at hstep ⊢
  obtain ⟨answer, after⟩ := ending
  obtain ⟨answer', after'⟩ := ending'
  obtain ⟨rfl, hmiddle, hafter⟩ := hstep
  cases answer with
  | ok value => exact hnext value (hmiddle value rfl) after after' hafter
  | error error => exact ⟨rfl, nofun, hafter⟩

/-- Steps over one list agree if they agree on each item. -/
protected theorem mapM {first : β → ExceptT ε (StateM σ) α} {second : β → ExceptT ε (StateM τ) α}
    (items : List β)
    (hstep : ∀ item ∈ items, Agree related (first item) (second item) fun _ => True) :
    Agree related (items.mapM first) (items.mapM second) fun _ => True := by
  induction items with
  | nil => exact Agree.pure trivial
  | cons item rest ih =>
      rw [List.mapM_cons, List.mapM_cons]
      refine Agree.bind (hstep item (List.mem_cons_self ..)) fun first _ => ?_
      refine Agree.bind (ih fun other hother => hstep other (List.mem_cons_of_mem _ hother))
        fun others _ => ?_
      exact Agree.pure trivial

end Agree

/-! ## Two steps that end alike -/

/-- In every state the steps end in the same way, with a value or an error of the kind that is
expected. -/
def EndsAlike (first second : ExceptT ε (StateM σ) α) (result : α → Prop) (failure : ε → Prop) :
    Prop :=
  ∀ state, outcome second state = outcome first state ∧
    Meets.At (fun _ => True) result failure (outcome first state)

namespace EndsAlike

variable {result : α → Prop} {failure : ε → Prop}

theorem of_meets {step : ExceptT ε (StateM σ) α}
    (hstep : Meets (fun _ => True) step result failure) : EndsAlike step step result failure :=
  fun state => ⟨rfl, hstep state trivial⟩

protected theorem pure {value : α} (hvalue : result value) :
    EndsAlike (pure value : ExceptT ε (StateM σ) α) (pure value) result failure :=
  of_meets (Meets.pure hvalue)

protected theorem bind {middle : β → Prop} {first second : ExceptT ε (StateM σ) β}
    {next next' : β → ExceptT ε (StateM σ) α} (hstep : EndsAlike first second middle failure)
    (hnext : ∀ value, middle value → EndsAlike (next value) (next' value) result failure) :
    EndsAlike (first >>= next) (second >>= next') result failure := by
  intro state
  obtain ⟨heq, hending⟩ := hstep state
  rw [outcome_bind, outcome_bind, heq]
  cases houtcome : outcome first state with
  | mk answer after =>
      rw [houtcome] at hending
      cases answer with
      | ok value => exact hnext value hending.2 after
      | error error => exact ⟨rfl, hending⟩

protected theorem mapM {first second : β → ExceptT ε (StateM σ) α} (items : List β)
    (hstep : ∀ item ∈ items, EndsAlike (first item) (second item) (fun _ => True) failure) :
    EndsAlike (items.mapM first) (items.mapM second) (fun _ => True) failure := by
  induction items with
  | nil => exact EndsAlike.pure trivial
  | cons item rest ih =>
      rw [List.mapM_cons, List.mapM_cons]
      refine EndsAlike.bind (hstep item (List.mem_cons_self ..)) fun first _ => ?_
      refine EndsAlike.bind (ih fun other hother => hstep other (List.mem_cons_of_mem _ hother))
        fun others _ => ?_
      exact EndsAlike.pure trivial

end EndsAlike

end GrammarFuzz

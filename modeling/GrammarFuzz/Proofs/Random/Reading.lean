import GrammarFuzz.Proofs.Step
import GrammarFuzz.Random.Source
import Mathlib.Data.Set.Insert

/-!
# Steps that read words

A step draws its random words from the source that its state holds.  What it does should depend on
nothing of the source but the words that it takes from the front.  `Reads` says what a step does
with given words, on every source that starts with them; `Local` says that every success of a step
is of that kind.

`Offers` adds which values a step can have: whatever the state, some words lead to a value exactly
if the value is in the set.  Where the state matters, `Reaches` says that some words lead to a value
from every state with an invariant.  All four are carried through the ways in which steps are built.
-/

namespace GrammarFuzz.Random

/-- A kind of state that holds a source. -/
class HoldsSource (σ : Type) where
  source : σ → Source
  /-- The state with another source. -/
  hold : σ → Source → σ
  source_hold : ∀ state other, source (hold state other) = other
  hold_source : ∀ state, hold state (source state) = state
  hold_hold : ∀ state first second, hold (hold state first) second = hold state second

attribute [simp] HoldsSource.source_hold HoldsSource.hold_source HoldsSource.hold_hold

/-- A source is all of its state. -/
instance : HoldsSource Source where
  source := id
  hold _ other := other
  source_hold _ _ := rfl
  hold_source _ := rfl
  hold_hold _ _ _ := rfl

theorem Source.reseed_reseed (source : Source) (first second : Int) :
    (source.reseed first).reseed second = source.reseed second := by
  cases source with
  | seeded twister left => simp only [reseed, ofSeed]
  | scripted script rest => simp only [reseed, ofWords]

/-! ## Words at the front of a source -/

/-- The source gives the words one after the other, and then it is `last`. -/
def Source.Gives : Source → List UInt32 → Source → Prop
  | first, [], last => first = last
  | first, word :: rest, last => ∃ next, first.next? = some (word, next) ∧ next.Gives rest last

namespace Source.Gives

variable {first last middle : Source} {words others : List UInt32}

theorem append (hwords : first.Gives words middle) (hothers : middle.Gives others last) :
    first.Gives (words ++ others) last := by
  induction words generalizing first with
  | nil =>
      rw [show first = middle from hwords]
      exact hothers
  | cons word rest ih =>
      obtain ⟨next, hnext, hrest⟩ := hwords
      exact ⟨next, hnext, ih hrest⟩

theorem exists_of_append (hgives : first.Gives (words ++ others) last) :
    ∃ middle, first.Gives words middle ∧ middle.Gives others last := by
  induction words generalizing first with
  | nil => exact ⟨first, rfl, hgives⟩
  | cons word rest ih =>
      obtain ⟨next, hnext, hrest⟩ := hgives
      obtain ⟨middle, hmiddle, hothers⟩ := ih hrest
      exact ⟨middle, ⟨next, hnext, hmiddle⟩, hothers⟩

/-- There are as many words less as were given. -/
theorem left_eq (hgives : first.Gives words last) : first.left = words.length + last.left := by
  induction words generalizing first with
  | nil => rw [show first = last from hgives, List.length_nil, Nat.zero_add]
  | cons word rest ih =>
      obtain ⟨next, hnext, hrest⟩ := hgives
      have hleft := left_next hnext
      rw [ih hrest] at hleft
      rw [List.length_cons]
      omega

/-- A source that has given words starts over as before. -/
theorem reseed_eq (hgives : first.Gives words last) (seed : Int) :
    last.reseed seed = first.reseed seed := by
  induction words generalizing first with
  | nil => rw [show first = last from hgives]
  | cons word rest ih =>
      obtain ⟨next, hnext, hrest⟩ := hgives
      rw [ih hrest]
      cases first with
      | seeded twister left =>
          cases left with
          | zero => cases hnext
          | succ left =>
              cases hnext
              rfl
      | scripted script rest =>
          cases rest with
          | nil => cases hnext
          | cons first rest =>
              cases hnext
              rfl

theorem scripted (script words rest : List UInt32) :
    (Source.scripted script (words ++ rest)).Gives words (.scripted script rest) := by
  induction words with
  | nil => rfl
  | cons word words ih => exact ⟨_, rfl, ih⟩

theorem ofWords (words : List UInt32) : (Source.ofWords words).Gives words (.scripted words []) := by
  have hgives := scripted words words []
  rwa [List.append_nil] at hgives

end Source.Gives

/-! ## Reading -/

variable {ε σ α β : Type} [HoldsSource σ]

open HoldsSource

/-- With these words at the front of its source the step turns one state into the other one and has
this value; whatever comes after the words is left. -/
def Reads (step : ExceptT ε (StateM σ) α) (before : σ) (words : List UInt32) (value : α)
    (after : σ) : Prop :=
  ∀ first last : Source, first.Gives words last →
    outcome step (hold before first) = (.ok value, hold after last)

/-- Whenever the step succeeds, it has read words from the front of its source, and all that it did
depends on these words. -/
def Local (step : ExceptT ε (StateM σ) α) : Prop :=
  ∀ before value after, outcome step before = (.ok value, after) →
    ∃ words, (source before).Gives words (source after) ∧ Reads step before words value after

namespace Reads

variable {step : ExceptT ε (StateM σ) α} {next : α → ExceptT ε (StateM σ) β}
  {before middle after : σ} {words others : List UInt32} {value : α} {last : β}

protected theorem pure (value : α) (state : σ) :
    Reads (pure value : ExceptT ε (StateM σ) α) state [] value state := by
  intro first last hgives
  rw [show first = last from hgives, outcome_pure]

protected theorem bind (hstep : Reads step before words value middle)
    (hnext : Reads (next value) middle others last after) :
    Reads (step >>= next) before (words ++ others) last after := by
  intro first end_ hgives
  obtain ⟨source, hwords, hothers⟩ := hgives.exists_of_append
  rw [outcome_bind_ok (hstep first source hwords)]
  exact hnext source end_ hothers

/-- A second step that needs no words. -/
theorem bind_nil (hstep : Reads step before words value middle)
    (hnext : Reads (next value) middle [] last after) :
    Reads (step >>= next) before words last after := by
  have hreads := hstep.bind hnext
  rwa [List.append_nil] at hreads

/-- A step whose value is only wrapped up. -/
theorem bind_pure {wrap : α → β} {result : β} (hstep : Reads step before words value after)
    (hresult : wrap value = result) :
    Reads (step >>= fun value => pure (wrap value)) before words result after := by
  refine hstep.bind_nil ?_
  rw [hresult]
  exact Reads.pure result after

/-- A step that first reads the state, but nothing of its source. -/
theorem get_bind {next : σ → ExceptT ε (StateM σ) β}
    (hsource : ∀ other, next (hold before other) = next before)
    (hnext : Reads (next before) before words last after) :
    Reads (get >>= next) before words last after := by
  intro first end_ hgives
  rw [outcome_get_bind, hsource]
  exact hnext first end_ hgives

/-- A step that first changes the state, but nothing of its source. -/
theorem modify_bind {change : σ → σ} {next : PUnit → ExceptT ε (StateM σ) β}
    (hsource : ∀ other, change (hold before other) = hold (change before) other)
    (hnext : Reads (next ⟨⟩) (change before) words last after) :
    Reads (modify change >>= next) before words last after := by
  intro first end_ hgives
  rw [outcome_modify_bind, hsource]
  exact hnext first end_ hgives

/-- On a script of just these words, all of them are used up. -/
theorem outcome_ofWords (hreads : Reads step before words value after) :
    outcome step (hold before (.ofWords words)) = (.ok value, hold after (.scripted words [])) :=
  hreads _ _ (.ofWords words)

end Reads

/-! ## Steps that depend on nothing else -/

namespace Local

variable {step : ExceptT ε (StateM σ) α} {next : α → ExceptT ε (StateM σ) β}

protected theorem pure (value : α) : Local (pure value : ExceptT ε (StateM σ) α) := by
  intro before other after houtcome
  rw [outcome_pure] at houtcome
  obtain ⟨⟨rfl⟩, rfl⟩ := Prod.mk.inj houtcome
  exact ⟨[], rfl, Reads.pure _ _⟩

protected theorem throw (error : ε) : Local (throw error : ExceptT ε (StateM σ) α) := by
  intro before value after houtcome
  cases houtcome

/-- A value that the step has in a state is one that words lead to. -/
theorem exists_reads (hstep : Local step) {state : σ} {value : α}
    (houtcome : (outcome step state).1 = .ok value) :
    ∃ words after, Reads step state words value after := by
  obtain ⟨words, -, hreads⟩ := hstep state value (outcome step state).2 (Prod.ext houtcome rfl)
  exact ⟨words, _, hreads⟩

/-- Only the values that the first step can have matter to the second one. -/
theorem bind_of_reads (hstep : Local step)
    (hnext : ∀ before words value after, Reads step before words value after →
      Local (next value)) :
    Local (step >>= next) := by
  intro before last after houtcome
  obtain ⟨value, middle, hfirst, hlast⟩ := outcome_bind_eq_ok_iff.mp houtcome
  obtain ⟨words, hgives, hreads⟩ := hstep before value middle hfirst
  obtain ⟨others, hothers, hrest⟩ :=
    hnext before words value middle hreads middle last after hlast
  exact ⟨words ++ others, hgives.append hothers, hreads.bind hrest⟩

protected theorem bind (hstep : Local step) (hnext : ∀ value, Local (next value)) :
    Local (step >>= next) :=
  hstep.bind_of_reads fun _ _ value _ _ => hnext value

theorem get_bind {next : σ → ExceptT ε (StateM σ) β}
    (hsource : ∀ state other, next (hold state other) = next state)
    (hnext : ∀ state, Local (next state)) : Local (get >>= next) := by
  intro before last after houtcome
  rw [outcome_get_bind] at houtcome
  obtain ⟨words, hgives, hreads⟩ := hnext before before last after houtcome
  exact ⟨words, hgives, hreads.get_bind (hsource before)⟩

theorem modify_bind {change : σ → σ} {next : PUnit → ExceptT ε (StateM σ) β}
    (hchange : ∀ state, source (change state) = source state)
    (hsource : ∀ state other, change (hold state other) = hold (change state) other)
    (hnext : Local (next ⟨⟩)) : Local (modify change >>= next) := by
  intro before last after houtcome
  rw [outcome_modify_bind] at houtcome
  obtain ⟨words, hgives, hreads⟩ := hnext (change before) last after houtcome
  rw [hchange] at hgives
  exact ⟨words, hgives, hreads.modify_bind (hsource before)⟩

end Local

/-! ## The values of a step -/

/-- All that the step does depends on the words that it reads, and whatever the state, some words
lead to a value exactly if the value is in the set. -/
structure Offers (step : ExceptT ε (StateM σ) α) (values : Set α) : Prop where
  isLocal : Local step
  reads_iff : ∀ before value,
    (∃ words after, Reads step before words value after) ↔ value ∈ values

namespace Offers

variable {step : ExceptT ε (StateM σ) α} {next : α → ExceptT ε (StateM σ) β} {values : Set α}

/-- The values of a success are among those that are offered. -/
theorem mem_of_outcome (hoffers : Offers step values) {state : σ} {value : α}
    (houtcome : (outcome step state).1 = .ok value) : value ∈ values :=
  (hoffers.reads_iff state value).mp (hoffers.isLocal.exists_reads houtcome)

protected theorem pure (value : α) : Offers (pure value : ExceptT ε (StateM σ) α) {value} where
  isLocal := .pure value
  reads_iff before other := by
    constructor
    · rintro ⟨words, after, hreads⟩
      have houtcome := hreads.outcome_ofWords
      rw [outcome_pure] at houtcome
      exact (Except.ok.inj (congrArg Prod.fst houtcome)).symm
    · intro hother
      rw [Set.mem_singleton_iff.mp hother]
      exact ⟨[], before, Reads.pure value before⟩

protected theorem throw (error : ε) : Offers (throw error : ExceptT ε (StateM σ) α) ∅ where
  isLocal := .throw error
  reads_iff before value := by
    constructor
    · rintro ⟨words, after, hreads⟩
      cases hreads.outcome_ofWords
    · exact fun hvalue => hvalue.elim

protected theorem bind {results : α → Set β} (hstep : Offers step values)
    (hnext : ∀ value ∈ values, Offers (next value) (results value)) :
    Offers (step >>= next) {last | ∃ value ∈ values, last ∈ results value} where
  isLocal := hstep.isLocal.bind_of_reads fun before words value after hreads =>
    (hnext value ((hstep.reads_iff before value).mp ⟨words, after, hreads⟩)).isLocal
  reads_iff before last := by
    constructor
    · rintro ⟨words, after, hreads⟩
      -- the run on just these words passes through a value of the first step
      obtain ⟨value, middle, hfirst, hrest⟩ := outcome_bind_eq_ok_iff.mp hreads.outcome_ofWords
      have hvalue := hstep.mem_of_outcome (congrArg Prod.fst hfirst)
      exact ⟨value, hvalue, (hnext value hvalue).mem_of_outcome (congrArg Prod.fst hrest)⟩
    · rintro ⟨value, hvalue, hlast⟩
      obtain ⟨words, middle, hreads⟩ := (hstep.reads_iff before value).mpr hvalue
      obtain ⟨others, after, hrest⟩ := ((hnext value hvalue).reads_iff middle last).mpr hlast
      exact ⟨words ++ others, after, hreads.bind hrest⟩

/-- A step that first changes the state, but nothing of its source. -/
theorem modify_bind {change : σ → σ} {next : PUnit → ExceptT ε (StateM σ) β} {values : Set β}
    (hchange : ∀ state, source (change state) = source state)
    (hsource : ∀ state other, change (hold state other) = hold (change state) other)
    (hnext : Offers (next ⟨⟩) values) : Offers (modify change >>= next) values where
  isLocal := .modify_bind hchange hsource hnext.isLocal
  reads_iff before value := by
    rw [← hnext.reads_iff (change before) value]
    constructor
    · rintro ⟨words, after, hreads⟩
      refine ⟨words, after, fun first last hgives => ?_⟩
      rw [← hsource, ← hreads first last hgives, outcome_modify_bind]
    · rintro ⟨words, after, hreads⟩
      exact ⟨words, after, hreads.modify_bind (hsource before)⟩

/-- A value that is only wrapped up. -/
theorem map (hstep : Offers step values) (wrap : α → β) :
    Offers (step >>= fun value => pure (wrap value)) (wrap '' values) := by
  have hoffers : Offers (step >>= fun value => pure (wrap value))
      {last | ∃ value ∈ values, last ∈ ({wrap value} : Set β)} :=
    hstep.bind fun value _ => Offers.pure (wrap value)
  refine ⟨hoffers.isLocal, fun before last => (hoffers.reads_iff before last).trans ?_⟩
  simp only [Set.mem_ofPred_eq, Set.mem_singleton_iff, Set.mem_image, eq_comm]

theorem of_eq {others : Set α} (hoffers : Offers step values) (heq : values = others) :
    Offers step others :=
  heq ▸ hoffers

end Offers

/-! ## Values in reach -/

/-- From every state with the invariant some words lead to the value, and to a state with the
invariant again. -/
def Reaches (invariant : σ → Prop) (step : ExceptT ε (StateM σ) α) (value : α) : Prop :=
  ∀ before, invariant before → ∃ words after, invariant after ∧ Reads step before words value after

namespace Reaches

variable {invariant : σ → Prop} {step : ExceptT ε (StateM σ) α}
  {next : α → ExceptT ε (StateM σ) β} {value : α} {last : β}

protected theorem pure (value : α) :
    Reaches invariant (pure value : ExceptT ε (StateM σ) α) value :=
  fun before hbefore => ⟨[], before, hbefore, Reads.pure value before⟩

protected theorem bind (hstep : Reaches invariant step value)
    (hnext : Reaches invariant (next value) last) : Reaches invariant (step >>= next) last := by
  intro before hbefore
  obtain ⟨words, middle, hmiddle, hreads⟩ := hstep before hbefore
  obtain ⟨others, after, hafter, hrest⟩ := hnext middle hmiddle
  exact ⟨words ++ others, after, hafter, hreads.bind hrest⟩

/-- A value that is only wrapped up. -/
protected theorem map (hstep : Reaches invariant step value) (wrap : α → β) :
    Reaches invariant (step >>= fun value => pure (wrap value)) (wrap value) :=
  hstep.bind (.pure _)

/-- Each of the items has its value in reach. -/
protected theorem mapM {step : β → ExceptT ε (StateM σ) α} {items : List β} {values : List α}
    (hsteps : List.Forall₂ (fun item value => Reaches invariant (step item) value) items values) :
    Reaches invariant (items.mapM step) values := by
  induction hsteps with
  | nil => exact Reaches.pure []
  | cons hstep _ ih =>
      rw [List.mapM_cons]
      exact hstep.bind (ih.map _)

end Reaches

theorem Offers.reaches {step : ExceptT ε (StateM σ) α} {values : Set α}
    (hoffers : Offers step values) {value : α} (hvalue : value ∈ values) :
    Reaches (fun _ => True) step value := by
  intro before _
  obtain ⟨words, after, hreads⟩ := (hoffers.reads_iff before value).mpr hvalue
  exact ⟨words, after, trivial, hreads⟩

end GrammarFuzz.Random

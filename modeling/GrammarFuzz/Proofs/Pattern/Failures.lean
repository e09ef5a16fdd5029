import GrammarFuzz.Proofs.Pattern.Sampling
import GrammarFuzz.Proofs.Random.Failures

/-!
# Why a pattern gives no text

A pattern that can be read may still give no text.  Either the words give out, or the drawing comes
to an item that no text is drawn from (`Item.Blocked`): an item that texts cannot be drawn from at
all, a reference, a set with nothing in it, or a repetition whose bounds leave no count.  Or all is
drawn, but there are surrogates in it.

The induction is on items, lists of items and lists of alternatives at once, as the drawing itself
is.  A negated look is not entered, so what is inside it never blocks.

Proofs about trees do not look into a sampler.  What they use of it, locality and these failures, is
`DrawsTexts`.
-/

namespace GrammarFuzz

namespace Random.Draw

/-- A number between two bounds is found if there is one, unless the words give out. -/
theorem between_fails (low high : Int) :
    Meets (fun _ => True) (between low high) (fun _ => True)
      fun error => error = .exhausted ∨ high < low ∧ error = .emptyRange low high := by
  unfold between
  split
  · rename_i hempty
    exact Meets.throw (Or.inr ⟨hempty, rfl⟩)
  · exact Meets.bind ((below_starves _).mono (fun _ => id) fun _ => Or.inl) fun _ _ =>
      Meets.pure trivial

/-- An item of a list is found if there is one, unless the words give out. -/
theorem pick_fails {α : Type} (failure : DrawError) (items : List α) :
    Meets (fun _ => True) (pick failure items) (fun _ => True)
      fun error => error = .exhausted ∨ items = [] ∧ error = failure := by
  unfold pick
  by_cases hitems : items.isEmpty = true
  · rw [if_pos hitems]
    exact Meets.throw (Or.inr ⟨List.isEmpty_iff.mp hitems, rfl⟩)
  · rw [if_neg hitems]
    exact Meets.bind ((below_starves _).mono (fun _ => id) fun _ => Or.inl) fun _ _ =>
      Meets.pure trivial

end Random.Draw

namespace Pattern

open GrammarFuzz.Random

/-! ## Items that block -/

/-- Drawing a text of an item may draw a text of this part of it. -/
inductive Item.Draws : Item → Item → Prop where
  | look {behind : Bool} {body : List Item} {part : Item} (hpart : part ∈ body) :
      Draws (.look behind false body) part
  | branch {alternatives : List (List Item)} {alternative : List Item} {part : Item}
      (halternative : alternative ∈ alternatives) (hpart : part ∈ alternative) :
      Draws (.branch alternatives) part
  | group {number : Option Nat} {added removed : Flags} {body : List Item} {part : Item}
      (hpart : part ∈ body) : Draws (.group number added removed body) part
  | repetition {greed : Greed} {least : Nat} {most : Option Nat} {body : List Item} {part : Item}
      (hgreed : greed ≠ .possessive) (hpart : part ∈ body) :
      Draws (.repetition greed least most body) part

/-- The greatest count of a repetition: its own bound, and no more than so many above the least. -/
def mostCount (maxRepeat : Int) (least : Nat) (most : Option Nat) : Int :=
  min ((most.getD unbounded : Nat) : Int) ((least : Int) + maxRepeat)

/-- No text is drawn from the item itself, whatever its parts are. -/
inductive Item.Blocks (maxRepeat : Int) : Item → SampleError → Prop where
  | nothingInside {members : List SetMember} (hempty : setSize members = 0) :
      Blocks maxRepeat (.oneOf false members) (.draw .emptyChoice)
  | nothingOutside {members : List SetMember} (hempty : complement members = []) :
      Blocks maxRepeat (.oneOf true members) (.draw .emptyChoice)
  | noAlternative : Blocks maxRepeat (.branch []) (.draw .emptyChoice)
  | reference (number : Nat) : Blocks maxRepeat (.reference number) (.noGroupText number)
  | counts {greed : Greed} {least : Nat} {most : Option Nat} {body : List Item}
      (hcounts : mostCount maxRepeat least most < least) :
      Blocks maxRepeat (.repetition greed least most body)
        (.draw (.emptyRange least (mostCount maxRepeat least most)))
  | possessive (least : Nat) (most : Option Nat) (body : List Item) :
      Blocks maxRepeat (.repetition .possessive least most body) (.unsupported "possessive_repeat")
  | atomic (body : List Item) : Blocks maxRepeat (.atomic body) (.unsupported "atomic_group")
  | conditional (number : Nat) (yes : List Item) (no : Option (List Item)) :
      Blocks maxRepeat (.conditional number yes no) (.unsupported "groupref_exists")

/-- Drawing a text of an item may come to one that blocks. -/
inductive Item.Blocked (maxRepeat : Int) : Item → SampleError → Prop where
  | own {item : Item} {error : SampleError} (hblocks : item.Blocks maxRepeat error) :
      Blocked maxRepeat item error
  | inside {item part : Item} {error : SampleError} (hdraws : item.Draws part)
      (hpart : Blocked maxRepeat part error) : Blocked maxRepeat item error

/-- The words gave out, or the drawing came to an item that blocks. -/
def Item.FailsBy (maxRepeat : Int) (items : List Item) (error : SampleError) : Prop :=
  error = .draw .exhausted ∨ ∃ item ∈ items, item.Blocked maxRepeat error

theorem Item.FailsBy.mono {maxRepeat : Int} {items others : List Item} {error : SampleError}
    (hfails : FailsBy maxRepeat items error) (hsubset : ∀ item ∈ items, item ∈ others) :
    FailsBy maxRepeat others error := by
  rcases hfails with hwords | ⟨item, hitem, hblocked⟩
  · exact Or.inl hwords
  · exact Or.inr ⟨item, hsubset item hitem, hblocked⟩

/-- What blocks inside an item blocks the item. -/
theorem Item.FailsBy.outside {maxRepeat : Int} {item : Item} {parts : List Item}
    {error : SampleError} (hfails : FailsBy maxRepeat parts error)
    (hdraws : ∀ part ∈ parts, item.Draws part) : FailsBy maxRepeat [item] error := by
  rcases hfails with hwords | ⟨part, hpart, hblocked⟩
  · exact Or.inl hwords
  · exact Or.inr ⟨item, List.mem_cons_self, .inside (hdraws part hpart) hblocked⟩

theorem Item.FailsBy.own {maxRepeat : Int} {item : Item} {error : SampleError}
    (hblocks : item.Blocks maxRepeat error) : FailsBy maxRepeat [item] error :=
  Or.inr ⟨item, List.mem_cons_self, .own hblocks⟩

/-! ## Steps -/

namespace Sample

variable {α : Type} {failure : SampleError → Prop}

theorem draw_meets {draw : Draw α} {result : α → Prop} {failed : DrawError → Prop}
    (hdraw : Meets (fun _ => True) draw result failed)
    (hfailure : ∀ error, failed error → failure (.draw error)) :
    Meets (fun _ => True) (Sample.draw draw) result failure := by
  intro state _
  have hending := hdraw state.source trivial
  rw [outcome_draw]
  cases houtcome : outcome draw state.source with
  | mk answer source =>
      rw [houtcome] at hending
      cases answer with
      | ok value => exact ⟨trivial, hending.2⟩
      | error error => exact ⟨trivial, hfailure error hending.2⟩

theorem repeated_meets {step : Sample (List Nat)}
    (hstep : Meets (fun _ => True) step (fun _ => True) failure) (count : Nat) :
    Meets (fun _ => True) (repeated step count) (fun _ => True) failure := by
  induction count with
  | zero => exact Meets.pure trivial
  | succ count ih =>
      unfold repeated
      exact Meets.bind hstep fun _ _ => Meets.bind ih fun _ _ => Meets.pure trivial

/-- A code point of a list that is not empty is found unless the words give out. -/
theorem pick_meets {items : List Nat} (hne : items ≠ []) {parts : List Item} {maxRepeat : Int} :
    Meets (fun _ => True)
      (do return [← Sample.draw (Draw.pick .emptyChoice items)] : Sample (List Nat))
      (fun _ => True) (Item.FailsBy maxRepeat parts) := by
  refine Meets.bind (draw_meets (Draw.pick_fails _ _) fun error herror => ?_) fun _ _ =>
    Meets.pure trivial
  rcases herror with rfl | ⟨hempty, -⟩
  · exact Or.inl rfl
  · exact absurd hempty hne

end Sample

theorem exists_printable_ne (value : Nat) : printable.filter (· ≠ value) ≠ [] := by
  intro hempty
  have hall : ∀ c ∈ printable, c = value := by
    intro c hc
    by_contra hne
    have hmem : c ∈ printable.filter (· ≠ value) :=
      List.mem_filter.mpr ⟨hc, by simpa using hne⟩
    rw [hempty] at hmem
    cases hmem
  have hfirst : '0'.toNat = value := hall _ (by decide +kernel)
  have hsecond : '1'.toNat = value := hall _ (by decide +kernel)
  exact absurd (hfirst.trans hsecond.symm) (by decide)

theorem exists_printable_visible : printable.filter (· ≠ '\n'.toNat) ≠ [] := by
  have hmem : '0'.toNat ∈ printable.filter (· ≠ '\n'.toNat) :=
    List.mem_filter.mpr ⟨by decide +kernel, by decide⟩
  exact List.ne_nil_of_mem hmem

namespace Item

variable {maxRepeat : Int}

theorem oneOf_fails (negated : Bool) (members : List SetMember) :
    Meets (fun _ => True) (Sample.oneOf negated members) (fun _ => True)
      (FailsBy maxRepeat [.oneOf negated members]) := by
  unfold Sample.oneOf
  cases negated with
  | true =>
      refine Meets.bind (Sample.draw_meets (Draw.pick_fails _ _) fun error herror => ?_) fun _ _ =>
        Meets.pure trivial
      rcases herror with rfl | ⟨hempty, rfl⟩
      · exact Or.inl rfl
      · exact .own (.nothingOutside hempty)
  | false =>
      rw [if_neg Bool.false_ne_true]
      by_cases hsize : setSize members = 0
      · rw [if_pos hsize]
        exact Meets.throw (.own (.nothingInside hsize))
      · rw [if_neg hsize]
        refine Meets.bind (Sample.draw_meets (Draw.below_starves _) fun error herror => ?_)
          fun _ _ => Meets.pure trivial
        rw [herror]
        exact Or.inl rfl

/-- Counts are drawn first, then the texts. -/
theorem repetition_fails {greed : Greed} {least : Nat} {most : Option Nat} {body : List Item}
    (hgreed : greed ≠ .possessive)
    (hbody : Meets (fun _ => True) (sampleSequence maxRepeat body) (fun _ => True)
      (FailsBy maxRepeat body)) :
    Meets (fun _ => True) (do
      let count ← Sample.draw (Draw.between least (mostCount maxRepeat least most))
      Sample.repeated (sampleSequence maxRepeat body) count.toNat)
      (fun _ => True) (FailsBy maxRepeat [.repetition greed least most body]) := by
  refine Meets.bind (Sample.draw_meets (Draw.between_fails _ _) fun error herror => ?_)
    fun count _ => ?_
  · rcases herror with rfl | ⟨hcounts, rfl⟩
    · exact Or.inl rfl
    · exact .own (.counts hcounts)
  · refine (Sample.repeated_meets hbody count.toNat).mono (fun _ => id) fun _ herror => ?_
    exact herror.outside fun part hpart => .repetition hgreed hpart

mutual

theorem sample_fails : (item : Item) →
    Meets (fun _ => True) (item.sample maxRepeat) (fun _ => True) (FailsBy maxRepeat [item])
  | point value => by
      rw [sample]
      exact Meets.pure trivial
  | notPoint value => by
      rw [sample]
      exact Sample.pick_meets (exists_printable_ne value)
  | any => by
      rw [sample]
      exact Sample.pick_meets exists_printable_visible
  | oneOf negated members => by
      rw [sample]
      exact oneOf_fails negated members
  | anchor kind => by
      rw [sample]
      exact Meets.pure trivial
  | look behind negated body => by
      rw [sample]
      cases negated with
      | true => exact Meets.pure trivial
      | false =>
          exact (sampleSequence_fails body).mono (fun _ => id) fun _ herror =>
            herror.outside fun part hpart => .look hpart
  | branch alternatives => by
      rw [sample]
      have hnext : Meets (fun _ => True) (do
          let place ← Sample.draw (Draw.below alternatives.length)
          sampleAlternative maxRepeat place alternatives) (fun _ => True)
          (FailsBy maxRepeat [.branch alternatives]) := by
        refine Meets.bind (Sample.draw_meets (Draw.below_starves _) fun error herror => ?_)
          fun place _ => (sampleAlternative_fails place alternatives place.isLt).mono
            (fun _ => id) fun _ herror => herror.outside fun part hpart => ?_
        · rw [herror]
          exact Or.inl rfl
        · obtain ⟨alternative, halternative, hmem⟩ := List.mem_flatten.mp hpart
          exact .branch halternative hmem
      split
      · rename_i hempty
        have hthrow : Meets (fun _ => True) (throw (.draw .emptyChoice) : Sample PUnit)
            (fun _ => True) (FailsBy maxRepeat [.branch alternatives]) := by
          rw [List.isEmpty_iff.mp hempty]
          exact Meets.throw (.own .noAlternative)
        exact Meets.bind hthrow fun _ _ => hnext
      · exact hnext
  | group number added removed body => by
      rw [sample]
      have hbody : Meets (fun _ => True) (sampleSequence maxRepeat body) (fun _ => True)
          (FailsBy maxRepeat [.group number added removed body]) :=
        (sampleSequence_fails body).mono (fun _ => id) fun _ herror =>
          herror.outside fun part hpart => .group hpart
      refine Meets.bind hbody fun text _ => ?_
      cases number with
      | none => exact Meets.pure trivial
      | some number => exact Meets.modify_bind (fun _ => id) (Meets.pure trivial)
  | reference number => by
      rw [sample]
      refine Meets.get_bind fun state _ => ?_
      split
      · exact ⟨trivial, trivial⟩
      · exact ⟨trivial, .own (.reference number)⟩
  | repetition .possessive least most body => by
      rw [sample]
      exact Meets.throw (.own (.possessive least most body))
  | repetition .greedy least most body => by
      rw [sample]
      · exact repetition_fails nofun (sampleSequence_fails body)
      · nofun
  | repetition .reluctant least most body => by
      rw [sample]
      · exact repetition_fails nofun (sampleSequence_fails body)
      · nofun
  | atomic body => by
      rw [sample]
      exact Meets.throw (.own (.atomic body))
  | conditional number yes no => by
      rw [sample]
      exact Meets.throw (.own (.conditional number yes no))

theorem sampleSequence_fails : (items : List Item) →
    Meets (fun _ => True) (sampleSequence maxRepeat items) (fun _ => True)
      (FailsBy maxRepeat items)
  | [] => by
      rw [sampleSequence]
      exact Meets.pure trivial
  | item :: rest => by
      rw [sampleSequence]
      have hitem : Meets (fun _ => True) (item.sample maxRepeat) (fun _ => True)
          (FailsBy maxRepeat (item :: rest)) :=
        (sample_fails item).mono (fun _ => id) fun _ herror => herror.mono (by simp)
      have hrest : Meets (fun _ => True) (sampleSequence maxRepeat rest) (fun _ => True)
          (FailsBy maxRepeat (item :: rest)) :=
        (sampleSequence_fails rest).mono (fun _ => id) fun _ herror =>
          herror.mono fun _ => List.mem_cons_of_mem _
      exact Meets.bind hitem fun _ _ => Meets.bind hrest fun _ _ => Meets.pure trivial

theorem sampleAlternative_fails (place : Nat) : (alternatives : List (List Item)) →
    place < alternatives.length →
    Meets (fun _ => True) (sampleAlternative maxRepeat place alternatives) (fun _ => True)
      (FailsBy maxRepeat alternatives.flatten)
  | [], hplace => absurd hplace (Nat.not_lt_zero place)
  | alternative :: rest, hplace => by
      cases place with
      | zero =>
          rw [sampleAlternative]
          exact (sampleSequence_fails alternative).mono (fun _ => id) fun _ herror =>
            herror.mono fun _ => List.mem_append_left _
      | succ place =>
          rw [sampleAlternative]
          have hrest : place < rest.length := Nat.lt_of_succ_lt_succ hplace
          exact (sampleAlternative_fails place rest hrest).mono (fun _ => id) fun _ herror =>
            herror.mono fun _ => List.mem_append_right _

end

end Item

namespace Sampler

/-- The sampler draws surrogates in some state, which are in no text. -/
def DrawsSurrogates (sampler : Sampler) : Prop :=
  ∃ state points, (outcome sampler.points state).1 = .ok points ∧ Text.ofPoints? points = none

theorem points_fails (sampler : Sampler) :
    Meets (fun _ => True) sampler.points (fun _ => True)
      (Item.FailsBy sampler.maxRepeat sampler.tree.items) :=
  Meets.bind (Item.sampleSequence_fails sampler.tree.items) fun _ _ =>
    Meets.modify_bind (fun _ => id) (Meets.pure trivial)

/-- Why the sampler gives no text: for want of words, because an item blocks, or because there are
surrogates in what is drawn. -/
def FailsBy (sampler : Sampler) (error : SampleError) : Prop :=
  Item.FailsBy sampler.maxRepeat sampler.tree.items error ∨
    error = .surrogates ∧ sampler.DrawsSurrogates

/-- **A sampler gives no text for one of three reasons.** -/
theorem sample_fails (sampler : Sampler) :
    Meets (fun _ => True) sampler.sample (fun _ => True) sampler.FailsBy := by
  intro state _
  have hending := sampler.points_fails state trivial
  unfold sample
  rw [outcome_bind]
  cases hpoints : outcome sampler.points state with
  | mk answer middle =>
      rw [hpoints] at hending
      cases answer with
      | error error => exact ⟨trivial, Or.inl hending.2⟩
      | ok points =>
          dsimp only
          split
          · exact ⟨trivial, trivial⟩
          · rename_i hnone
            exact ⟨trivial, Or.inr ⟨rfl, state, points, congrArg Prod.fst hpoints, hnone⟩⟩

end Sampler

/-! ## What is used of a sampler -/

/-- What proofs about trees use of a step that draws a text.  Another way to draw texts from
patterns would do as well, if it keeps to this. -/
structure DrawsTexts (step : Sample String) (failure : SampleError → Prop) : Prop where
  /-- A text depends on the words that are read and on what groups have left. -/
  isLocal : Local step
  /-- A text leaves nothing of groups. -/
  memory_eq_nil : ∀ {before after : SampleState} {text : String},
    outcome step before = (.ok text, after) → after.memory = []
  fails : ∀ {state : SampleState} {error : SampleError},
    (outcome step state).1 = .error error → failure error

theorem Sampler.drawsTexts (sampler : Sampler) : DrawsTexts sampler.sample sampler.FailsBy where
  isLocal := sampler.sample_local
  memory_eq_nil := memory_eq_nil
  fails := sampler.sample_fails.of_error trivial

end Pattern

end GrammarFuzz

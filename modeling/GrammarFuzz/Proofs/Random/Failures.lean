import GrammarFuzz.Proofs.Exact
import GrammarFuzz.Proofs.Random.Draw
import GrammarFuzz.Random.Poisson

/-!
# Why draws fail

Every draw may come to the end of its source.  Apart from that an item of a list is always found,
because the place that is drawn lies within the list, whatever the weights are
(`bisect_le`).  What is left is arithmetic: weights whose total is no positive quantity, and a mean
that is none (`weighted_fails`, `poisson_fails`).  In exact arithmetic positive weights have a
positive total (`Exact.weighable`), so nothing but the source is left.
-/

namespace GrammarFuzz.Random

/-- A number was not of the kind that a draw needs. -/
def DrawError.IsNumeric : DrawError → Prop
  | .totalNotPositive | .totalNotFinite | .tooLarge | .negativeMean _ => True
  | _ => False

namespace Draw

variable {α β : Type}

/-- The draw fails for want of words only. -/
def Starves (draw : Draw α) : Prop :=
  Meets (fun _ => True) draw (fun _ => True) (· = .exhausted)

namespace Starves

protected theorem pure (value : α) : Starves (pure value) := Meets.pure trivial

protected theorem bind {draw : Draw α} {next : α → Draw β} (hdraw : Starves draw)
    (hnext : ∀ value, Starves (next value)) : Starves (draw >>= next) :=
  Meets.bind hdraw fun value _ => hnext value

theorem get_bind {next : Source → Draw α} (hnext : ∀ source, Starves (next source)) :
    Starves (get >>= next) :=
  Meets.get_bind fun source _ => hnext source source trivial

end Starves

/-! ## Words and bits -/

theorem word_starves : Starves word := by
  refine Meets.get_bind fun source _ => ?_
  cases source.next? with
  | none => exact ⟨trivial, rfl⟩
  | some pair => exact ⟨trivial, trivial⟩

theorem bits_starves (count : Nat) : Starves (bits count) := by
  induction count using Nat.strong_induction_on with
  | _ count ih =>
      rw [bits]
      split
      · exact word_starves.bind fun _ => .pure _
      · have hhigh : Starves (bits (count - 32)) := ih (count - 32) (by omega)
        exact word_starves.bind fun _ => hhigh.bind fun _ => .pure _

theorem belowLoop_starves (bound fuel : Nat) : Starves (belowLoop bound fuel) := by
  induction fuel with
  | zero => exact Meets.throw rfl
  | succ fuel ih =>
      rw [belowLoop]
      refine (bits_starves _).bind fun value => ?_
      split
      · exact .pure _
      · exact ih

theorem below_starves (bound : Nat) : Starves (below bound) :=
  .get_bind fun source => belowLoop_starves bound (source.left + 1)

theorem unit_starves [Scalar α] : Starves (unit α) := by
  have hfraction : Starves fraction :=
    (bits_starves 27).bind fun _ => (bits_starves 26).bind fun _ => .pure _
  exact hfraction.bind fun _ => .pure _

/-! ## Items of a list -/

/-- An item of a list is found unless the words give out. -/
theorem uniform_fails {items : List α} (hne : items ≠ []) :
    Meets (fun _ => True) (uniform items) (· ∈ items) (· = .exhausted) := by
  have hempty : items.isEmpty = false := List.isEmpty_eq_false_iff.mpr hne
  rw [uniform, pick, hempty, if_neg Bool.false_ne_true]
  exact Meets.bind (below_starves _) fun place _ => Meets.pure (List.get_mem items place)

theorem bisect_le [Scalar α] (sums : Array α) (point : α) {low high : Nat} (hle : low ≤ high) :
    bisect sums point low high ≤ high := by
  induction low, high using bisect.induct sums point with
  | case1 low high hlt middle habove ih =>
      rw [bisect, if_pos hlt, if_pos habove]
      exact (ih (by omega)).trans (by omega)
  | case2 low high hlt middle habove ih =>
      rw [bisect, if_pos hlt, if_neg habove]
      exact ih (by omega)
  | case3 low high hlt =>
      rw [bisect, if_neg hlt]
      exact hle

/-- The total of the weights is a positive quantity. -/
def Weighable [Scalar α] (weights : List α) : Prop :=
  ∀ total ∈ (sums weights).getLast?, ∃ measured, Scalar.measure? total = some measured ∧
    Scalar.lt (Scalar.ofNat 0) measured = true ∧ Scalar.isFinite measured = true

/-- **A weighted draw among some items, each with its weight, finds one of them**, unless the words
give out or the weights have no total to draw from. -/
theorem weighted_fails [Scalar α] {items : List β} {weights : List α}
    (hlength : items.length = weights.length) (hne : items ≠ []) :
    Meets (fun _ => True) (weighted items weights) (· ∈ items)
      fun error => error = .exhausted ∨ error.IsNumeric ∧ ¬ Weighable weights := by
  have hnumeric : ∀ error : DrawError, error.IsNumeric → ¬ Weighable weights →
      error = .exhausted ∨ error.IsNumeric ∧ ¬ Weighable weights :=
    fun error herror hweights => Or.inr ⟨herror, hweights⟩
  unfold weighted
  rw [if_neg (not_not_intro hlength)]
  dsimp only
  rw [List.back?_toArray]
  cases htotal : (sums weights).getLast? with
  | none =>
      -- there are as many weights as items, so there is a last sum
      have hnil : sums weights = [] := List.getLast?_eq_none_iff.mp htotal
      cases weights with
      | nil => exact absurd (List.length_eq_zero_iff.mp hlength) hne
      | cons weight rest => cases hnil
  | some total =>
      dsimp only
      cases hmeasured : Scalar.measure? total with
      | none =>
          refine Meets.throw (hnumeric _ trivial fun hweights => ?_)
          obtain ⟨measured, hsome, -⟩ := hweights total htotal
          cases hmeasured.symm.trans hsome
      | some measured =>
          have hsame : Weighable weights → Scalar.lt (Scalar.ofNat 0) measured = true ∧
              Scalar.isFinite measured = true := by
            intro hweights
            obtain ⟨other, hsome, hpositive, hfinite⟩ := hweights total htotal
            cases hmeasured.symm.trans hsome
            exact ⟨hpositive, hfinite⟩
          dsimp only
          split
          · rename_i hpositive
            have hnot : ¬ Weighable weights := by
              intro hweights
              rw [(hsame hweights).1] at hpositive
              cases hpositive
            split
            · exact Meets.throw (hnumeric _ trivial hnot)
            · exact Meets.throw (hnumeric _ trivial hnot)
          · split
            · rename_i hfinite
              refine Meets.throw (hnumeric _ trivial fun hweights => ?_)
              rw [(hsame hweights).2] at hfinite
              cases hfinite
            · refine Meets.bind (unit_starves.mono (fun _ => id) fun _ => Or.inl) fun point _ => ?_
              have hcount : 0 < items.length := List.length_pos_iff.mpr hne
              have hplace := bisect_le (sums weights).toArray (Scalar.mul point measured)
                (Nat.zero_le (items.length - 1))
              rw [List.getElem?_eq_getElem (by omega)]
              exact Meets.pure (List.getElem_mem _)

/-! ## Poisson numbers -/

section Poisson

variable [Scalar α]

theorem countArrivals_starves (limit : α) (fuel count : Nat) (product : α) :
    Starves (countArrivals limit fuel count product) := by
  induction fuel generalizing count product with
  | zero => exact Meets.throw rfl
  | succ fuel ih =>
      rw [countArrivals]
      split
      · exact unit_starves.bind fun factor => ih _ _
      · exact .pure _

theorem countChunks_starves (fuel count : Nat) (remaining : α) :
    Starves (countChunks fuel count remaining) := by
  induction fuel generalizing count remaining with
  | zero => exact Meets.throw rfl
  | succ fuel ih =>
      rw [countChunks]
      split
      · refine unit_starves.bind fun first => .get_bind fun source => ?_
        exact (countArrivals_starves _ _ _ _).bind fun count => ih _ _
      · exact .pure _

/-- The mean is a quantity that is not negative. -/
def IsMean (mean : α) : Prop :=
  Scalar.lt mean (Scalar.ofNat 0) = false ∧ ∃ measured, Scalar.measure? mean = some measured

/-- **A Poisson number is drawn**, unless the words give out or the mean is none. -/
theorem poisson_fails (mean : α) :
    Meets (fun _ => True) (poisson mean) (fun _ => True)
      fun error => error = .exhausted ∨ error.IsNumeric ∧ ¬ IsMean mean := by
  unfold poisson
  split
  · rename_i hnegative
    refine Meets.throw (Or.inr ⟨trivial, fun hmean => ?_⟩)
    rw [hmean.1] at hnegative
    cases hnegative
  · split
    · cases hmeasured : Scalar.measure? mean with
      | none =>
          refine Meets.throw (Or.inr ⟨trivial, fun hmean => ?_⟩)
          obtain ⟨measured, hsome⟩ := hmean.2
          cases hmeasured.symm.trans hsome
      | some measured =>
          have hchunks : Starves (get >>= fun source : Source =>
              countChunks (source.left + 1) 0 measured) :=
            .get_bind fun source => countChunks_starves _ _ _
          exact hchunks.mono (fun _ => id) fun _ => Or.inl
    · exact Meets.pure trivial

end Poisson

end Draw

end GrammarFuzz.Random

/-! ## Exact arithmetic -/

namespace GrammarFuzz.Exact

open GrammarFuzz.Random (Draw)

variable {decay : ℚ → ℚ}

/-- A finite value above zero. -/
def IsPositive (value : Exact decay) : Prop := ∃ amount : ℚ, value = .finite amount ∧ 0 < amount

theorem IsPositive.add {first second : Exact decay} (hfirst : first.IsPositive)
    (hsecond : second.IsPositive) : (Scalar.add first second).IsPositive := by
  obtain ⟨amount, rfl, hamount⟩ := hfirst
  obtain ⟨other, rfl, hother⟩ := hsecond
  exact ⟨amount + other, rfl, add_pos hamount hother⟩

theorem isPositive_of_mem_runningSums {total : Exact decay} {weights : List (Exact decay)}
    (htotal : total.IsPositive) (hweights : ∀ weight ∈ weights, weight.IsPositive) :
    ∀ value ∈ Draw.runningSums total weights, value.IsPositive := by
  induction weights generalizing total with
  | nil => simp [Draw.runningSums]
  | cons weight rest ih =>
      obtain ⟨hweight, hrest⟩ := List.forall_mem_cons.mp hweights
      have hnext := htotal.add hweight
      exact List.forall_mem_cons.mpr ⟨hnext, ih hnext hrest⟩

/-- **Positive weights have a positive total.** -/
theorem weighable {weights : List (Exact decay)}
    (hweights : ∀ weight ∈ weights, weight.IsPositive) : Draw.Weighable weights := by
  intro total htotal
  have hmem : total ∈ Draw.sums weights := List.mem_of_getLast? htotal
  have hpositive : total.IsPositive := by
    cases weights with
    | nil => cases htotal
    | cons weight rest =>
        obtain ⟨hweight, hrest⟩ := List.forall_mem_cons.mp hweights
        rcases List.mem_cons.mp hmem with rfl | hmem
        · exact hweight
        · exact isPositive_of_mem_runningSums hweight hrest total hmem
  obtain ⟨amount, rfl, hamount⟩ := hpositive
  refine ⟨.finite amount, rfl, ?_, rfl⟩
  simpa [Scalar.lt, Scalar.ofNat, lt] using hamount

theorem isMean {mean : ℚ} (hmean : 0 ≤ mean) : Draw.IsMean (.finite mean : Exact decay) := by
  refine ⟨?_, .finite mean, rfl⟩
  simpa [Scalar.lt, Scalar.ofNat, lt] using hmean

end GrammarFuzz.Exact

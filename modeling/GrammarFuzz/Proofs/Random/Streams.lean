import GrammarFuzz.Proofs.Random.Range
import GrammarFuzz.Proofs.Random.Slices
import Mathlib.Algebra.Order.Archimedean.Basic

/-!
# Draws from endless streams

A source holds finitely many words.  What a step does on an endless stream of words is what it does
on all sources that start with enough of them, so it returns if some words from the front of the
stream are all that it reads (`Returns`).

A loop returns if each round that is not the last one takes a word and lowers a rank
(`IsLoop.returns`).  The two loops of a Poisson draw have different ranks.  The product of fractions
shrinks by a factor of at least `ratio` each time, because a fraction has 53 bits and stays away
from one, so some power of `ratio` brings it down to a limit that is above zero.  The mean loses a
whole chunk in each round until less than a chunk is left.

The rank of the mean is where infinity fails: an infinite mean has lost nothing when a chunk is
taken away.  So means that are not infinite have numbers on all streams (`poisson_returns`), and an
infinite one has none on any source (`poisson_endless`).
-/

namespace GrammarFuzz.Random

/-! ## Streams -/

section Streams

variable {ε σ α β : Type} [HoldsSource σ] {stream : ℕ → UInt32}

/-- So many words from the front of a stream. -/
def front (stream : ℕ → UInt32) (count : Nat) : List UInt32 := (List.range count).map stream

/-- The stream after so many words. -/
def later (stream : ℕ → UInt32) (count : Nat) : ℕ → UInt32 := fun place => stream (count + place)

theorem front_add (stream : ℕ → UInt32) (first second : Nat) :
    front stream (first + second) = front stream first ++ front (later stream first) second := by
  rw [front, List.range_add, List.map_append, List.map_map]
  rfl

@[simp] theorem length_front (stream : ℕ → UInt32) (count : Nat) :
    (front stream count).length = count := by
  rw [front, List.length_map, List.length_range]

/-- On an endless stream of words the step comes to an end: some words from the front are all that
it reads. -/
def Returns (step : ExceptT ε (StateM σ) α) (before : σ) (stream : ℕ → UInt32) : Prop :=
  ∃ count value after, Reads step before (front stream count) value after

/-- A step that never succeeds does not return. -/
theorem not_returns {step : ExceptT ε (StateM σ) α}
    (hstep : Meets (fun _ => True) step (fun _ => False) fun _ => True) (before : σ) :
    ¬ Returns step before stream := by
  rintro ⟨count, value, after, hreads⟩
  exact hstep.of_ok trivial (congrArg Prod.fst hreads.outcome_ofWords)

end Streams

namespace Draw

/-! ## Loops -/

section Loops

variable {α β : Type} {stream : ℕ → UInt32}

/-- If it may go round often enough, the loop comes to an end on an endless stream. -/
def LoopReturns (loop : Nat → Draw α) (stream : ℕ → UInt32) : Prop :=
  ∃ count value, ∀ enough, count < enough → ∀ before after : Source,
    Reads (loop enough) before (front stream count) value after

/-- A loop that may go round once for each word that is left, and once more. -/
theorem LoopReturns.reads {loop : Nat → Draw α} (hloop : LoopReturns loop stream) :
    ∃ count value, ∀ before after : Source,
      Reads (get >>= fun source : Source => loop (source.left + 1)) before (front stream count)
        value after := by
  obtain ⟨count, value, hreads⟩ := hloop
  refine ⟨count, value, fun before after first last hgives => ?_⟩
  have henough : count < first.left + 1 := by
    rw [hgives.left_eq, length_front]
    omega
  exact hreads (first.left + 1) henough before after first last hgives

/-- **A loop returns if every round but the last one takes a word and lowers the rank.** -/
theorem IsLoop.returns {round : β → Draw (α ⊕ β)} {loop : β → Nat → Draw α}
    (hloop : IsLoop round loop) {ranked : Nat → β → Prop}
    (hround : ∀ rank state stream, ranked rank state → ∃ count result,
      (∀ before after : Source, Reads (round state) before (front stream count) result after) ∧
        ∀ next, result = .inr next → 0 < count ∧ ∃ lower < rank, ranked lower next)
    {rank : Nat} {state : β} (hstate : ranked rank state) (stream : ℕ → UInt32) :
    LoopReturns (loop state) stream := by
  induction rank using Nat.strong_induction_on generalizing state stream with
  | _ rank ih =>
      obtain ⟨count, result, hreads, hnext⟩ := hround rank state stream hstate
      cases result with
      | inl value =>
          refine ⟨count, value, fun enough henough before after => ?_⟩
          obtain ⟨enough, rfl⟩ := Nat.exists_eq_add_one_of_ne_zero (Nat.ne_zero_of_lt henough)
          rw [hloop.succ]
          exact (hreads before after).bind_nil (Reads.pure value after)
      | inr next =>
          obtain ⟨hpositive, lower, hlower, hranked⟩ := hnext next rfl
          obtain ⟨more, value, hmore⟩ := ih lower hlower hranked (later stream count)
          refine ⟨count + more, value, fun enough henough before after => ?_⟩
          obtain ⟨enough, rfl⟩ := Nat.exists_eq_add_one_of_ne_zero (Nat.ne_zero_of_lt henough)
          rw [hloop.succ, front_add]
          -- the round has taken a word, so one round less is enough for the rest
          exact (hreads before before).bind (hmore enough (by omega) before after)

end Loops

/-! ## Exact fractions -/

section Exact

variable {decay : ℚ → ℚ}

theorem lt_finite {first second : ℚ} :
    Scalar.lt (.finite first : Exact decay) (.finite second) = true ↔ first < second :=
  Exact.isExact.lt_iff

theorem lt_finite_zero {amount : ℚ} :
    Scalar.lt (Scalar.ofNat 0) (.finite amount : Exact decay) = true ↔ 0 < amount :=
  Exact.isExact.zero_lt_iff

theorem min_finite (first second : ℚ) :
    Scalar.min (.finite first) (.finite second) = (.finite (min first second) : Exact decay) :=
  Exact.isExact.min_embed first second

/-- The greatest fraction that can be drawn. -/
def ratio : ℚ := 9007199254740991 / 9007199254740992

/-- The next two words are a fraction. -/
theorem exists_unit_reads (stream : ℕ → UInt32) : ∃ drawn : ℚ, drawn ≤ ratio ∧
    ∀ before after : Source,
      Reads (unit (Exact decay)) before (front stream 2) (.finite drawn) after := by
  have hfraction := fraction_reads (stream 0) (stream 1) (.ofWords []) (.ofWords [])
  have hlt := fraction_lt.of_ok trivial (congrArg Prod.fst hfraction.outcome_ofWords)
  generalize hnumber :
    (stream 0).toNat / 2 ^ 5 * 2 ^ 26 + (stream 1).toNat / 2 ^ 6 = number at hlt
  have hle : number ≤ 9007199254740991 := Nat.le_of_lt_succ hlt
  refine ⟨(number : ℚ) / 9007199254740992, ?_, ?_⟩
  · exact div_le_div_of_nonneg_right (by exact_mod_cast hle) (by norm_num)
  · intro before after
    rw [← hnumber]
    exact unit_reads (stream 0) (stream 1) before after

/-! ## Poisson numbers -/

/-- So many greatest fractions bring the product down to the limit. -/
def ArrivalsRank (decay : ℚ → ℚ) (limit : ℚ) (power : Nat) (state : Nat × Exact decay) : Prop :=
  ∃ product : ℚ, state.2 = .finite product ∧ product * ratio ^ power ≤ limit

/-- Fractions bring their product down to every limit above zero. -/
theorem countArrivals_returns {limit product : ℚ} (hlimit : 0 < limit) (hproduct : product ≤ 1)
    (count : Nat) (stream : ℕ → UInt32) :
    LoopReturns (fun fuel => countArrivals (.finite limit : Exact decay) fuel count
      (.finite product)) stream := by
  have hnonneg : 0 ≤ ratio := by norm_num [ratio]
  obtain ⟨power, hpower⟩ := exists_pow_lt_of_lt_one hlimit (show ratio < 1 by norm_num [ratio])
  have hstart : ArrivalsRank decay limit power (count, .finite product) :=
    ⟨product, rfl, calc
      product * ratio ^ power ≤ 1 * ratio ^ power :=
          mul_le_mul_of_nonneg_right hproduct (pow_nonneg hnonneg power)
      _ = ratio ^ power := one_mul _
      _ ≤ limit := hpower.le⟩
  refine (countArrivals_isLoop (.finite limit)).returns ?_ hstart stream
  rintro power ⟨count, _⟩ stream ⟨product, rfl, hrank⟩
  by_cases hlt : limit < product
  · -- the limit is not reached yet, so the power is not zero
    have hne : power ≠ 0 := by
      rintro rfl
      rw [pow_zero, mul_one] at hrank
      exact absurd hlt hrank.not_gt
    obtain ⟨power, rfl⟩ := Nat.exists_eq_add_one_of_ne_zero hne
    obtain ⟨drawn, hle, hunit⟩ := @exists_unit_reads decay stream
    refine ⟨2, .inr (count + 1, .finite (product * drawn)), fun before after => ?_, ?_⟩
    · rw [if_pos (lt_finite.mpr hlt)]
      exact (hunit before after).bind_pure rfl
    · rintro _ ⟨rfl⟩
      refine ⟨by omega, power, by omega, product * drawn, rfl, ?_⟩
      have hproduct : 0 ≤ product := (hlimit.trans hlt).le
      calc product * drawn * ratio ^ power
          ≤ product * ratio * ratio ^ power := by gcongr
        _ = product * ratio ^ (power + 1) := by ring
        _ ≤ limit := hrank
  · refine ⟨0, .inl count, fun before after => ?_, nofun⟩
    rw [if_neg (mt lt_finite.mp hlt)]
    exact Reads.pure _ _

/-- So many full chunks take the whole rest of the mean. -/
def ChunksRank (decay : ℚ → ℚ) (chunks : Nat) (state : Nat × Exact decay) : Prop :=
  ∃ remaining : ℚ, state.2 = .finite remaining ∧ remaining ≤ chunkSize * chunks

/-- Chunks take all of a finite mean. -/
theorem countChunks_returns (hdecay : ∀ amount, 0 < amount → amount ≤ 500 → 0 < decay amount)
    (count : Nat) (remaining : ℚ) (stream : ℕ → UInt32) :
    LoopReturns (fun fuel => countChunks fuel count (.finite remaining : Exact decay)) stream := by
  obtain ⟨chunks, hchunks⟩ := exists_nat_ge (remaining / chunkSize)
  have hstart : ChunksRank decay chunks (count, .finite remaining) :=
    ⟨remaining, rfl, (div_le_iff₀' (by norm_num [chunkSize])).mp hchunks⟩
  refine countChunks_isLoop.returns ?_ hstart stream
  rintro chunks ⟨count, _⟩ stream ⟨remaining, rfl, hrank⟩
  by_cases hlt : 0 < remaining
  · -- something is left of the mean, so there is a chunk to take
    have hne : chunks ≠ 0 := by
      rintro rfl
      rw [Nat.cast_zero, mul_zero] at hrank
      exact absurd hlt hrank.not_gt
    obtain ⟨chunks, rfl⟩ := Nat.exists_eq_add_one_of_ne_zero hne
    have hchunk : Scalar.min (.finite remaining) (Scalar.ofNat chunkSize) =
        (.finite (min remaining chunkSize) : Exact decay) := min_finite remaining chunkSize
    have hlimit : 0 < decay (min remaining chunkSize) :=
      hdecay _ (lt_min hlt (by norm_num [chunkSize])) (min_le_right _ _)
    obtain ⟨first, hfirst, hunit⟩ := @exists_unit_reads decay stream
    obtain ⟨taken, total, harrivals⟩ := (@countArrivals_returns decay _ first hlimit
      (hfirst.trans (by norm_num [ratio])) count (later stream 2)).reads
    refine ⟨2 + taken, .inr (total, .finite (remaining + -min remaining chunkSize)),
      fun before after => ?_, ?_⟩
    · rw [if_pos (lt_finite_zero.mpr hlt), front_add, hchunk]
      exact (hunit before before).bind ((harrivals before after).bind_pure rfl)
    · rintro _ ⟨rfl⟩
      refine ⟨by omega, chunks, by omega, _, rfl, ?_⟩
      push_cast at hrank
      rcases min_choice remaining (chunkSize : ℚ) with hmin | hmin
      · rw [hmin, add_neg_cancel]
        positivity
      · rw [hmin]
        linarith
  · refine ⟨0, .inl count, fun before after => ?_, nofun⟩
    rw [if_neg (mt lt_finite_zero.mp hlt)]
    exact Reads.pure _ _

/-- An infinite mean has as much left after each chunk, so nothing but the end of the source ends
the loop. -/
theorem countChunks_endless (fuel count : Nat) :
    Meets (fun _ => True) (countChunks fuel count (.infinite false : Exact decay))
      (fun _ => False) fun _ => True := by
  induction fuel generalizing count with
  | zero => exact .throw trivial
  | succ fuel ih =>
      -- infinity without a chunk is infinity again
      have hrest : countChunks (fuel + 1) count (.infinite false : Exact decay) = (do
          let first ← unit (Exact decay)
          let count ← get >>= fun source : Source =>
            countArrivals (Scalar.expNeg (.finite chunkSize)) (source.left + 1) count first
          countChunks fuel count (.infinite false : Exact decay)) := by
        rw [countChunks]
        simp only [bind_assoc]
        rfl
      rw [hrest]
      exact (Meets.trivial _).bind fun first _ => (Meets.trivial _).bind fun count _ => ih count

section Poisson

variable {mean : Exact decay}

/-- A mean that is neither below zero nor infinite has a number on each stream. -/
theorem poisson_returns (hdecay : ∀ amount, 0 < amount → amount ≤ 500 → 0 < decay amount)
    (hmean : Scalar.lt mean (Scalar.ofNat 0) = false) (hfinite : Scalar.isInfinite mean = false)
    (before : Source) (stream : ℕ → UInt32) : Returns (poisson mean) before stream := by
  unfold poisson
  rw [hmean, if_neg Bool.false_ne_true]
  by_cases hpositive : Scalar.lt (Scalar.ofNat 0) mean = true
  · rw [if_pos hpositive]
    cases mean with
    | finite amount =>
        obtain ⟨count, value, hreads⟩ := (countChunks_returns hdecay 0 amount stream).reads
        exact ⟨count, value, before, hreads before before⟩
    | infinite negative => cases hfinite
    | undefined => cases hpositive
  · rw [if_neg hpositive]
    exact ⟨0, 0, before, Reads.pure 0 before⟩

/-- A mean that is infinite and not below zero has no number on any source. -/
theorem poisson_endless (hmean : Scalar.lt mean (Scalar.ofNat 0) = false)
    (hinfinite : Scalar.isInfinite mean = true) :
    Meets (fun _ => True) (poisson mean) (fun _ => False) fun _ => True := by
  cases mean with
  | finite amount => cases hinfinite
  | infinite negative =>
      cases negative with
      | true => cases hmean
      | false =>
          exact Meets.get_bind fun source _ =>
            countChunks_endless (source.left + 1) 0 source trivial
  | undefined => cases hinfinite

end Poisson

end Exact

end Draw

end GrammarFuzz.Random

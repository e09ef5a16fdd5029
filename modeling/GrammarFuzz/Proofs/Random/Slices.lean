import GrammarFuzz.Proofs.Random.Failures
import Mathlib.Algebra.BigOperators.Group.List.Basic
import Mathlib.Data.Nat.Find
import Mathlib.Tactic.NormNum.Ineq

/-!
# The slices of a weighted draw

A weighted draw lays its weights end to end on a line and takes the item on whose stretch a point
lies.  The point is a fraction of the whole line, so each item has a slice of the fractions from
zero to below one, as long as its weight is among all weights (`InSlice`).

The stretch is found by halving.  `bisect_eq` says what the halving comes to: no sum to the left of
the place is above the point, and every sum from the place on is, up to the last one.  The last sum
is never looked at.  The fraction is below one, so the point lies below the whole line and the last
stretch takes what the others leave.
-/

namespace GrammarFuzz.Random.Draw

/-! ## Stretches of a line -/

section Shares

variable {amounts : List ℚ} {fraction : ℚ} {place other : Nat}

/-- The sum of so many amounts from the front. -/
def share (amounts : List ℚ) (count : Nat) : ℚ := (amounts.take count).sum

/-- The point at this fraction of the sum of all amounts lies on the stretch of the amount at the
place: not below the sum of the amounts before it, and below that sum with the amount. -/
def InSlice (amounts : List ℚ) (fraction : ℚ) (place : Nat) : Prop :=
  share amounts place ≤ fraction * share amounts amounts.length ∧
    fraction * share amounts amounts.length < share amounts (place + 1)

@[simp] theorem share_zero (amounts : List ℚ) : share amounts 0 = 0 := by
  rw [share, List.take_zero, List.sum_nil]

theorem share_cons (amount : ℚ) (amounts : List ℚ) (count : Nat) :
    share (amount :: amounts) (count + 1) = amount + share amounts count := by
  rw [share, List.take_succ_cons, List.sum_cons, share]

theorem share_succ (hplace : place < amounts.length) :
    share amounts (place + 1) = share amounts place + amounts[place] :=
  List.sum_take_succ amounts place hplace

variable (hpositive : ∀ amount ∈ amounts, 0 < amount)

include hpositive

theorem share_monotone : Monotone (share amounts) := by
  apply monotone_nat_of_le_succ
  intro count
  by_cases hcount : count < amounts.length
  · rw [share_succ hcount]
    exact le_add_of_nonneg_right (hpositive _ (List.getElem_mem hcount)).le
  · rw [share, share, List.take_of_length_le (not_lt.mp hcount),
      List.take_of_length_le ((not_lt.mp hcount).trans (Nat.le_succ count))]

theorem share_length_pos (hcount : 0 < amounts.length) : 0 < share amounts amounts.length := by
  rw [share, List.take_length]
  exact List.sum_pos amounts hpositive (List.length_pos_iff.mp hcount)

/-- A slice is as long a part of the fractions as its amount is of all amounts. -/
theorem inSlice_iff (hplace : place < amounts.length) :
    InSlice amounts fraction place ↔
      share amounts place / share amounts amounts.length ≤ fraction ∧
        fraction < share amounts place / share amounts amounts.length +
          amounts[place] / share amounts amounts.length := by
  have htotal := share_length_pos hpositive (Nat.zero_lt_of_lt hplace)
  rw [InSlice, share_succ hplace, ← add_div, div_le_iff₀ htotal, lt_div_iff₀ htotal]

/-- A slice holds fractions from zero to below one only. -/
theorem InSlice.bounds (hplace : place < amounts.length) (hslice : InSlice amounts fraction place) :
    0 ≤ fraction ∧ fraction < 1 := by
  have htotal := share_length_pos hpositive (Nat.zero_lt_of_lt hplace)
  constructor
  · have hstart : 0 ≤ share amounts place := by
      calc 0 = share amounts 0 := (share_zero amounts).symm
        _ ≤ share amounts place := share_monotone hpositive (Nat.zero_le place)
    exact nonneg_of_mul_nonneg_left (hstart.trans hslice.1) htotal
  · have hend : fraction * share amounts amounts.length < 1 * share amounts amounts.length := by
      calc fraction * share amounts amounts.length < share amounts (place + 1) := hslice.2
        _ ≤ share amounts amounts.length := share_monotone hpositive hplace
        _ = 1 * share amounts amounts.length := (one_mul _).symm
    exact lt_of_mul_lt_mul_right hend htotal.le

/-- A point lies on one stretch at most. -/
theorem InSlice.unique (hplace : InSlice amounts fraction place)
    (hother : InSlice amounts fraction other) : place = other := by
  -- the stretch of an earlier place ends where that of a later one begins, or before
  have hapart : ∀ {first second : Nat}, InSlice amounts fraction first →
      InSlice amounts fraction second → ¬ first < second := by
    intro first second hfirst hsecond hlt
    have hle : share amounts (first + 1) ≤ share amounts second := share_monotone hpositive hlt
    exact absurd (hfirst.2.trans_le (hle.trans hsecond.1)) (lt_irrefl _)
  exact le_antisymm (not_lt.mp (hapart hother hplace)) (not_lt.mp (hapart hplace hother))

/-- The stretches cover the line: every fraction has its place. -/
theorem exists_inSlice (hne : amounts ≠ []) (hfraction : 0 ≤ fraction) (hbelow : fraction < 1) :
    ∃ place < amounts.length, InSlice amounts fraction place := by
  have htotal := share_length_pos hpositive (List.length_pos_iff.mpr hne)
  have hlast : fraction * share amounts amounts.length < share amounts amounts.length :=
    mul_lt_of_lt_one_left htotal hbelow
  -- the first sum that is above the point ends the stretch on which the point lies
  have hexists : ∃ count, fraction * share amounts amounts.length < share amounts count :=
    ⟨amounts.length, hlast⟩
  obtain ⟨place, hplace⟩ : ∃ place, Nat.find hexists = place + 1 := by
    apply Nat.exists_eq_add_one_of_ne_zero
    intro hzero
    have hfirst := Nat.find_spec hexists
    rw [hzero, share_zero] at hfirst
    exact absurd hfirst (mul_nonneg hfraction htotal.le).not_gt
  have habove := Nat.find_spec hexists
  rw [hplace] at habove
  refine ⟨place, ?_, ?_, habove⟩
  · have hle : Nat.find hexists ≤ amounts.length := Nat.find_min' hexists hlast
    omega
  · exact not_lt.mp (Nat.find_min hexists (by omega))

/-- **Every fraction lies in just one slice.** -/
theorem existsUnique_inSlice (hne : amounts ≠ []) (hfraction : 0 ≤ fraction)
    (hbelow : fraction < 1) :
    ∃! place, place < amounts.length ∧ InSlice amounts fraction place := by
  obtain ⟨place, hplace, hslice⟩ := exists_inSlice hpositive hne hfraction hbelow
  exact ⟨place, ⟨hplace, hslice⟩, fun other hother => hother.2.unique hpositive hslice⟩

end Shares

/-! ## Halving -/

/-- The halving finds the place that parts the sums which are not above the point from those which
are.  The sum at the upper end is not looked at. -/
theorem bisect_eq {α : Type} [Scalar α] {sums : Array α} {point : α} {low high place : Nat}
    (hlow : low ≤ place) (hhigh : place ≤ high)
    (hbefore : ∀ i, low ≤ i → i < place → Scalar.lt point (sums.getD i point) = false)
    (hafter : ∀ i, place ≤ i → i < high → Scalar.lt point (sums.getD i point) = true) :
    bisect sums point low high = place := by
  induction low, high using bisect.induct sums point with
  | case1 low high hlt middle habove ih =>
      rw [bisect, if_pos hlt, if_pos habove]
      have hplace : place ≤ middle := by
        by_contra hmiddle
        have hnot := hbefore middle (by omega) (by omega)
        exact Bool.false_ne_true (hnot.symm.trans habove)
      exact ih hlow hplace hbefore fun i hi hlt => hafter i hi (by omega)
  | case2 low high hlt middle habove ih =>
      rw [bisect, if_pos hlt, if_neg habove]
      have hplace : middle < place := by
        by_contra hmiddle
        exact habove (hafter middle (by omega) (by omega))
      exact ih hplace hhigh (fun i hi hlt => hbefore i (by omega) hlt) hafter
  | case3 low high hlt =>
      rw [bisect, if_neg hlt]
      omega

/-- With a total to draw from, a weighted draw draws a fraction and looks for its place. -/
theorem weighted_of_total {α β : Type} [Scalar α] {items : List β} {weights : List α}
    {total measured : α} (hlength : items.length = weights.length)
    (htotal : (sums weights).getLast? = some total)
    (hmeasured : Scalar.measure? total = some measured)
    (hpositive : Scalar.lt (Scalar.ofNat 0) measured = true)
    (hfinite : Scalar.isFinite measured = true) :
    weighted items weights = (do
      let point := Scalar.mul (← unit α) measured
      match items[bisect (sums weights).toArray point 0 (items.length - 1)]? with
      | some item => return item
      | none => throw .noWeights) := by
  unfold weighted
  rw [if_neg (not_not_intro hlength)]
  dsimp only
  rw [List.back?_toArray, htotal]
  dsimp only
  rw [hmeasured]
  dsimp only
  rw [hpositive, hfinite]
  rfl

/-! ## Exact weights -/

section Exact

variable {β : Type} {decay : ℚ → ℚ} {amounts : List ℚ} {fraction : ℚ} {place : Nat}

theorem length_runningSums {α : Type} [Scalar α] (total : α) (weights : List α) :
    (runningSums total weights).length = weights.length := by
  induction weights generalizing total with
  | nil => rfl
  | cons weight rest ih => rw [runningSums, List.length_cons, List.length_cons, ih]

theorem getElem?_runningSums (total : ℚ) (hplace : place < amounts.length) :
    (runningSums (.finite total : Exact decay) (amounts.map .finite))[place]? =
      some (.finite (total + share amounts (place + 1))) := by
  induction amounts generalizing total place with
  | nil => exact absurd hplace (Nat.not_lt_zero place)
  | cons amount rest ih =>
      have hsum : Scalar.add (.finite total : Exact decay) (.finite amount) =
          .finite (total + amount) := rfl
      rw [List.map_cons, runningSums, hsum, share_cons]
      cases place with
      | zero => rw [List.getElem?_cons_zero, share_zero, add_zero]
      | succ place =>
          rw [List.getElem?_cons_succ, ih _ (Nat.lt_of_succ_lt_succ hplace), add_assoc]

theorem sums_finite (amounts : List ℚ) :
    sums (amounts.map .finite : List (Exact decay)) =
      runningSums (.finite 0) (amounts.map .finite) := by
  cases amounts with
  | nil => rfl
  | cons amount rest =>
      have hsum : Scalar.add (.finite 0 : Exact decay) (.finite amount) = .finite amount :=
        congrArg Exact.finite (zero_add amount)
      rw [List.map_cons, sums, runningSums, hsum]

/-- The sums of the weights are the ends of their stretches. -/
theorem getElem?_sums (hplace : place < amounts.length) :
    (sums (amounts.map .finite : List (Exact decay)))[place]? =
      some (.finite (share amounts (place + 1))) := by
  rw [sums_finite, getElem?_runningSums 0 hplace, zero_add]

theorem getLast?_sums (hcount : 0 < amounts.length) :
    (sums (amounts.map .finite : List (Exact decay))).getLast? =
      some (.finite (share amounts amounts.length)) := by
  have hsums : (sums (amounts.map .finite : List (Exact decay))).length = amounts.length := by
    rw [sums_finite, length_runningSums, List.length_map]
  rw [List.getLast?_eq_getElem?, hsums, getElem?_sums (Nat.sub_lt hcount Nat.one_pos),
    Nat.sub_add_cancel hcount]

/-- The place that the halving finds for a fraction of the sum of all weights. -/
def landing (decay : ℚ → ℚ) (amounts : List ℚ) (fraction : ℚ) : Nat :=
  bisect (sums (amounts.map .finite : List (Exact decay))).toArray
    (.finite (fraction * share amounts amounts.length)) 0 (amounts.length - 1)

theorem lt_getD_sums (hplace : place < amounts.length) (point : ℚ) :
    Scalar.lt (.finite point : Exact decay)
        ((sums (amounts.map .finite : List (Exact decay))).toArray.getD place (.finite point)) =
      decide (point < share amounts (place + 1)) := by
  rw [Array.getD_eq_getD_getElem?, List.getElem?_toArray, getElem?_sums hplace]
  rfl

/-- **The halving finds a place for just the fractions in its slice.** -/
theorem landing_eq_iff (hpositive : ∀ amount ∈ amounts, 0 < amount) (hfraction : 0 ≤ fraction)
    (hbelow : fraction < 1) (hplace : place < amounts.length) :
    landing decay amounts fraction = place ↔ InSlice amounts fraction place := by
  have hfinds : ∀ {place}, place < amounts.length → InSlice amounts fraction place →
      landing decay amounts fraction = place := by
    intro place hplace hslice
    apply bisect_eq (Nat.zero_le place) (Nat.le_sub_one_of_lt hplace)
    · intro i _ hi
      rw [lt_getD_sums (hi.trans hplace), decide_eq_false_iff_not, not_lt]
      exact (share_monotone hpositive hi).trans hslice.1
    · intro i hi hlast
      rw [lt_getD_sums (by omega), decide_eq_true_iff]
      exact hslice.2.trans_le (share_monotone hpositive (Nat.succ_le_succ hi))
  refine ⟨fun hlanding => ?_, hfinds hplace⟩
  -- some slice holds the fraction, and its place is the one that is found
  have hne : amounts ≠ [] := List.length_pos_iff.mp (Nat.zero_lt_of_lt hplace)
  obtain ⟨other, hother, hslice⟩ := exists_inSlice hpositive hne hfraction hbelow
  rwa [← hlanding, hfinds hother hslice]

/-- Leading bits are no more than they should be. -/
theorem bits_lt (count : Nat) (hcount : count ≤ 32) :
    Meets (fun _ => True) (bits count) (· < 2 ^ count) fun _ => True := by
  rw [bits, if_pos hcount]
  refine Meets.bind (Meets.trivial _) fun drawn _ => Meets.pure ?_
  apply Nat.div_lt_of_lt_mul
  calc drawn.toNat < 2 ^ 32 := drawn.toNat_lt
    _ = 2 ^ (32 - count) * 2 ^ count := by rw [← Nat.pow_add, Nat.sub_add_cancel hcount]

theorem fraction_lt : Meets (fun _ => True) Draw.fraction (· < 2 ^ 53) fun _ => True := by
  refine Meets.bind (bits_lt 27 (by omega)) fun high hhigh => ?_
  refine Meets.bind (bits_lt 26 (by omega)) fun low hlow => Meets.pure ?_
  rw [show Nat.pow 2 26 = 2 ^ 26 from rfl]
  omega

/-- A fraction is drawn from zero to below one. -/
theorem unit_meets : Meets (fun _ => True) (unit (Exact decay))
    (fun value => ∃ drawn : ℚ, value = .finite drawn ∧ 0 ≤ drawn ∧ drawn < 1) fun _ => True := by
  refine Meets.bind fraction_lt fun drawn hdrawn => Meets.pure ⟨_, rfl, ?_, ?_⟩
  · exact div_nonneg (Nat.cast_nonneg drawn) (by norm_num)
  · rw [div_lt_one (by norm_num)]
    exact_mod_cast hdrawn

/-- **A weighted draw takes the item in whose slice the fraction lies.** -/
theorem outcome_weighted {items : List β} (hlength : items.length = amounts.length)
    (hpositive : ∀ amount ∈ amounts, 0 < amount) {source last : Source}
    (hunit : outcome (unit (Exact decay)) source = (.ok (.finite fraction), last))
    (hplace : place < items.length) (hslice : InSlice amounts fraction place) :
    outcome (weighted items (amounts.map .finite : List (Exact decay))) source =
      (.ok items[place], last) := by
  obtain ⟨drawn, hdrawn, hfraction, hbelow⟩ :=
    unit_meets.of_ok trivial (congrArg Prod.fst hunit)
  cases hdrawn
  have hamounts : 0 < amounts.length := hlength ▸ Nat.zero_lt_of_lt hplace
  have htotal := share_length_pos hpositive hamounts
  have hlanding : landing decay amounts fraction = place :=
    (landing_eq_iff hpositive hfraction hbelow (hlength ▸ hplace)).mpr hslice
  have hcount : items.length = (amounts.map .finite : List (Exact decay)).length := by
    rw [List.length_map, hlength]
  have habove : Scalar.lt (Scalar.ofNat 0)
      (.finite (share amounts amounts.length) : Exact decay) = true := by
    simpa [Scalar.lt, Scalar.ofNat, Exact.lt] using htotal
  rw [weighted_of_total hcount (getLast?_sums hamounts) rfl habove rfl, outcome_bind_ok hunit,
    hlength]
  -- the point is the fraction of the total, and the halving has the bounds of `landing`
  show outcome (match items[landing decay amounts fraction]? with
    | some item => pure item
    | none => throw DrawError.noWeights) last = _
  rw [hlanding, List.getElem?_eq_getElem hplace, outcome_pure]

end Exact

end GrammarFuzz.Random.Draw

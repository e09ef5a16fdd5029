import GrammarFuzz.Proofs.Exact
import GrammarFuzz.Proofs.Random.Range
import Mathlib.Algebra.Order.Floor.Semiring
import Mathlib.Data.Rat.Floor
import Mathlib.Tactic.Linarith

/-!
# The draws of a Poisson number

A Poisson draw is two loops, one in the other, that share a counter and a source.  The outer loop
takes chunks away from the mean, and for each chunk the inner loop draws fractions until their
product is no longer above the exponential of the chunk.

Seen from the source, the draws come in runs, one for each chunk, and a run stops at the first draw
that brings its product down to the limit (`IsShortestRun`).  The runs follow each other without a
gap and without a draw in common, so all of them together are the draws that the source gives
(`Source.Draws`).  The counter misses just one draw of each run, the one that ends it.

The chunks depend on the mean only.  All of them are as large as allowed but the last one, which is
what is left; a mean that is a multiple of a chunk leaves nothing over, and no empty chunk is made of
it (`ceil_rest_add_one`).

None of this asks for rational numbers.  The scalars have to compute without rounding, in whatever
ordered field (`Scalar.IsExact`), and of the exponential it matters only that it is below one:
otherwise the empty run would be enough, but the loop never stops before its first draw.
-/

namespace GrammarFuzz.Random

variable {K α : Type} [Scalar α] {embed : K → α} {decay : K → K}

/-! ## Draws in a row -/

/-- The source gives these fractions one after the other, and then it is `last`. -/
def Source.Draws (embed : K → α) : Source → List K → Source → Prop
  | first, [], last => first = last
  | first, drawn :: rest, last => ∃ next,
      outcome (Draw.unit α) first = (.ok (embed drawn), next) ∧ next.Draws embed rest last

theorem Source.draws_append_iff {first last : Source} {run others : List K} :
    first.Draws embed (run ++ others) last ↔
      ∃ middle, first.Draws embed run middle ∧ middle.Draws embed others last := by
  induction run generalizing first with
  | nil =>
      constructor
      · intro hothers
        exact ⟨first, rfl, hothers⟩
      · rintro ⟨middle, rfl, hothers⟩
        exact hothers
  | cons drawn run ih =>
      constructor
      · rintro ⟨next, hdrawn, hrest⟩
        obtain ⟨middle, hrun, hothers⟩ := ih.mp hrest
        exact ⟨middle, ⟨next, hdrawn, hrun⟩, hothers⟩
      · rintro ⟨middle, ⟨next, hdrawn, hrun⟩, hothers⟩
        exact ⟨next, hdrawn, ih.mpr ⟨middle, hrun, hothers⟩⟩

namespace Draw

variable [Field K] [LinearOrder K]

/-- A step that begins with a fraction begins with the next fraction of the source. -/
theorem outcome_unit_bind_eq_ok_iff {β : Type} (hexact : Scalar.IsExact embed decay)
    {next : α → Draw β} {first last : Source} {value : β} :
    outcome (unit α >>= next) first = (.ok value, last) ↔
      ∃ drawn middle, outcome (unit α) first = (.ok (embed drawn), middle) ∧
        outcome (next (embed drawn)) middle = (.ok value, last) := by
  have hunit : Meets (fun _ => True) (unit α) (fun value => ∃ drawn, value = embed drawn)
      fun _ => True :=
    (Meets.trivial fraction).bind fun number _ => Meets.pure ⟨_, hexact.fraction number⟩
  rw [outcome_bind_eq_ok_iff]
  constructor
  · rintro ⟨value, middle, hvalue, hnext⟩
    obtain ⟨drawn, rfl⟩ := hunit.of_ok trivial (congrArg Prod.fst hvalue)
    exact ⟨drawn, middle, hvalue, hnext⟩
  · rintro ⟨drawn, middle, hdrawn, hnext⟩
    exact ⟨embed drawn, middle, hdrawn, hnext⟩

/-! ## Shortest runs -/

/-- The product of the run is at most the limit, and that of no shorter front is. -/
def IsShortestRun (limit : K) (run : List K) : Prop :=
  run.prod ≤ limit ∧ ∀ front, front <+: run → front.prod ≤ limit → front = run

/-- The run brings a product down to the limit, and no shorter front does. -/
def IsShortestFrom (limit product : K) (run : List K) : Prop :=
  product * run.prod ≤ limit ∧ ∀ front, front <+: run → product * front.prod ≤ limit → front = run

variable {limit product drawn : K} {run : List K}

theorem isShortestRun_iff : IsShortestRun limit run ↔ IsShortestFrom limit 1 run := by
  simp only [IsShortestRun, IsShortestFrom, one_mul]

theorem isShortestFrom_nil_iff : IsShortestFrom limit product [] ↔ product ≤ limit := by
  unfold IsShortestFrom
  rw [List.prod_nil, mul_one]
  constructor
  · intro hshortest
    exact hshortest.1
  · intro hle
    refine ⟨hle, ?_⟩
    intro front hfront _
    exact List.prefix_nil.mp hfront

/-- As long as the product is above the limit, the next draw is multiplied to it. -/
theorem isShortestFrom_cons_iff : IsShortestFrom limit product (drawn :: run) ↔
    limit < product ∧ IsShortestFrom limit (product * drawn) run := by
  have hproduct : ∀ front : List K, product * (drawn :: front).prod = product * drawn * front.prod :=
    fun front => by rw [List.prod_cons, mul_assoc]
  unfold IsShortestFrom
  constructor
  · rintro ⟨hle, hshortest⟩
    refine ⟨?_, ?_, ?_⟩
    · by_contra hnot
      have hnil := hshortest [] List.nil_prefix (by simpa using not_lt.mp hnot)
      cases hnil
    · rwa [← hproduct]
    · intro front hfront hfrontLe
      rw [← hproduct] at hfrontLe
      have hcons := hshortest (drawn :: front) (List.cons_prefix_cons.mpr ⟨rfl, hfront⟩) hfrontLe
      exact (List.cons.inj hcons).2
  · rintro ⟨hlt, hle, hshortest⟩
    refine ⟨by rwa [hproduct], ?_⟩
    intro front hfront hfrontLe
    rcases List.prefix_cons_iff.mp hfront with rfl | ⟨rest, rfl, hrest⟩
    · rw [List.prod_nil, mul_one] at hfrontLe
      exact absurd hlt hfrontLe.not_gt
    · rw [hproduct] at hfrontLe
      rw [hshortest rest hrest hfrontLe]

/-- With a limit below one a run has a first draw, and the rest of it starts with that. -/
theorem isShortestRun_cons_iff (hlimit : limit < 1) :
    IsShortestRun limit (drawn :: run) ↔ IsShortestFrom limit drawn run := by
  rw [isShortestRun_iff, isShortestFrom_cons_iff, one_mul, and_iff_right hlimit]

theorem IsShortestRun.ne_nil (hrun : IsShortestRun limit run) (hlimit : limit < 1) : run ≠ [] := by
  rintro rfl
  have hle : 1 ≤ limit := isShortestFrom_nil_iff.mp (isShortestRun_iff.mp hrun)
  exact absurd hlimit hle.not_gt

/-! ## The draws of a chunk -/

/-- The inner loop draws the shortest run and adds its length to the count. -/
theorem outcome_countArrivals_eq_ok_iff (hexact : Scalar.IsExact embed decay)
    {fuel count result : ℕ} {first last : Source} :
    outcome (countArrivals (embed limit) fuel count (embed product)) first = (.ok result, last) ↔
      ∃ run : List K, run.length < fuel ∧ IsShortestFrom limit product run ∧
        first.Draws embed run last ∧ result = count + run.length := by
  induction fuel generalizing count product first with
  | zero =>
      constructor
      · intro houtcome
        cases houtcome
      · rintro ⟨run, hlength, -⟩
        exact absurd hlength (Nat.not_lt_zero _)
  | succ fuel ih =>
      rw [countArrivals]
      by_cases hlt : limit < product
      · -- the limit is not reached yet, so the run goes on with the next draw
        rw [if_pos (hexact.lt_iff.mpr hlt), outcome_unit_bind_eq_ok_iff hexact]
        constructor
        · rintro ⟨drawn, middle, hdrawn, hrest⟩
          rw [hexact.mul] at hrest
          obtain ⟨run, hlength, hshortest, hdraws, rfl⟩ := ih.mp hrest
          refine ⟨drawn :: run, ?_, isShortestFrom_cons_iff.mpr ⟨hlt, hshortest⟩,
            ⟨middle, hdrawn, hdraws⟩, ?_⟩
          · simpa using hlength
          · rw [List.length_cons]
            omega
        · rintro ⟨run, hlength, hshortest, hdraws, rfl⟩
          cases run with
          | nil => exact absurd hlt (isShortestFrom_nil_iff.mp hshortest).not_gt
          | cons drawn run =>
              obtain ⟨middle, hdrawn, hdraws⟩ := hdraws
              refine ⟨drawn, middle, hdrawn, ?_⟩
              rw [hexact.mul]
              refine ih.mpr ⟨run, ?_, (isShortestFrom_cons_iff.mp hshortest).2, hdraws, ?_⟩
              · simpa using hlength
              · rw [List.length_cons]
                omega
      · -- the limit is reached, and the only shortest run from here on is the empty one
        rw [if_neg (mt hexact.lt_iff.mp hlt), outcome_pure]
        constructor
        · intro houtcome
          cases houtcome
          exact ⟨[], Nat.succ_pos fuel, isShortestFrom_nil_iff.mpr (not_lt.mp hlt), rfl, rfl⟩
        · rintro ⟨run, -, hshortest, hdraws, rfl⟩
          cases run with
          | nil =>
              rw [show first = last from hdraws]
              rfl
          | cons drawn run => exact absurd (isShortestFrom_cons_iff.mp hshortest).1 hlt

/-- The draws of one chunk: a first one, and more of them as long as the product is above the
limit. -/
def chunkArrivals (limit : α) (count : ℕ) : Draw ℕ := do
  let first ← unit α
  get >>= fun source : Source => countArrivals limit (source.left + 1) count first

/-- One chunk takes the shortest run from the source, and all of its draws but one are counted. -/
theorem outcome_chunkArrivals_eq_ok_iff (hexact : Scalar.IsExact embed decay) (hlimit : limit < 1)
    {count result : ℕ} {first last : Source} :
    outcome (chunkArrivals (embed limit) count) first = (.ok result, last) ↔
      ∃ run, IsShortestRun limit run ∧ first.Draws embed run last ∧
        result + 1 = count + run.length := by
  rw [chunkArrivals, outcome_unit_bind_eq_ok_iff hexact]
  constructor
  · rintro ⟨drawn, middle, hdrawn, hrest⟩
    rw [(countArrivals_localLoop _ count (embed drawn)).outcome_eq_ok_iff] at hrest
    obtain ⟨fuel, hrest⟩ := hrest
    obtain ⟨run, -, hshortest, hdraws, rfl⟩ := (outcome_countArrivals_eq_ok_iff hexact).mp hrest
    exact ⟨drawn :: run, (isShortestRun_cons_iff hlimit).mpr hshortest, ⟨middle, hdrawn, hdraws⟩, rfl⟩
  · rintro ⟨run, hshortest, hdraws, hresult⟩
    cases run with
    | nil => exact absurd rfl (hshortest.ne_nil hlimit)
    | cons drawn run =>
        obtain ⟨middle, hdrawn, hdraws⟩ := hdraws
        refine ⟨drawn, middle, hdrawn, ?_⟩
        rw [(countArrivals_localLoop _ count (embed drawn)).outcome_eq_ok_iff]
        have hcount : result = count + run.length := by
          rw [List.length_cons] at hresult
          omega
        exact ⟨run.length + 1, (outcome_countArrivals_eq_ok_iff hexact).mpr
          ⟨run, Nat.lt_succ_self _, (isShortestRun_cons_iff hlimit).mp hshortest, hdraws, hcount⟩⟩

theorem countChunks_succ (fuel count : ℕ) (remaining : α) :
    countChunks (fuel + 1) count remaining =
      if Scalar.lt (Scalar.ofNat 0) remaining then
        chunkArrivals (Scalar.expNeg (Scalar.min remaining (Scalar.ofNat chunkSize))) count >>=
          fun count => countChunks fuel count
            (Scalar.sub remaining (Scalar.min remaining (Scalar.ofNat chunkSize)))
      else pure count := by
  rw [countChunks]
  simp only [chunkArrivals, bind_assoc]

/-! ## The chunks of a mean -/

variable [IsStrictOrderedRing K] [FloorSemiring K] {remaining mean : K}

/-- A chunk is one less to take, also from a multiple of the greatest chunk. -/
theorem ceil_rest_add_one (hpositive : 0 < remaining) :
    ⌈(remaining - min remaining 500) / 500⌉₊ + 1 = ⌈remaining / 500⌉₊ := by
  rcases le_total remaining 500 with hle | hle
  · have hone : ⌈remaining / 500⌉₊ = 1 := by
      rw [Nat.ceil_eq_iff one_ne_zero]
      constructor
      · simpa using hpositive
      · rw [Nat.cast_one, div_le_one (by norm_num)]
        exact hle
    rw [min_eq_left hle, sub_self, zero_div, Nat.ceil_zero, hone]
  · have hrest : 0 ≤ (remaining - 500) / 500 := div_nonneg (sub_nonneg.mpr hle) (by norm_num)
    calc ⌈(remaining - min remaining 500) / 500⌉₊ + 1
        = ⌈(remaining - 500) / 500⌉₊ + 1 := by rw [min_eq_right hle]
      _ = ⌈(remaining - 500) / 500 + 1⌉₊ := (Nat.ceil_add_one hrest).symm
      _ = ⌈remaining / 500⌉₊ := by rw [sub_div, div_self (by norm_num), sub_add_cancel]

/-- The chunks that are taken from what is left of a mean. -/
def chunks {K : Type} [Field K] [LinearOrder K] [IsStrictOrderedRing K] [FloorSemiring K]
    (remaining : K) : List K :=
  if 0 < remaining then
    min remaining 500 :: chunks (remaining - min remaining 500)
  else []
  termination_by ⌈remaining / 500⌉₊
  decreasing_by
    have hceil := ceil_rest_add_one ‹0 < remaining›
    omega

theorem chunks_of_pos (hpositive : 0 < remaining) :
    chunks remaining = min remaining 500 :: chunks (remaining - min remaining 500) := by
  rw [chunks, if_pos hpositive]

theorem chunks_of_not_pos (hnot : ¬ 0 < remaining) : chunks remaining = [] := by
  rw [chunks, if_neg hnot]

theorem length_chunks (remaining : K) : (chunks remaining).length = ⌈remaining / 500⌉₊ := by
  induction remaining using chunks.induct with
  | case1 remaining hpositive ih =>
      rw [chunks_of_pos hpositive, List.length_cons, ih, ceil_rest_add_one hpositive]
  | case2 remaining hnot =>
      have hle : remaining / 500 ≤ 0 := div_nonpos_of_nonpos_of_nonneg (not_lt.mp hnot) (by norm_num)
      rw [chunks_of_not_pos hnot, List.length_nil, Nat.ceil_eq_zero.mpr hle]

theorem chunks_bounds (remaining : K) : ∀ chunk ∈ chunks remaining, 0 < chunk ∧ chunk ≤ 500 := by
  induction remaining using chunks.induct with
  | case1 remaining hpositive ih =>
      intro chunk hchunk
      rw [chunks_of_pos hpositive] at hchunk
      rcases List.mem_cons.mp hchunk with rfl | hchunk
      · exact ⟨lt_min hpositive (by norm_num), min_le_right _ _⟩
      · exact ih chunk hchunk
  | case2 remaining hnot =>
      intro chunk hchunk
      rw [chunks_of_not_pos hnot] at hchunk
      cases hchunk

theorem sum_chunks (hremaining : 0 ≤ remaining) : (chunks remaining).sum = remaining := by
  induction remaining using chunks.induct with
  | case1 remaining hpositive ih =>
      have hrest : 0 ≤ remaining - min remaining 500 := sub_nonneg.mpr (min_le_left _ _)
      calc (chunks remaining).sum
          = min remaining 500 + (chunks (remaining - min remaining 500)).sum := by
            rw [chunks_of_pos hpositive, List.sum_cons]
        _ = min remaining 500 + (remaining - min remaining 500) := by rw [ih hrest]
        _ = remaining := add_sub_cancel _ _
  | case2 remaining hnot =>
      have hzero : remaining = 0 := le_antisymm (not_lt.mp hnot) hremaining
      rw [chunks_of_not_pos hnot, List.sum_nil, hzero]

/-! ## The draws of all chunks -/

/-- The outer loop draws a run for each chunk; of each run one draw is not counted. -/
theorem outcome_countChunks_eq_ok_iff (hexact : Scalar.IsExact embed decay)
    (hdecay : ∀ amount, 0 < amount → amount ≤ 500 → decay amount < 1)
    {fuel count result : ℕ} {first last : Source} :
    outcome (countChunks fuel count (embed remaining)) first = (.ok result, last) ↔
      ∃ runs : List (List K), runs.length < fuel ∧
        List.Forall₂ (fun chunk run => IsShortestRun (decay chunk) run) (chunks remaining) runs ∧
        first.Draws embed runs.flatten last ∧
        result + runs.length = count + runs.flatten.length := by
  induction fuel generalizing count remaining first with
  | zero =>
      constructor
      · intro houtcome
        cases houtcome
      · rintro ⟨runs, hlength, -⟩
        exact absurd hlength (Nat.not_lt_zero _)
  | succ fuel ih =>
      rw [countChunks_succ]
      by_cases hpositive : 0 < remaining
      · have hchunk : Scalar.min (embed remaining) (Scalar.ofNat chunkSize) =
            embed (min remaining 500) := by
          rw [hexact.ofNat, hexact.min_embed, chunkSize, Nat.cast_ofNat]
        have hlimit : decay (min remaining 500) < 1 :=
          hdecay _ (lt_min hpositive (by norm_num)) (min_le_right _ _)
        rw [if_pos (hexact.zero_lt_iff.mpr hpositive), hchunk, hexact.expNeg, hexact.sub,
          outcome_bind_eq_ok_iff, chunks_of_pos hpositive]
        constructor
        · rintro ⟨counted, middle, hrun, hrest⟩
          obtain ⟨run, hshortest, hdraws, hcounted⟩ :=
            (outcome_chunkArrivals_eq_ok_iff hexact hlimit).mp hrun
          obtain ⟨runs, hlength, hruns, hothers, hresult⟩ := ih.mp hrest
          refine ⟨run :: runs, ?_, .cons hshortest hruns, ?_, ?_⟩
          · simpa using hlength
          · rw [List.flatten_cons, Source.draws_append_iff]
            exact ⟨middle, hdraws, hothers⟩
          · simp only [List.length_cons, List.flatten_cons, List.length_append]
            omega
        · rintro ⟨_, hlength, hruns, hdraws, hresult⟩
          cases hruns with
          | @cons _ run _ runs hshortest hruns =>
              rw [List.flatten_cons, Source.draws_append_iff] at hdraws
              obtain ⟨middle, hdraws, hothers⟩ := hdraws
              -- the run has a draw that is not counted
              have hdrawn : 0 < run.length := List.length_pos_iff.mpr (hshortest.ne_nil hlimit)
              simp only [List.length_cons, List.flatten_cons, List.length_append] at hlength hresult
              refine ⟨count + run.length - 1, middle, ?_, ?_⟩
              · apply (outcome_chunkArrivals_eq_ok_iff hexact hlimit).mpr
                exact ⟨run, hshortest, hdraws, by omega⟩
              · exact ih.mpr ⟨runs, by omega, hruns, hothers, by omega⟩
      · rw [if_neg (mt hexact.zero_lt_iff.mp hpositive), outcome_pure, chunks_of_not_pos hpositive]
        constructor
        · intro houtcome
          cases houtcome
          exact ⟨[], Nat.succ_pos fuel, .nil, rfl, rfl⟩
        · rintro ⟨runs, -, hruns, hdraws, hresult⟩
          cases hruns
          rw [show first = last from hdraws, show result = count from hresult]

/-- A mean that is not negative goes to the loop, where nothing is drawn for zero. -/
theorem outcome_poisson_eq_ok_iff (hexact : Scalar.IsExact embed decay)
    (hdecay : ∀ amount, 0 < amount → amount ≤ 500 → decay amount < 1) (hmean : 0 ≤ mean)
    {result : ℕ} {first last : Source} :
    outcome (poisson (embed mean)) first = (.ok result, last) ↔
      ∃ runs : List (List K),
        List.Forall₂ (fun chunk run => IsShortestRun (decay chunk) run) (chunks mean) runs ∧
        first.Draws embed runs.flatten last ∧ result + runs.length = runs.flatten.length := by
  have hnotNegative : ¬ Scalar.lt (embed mean) (Scalar.ofNat 0) = true := by
    rw [hexact.ofNat, Nat.cast_zero, hexact.lt_iff]
    exact hmean.not_gt
  unfold poisson
  rw [if_neg hnotNegative]
  by_cases hpositive : 0 < mean
  · rw [if_pos (hexact.zero_lt_iff.mpr hpositive), hexact.measure]
    dsimp only
    rw [(countChunks_localLoop 0 (embed mean)).outcome_eq_ok_iff]
    constructor
    · rintro ⟨fuel, houtcome⟩
      obtain ⟨runs, -, hruns, hdraws, hresult⟩ :=
        (outcome_countChunks_eq_ok_iff hexact hdecay).mp houtcome
      rw [Nat.zero_add] at hresult
      exact ⟨runs, hruns, hdraws, hresult⟩
    · rintro ⟨runs, hruns, hdraws, hresult⟩
      refine ⟨runs.length + 1, (outcome_countChunks_eq_ok_iff hexact hdecay).mpr ?_⟩
      exact ⟨runs, Nat.lt_succ_self _, hruns, hdraws, by omega⟩
  · rw [if_neg (mt hexact.zero_lt_iff.mp hpositive), outcome_pure, chunks_of_not_pos hpositive]
    constructor
    · intro houtcome
      cases houtcome
      exact ⟨[], .nil, rfl, rfl⟩
    · rintro ⟨runs, hruns, hdraws, hresult⟩
      cases hruns
      rw [show first = last from hdraws, show result = 0 from hresult]

/-- **A Poisson number is the number of draws without one for each chunk of the mean, and each chunk
takes the shortest run of the next draws whose product is at most its exponential.**  There are as
many chunks as it takes, and together they are the mean. -/
theorem poisson_runs (hexact : Scalar.IsExact embed decay)
    (hdecay : ∀ amount, 0 < amount → amount ≤ 500 → decay amount < 1) (hmean : 0 ≤ mean) :
    (chunks mean).length = ⌈mean / 500⌉₊ ∧ (∀ chunk ∈ chunks mean, 0 < chunk ∧ chunk ≤ 500) ∧
      (chunks mean).sum = mean ∧
      ∀ first last result, outcome (poisson (embed mean)) first = (.ok result, last) ↔
        ∃ runs : List (List K),
          List.Forall₂ (fun chunk run => IsShortestRun (decay chunk) run) (chunks mean) runs ∧
          first.Draws embed runs.flatten last ∧
          result + (chunks mean).length = runs.flatten.length := by
  refine ⟨length_chunks mean, chunks_bounds mean, sum_chunks hmean, ?_⟩
  intro first last result
  rw [outcome_poisson_eq_ok_iff hexact hdecay hmean]
  apply exists_congr
  intro runs
  apply and_congr_right
  intro hruns
  rw [hruns.length_eq]

/-- An exponential that is a rational number. -/
def hyperbola : ℚ → ℚ := fun amount => 100 / (100 + amount)

/-- The words of four draws of one half. -/
def halves : List UInt32 :=
  [2147483648, 0, 2147483648, 0, 2147483648, 0, 2147483648, 0]

/-- A mean of 600 has a chunk of 500, which takes three halves, and one of 100, whose limit of one
half is met by a single one. -/
theorem poisson_runs_halves :
    Scalar.IsExact (.finite : ℚ → Exact hyperbola) hyperbola ∧
      (∀ amount, 0 < amount → amount ≤ 500 → hyperbola amount < 1) ∧ (0 : ℚ) ≤ 600 ∧
      (chunks (600 : ℚ)).length = 2 ∧ (chunks (600 : ℚ)).sum = 600 ∧
      outcome (poisson (.finite 600 : Exact hyperbola)) (.ofWords halves) =
        (.ok 2, .scripted halves []) := by
  have hdecay : ∀ amount, 0 < amount → amount ≤ 500 → hyperbola amount < 1 := by
    intro amount hpositive _
    rw [hyperbola, div_lt_one (by linarith)]
    linarith
  have hmean : (0 : ℚ) ≤ 600 := by norm_num
  obtain ⟨-, -, hsum, hpoisson⟩ := poisson_runs Exact.isExact hdecay hmean
  have hchunks : chunks (600 : ℚ) = [500, 100] := by
    rw [chunks_of_pos (by norm_num), chunks_of_pos (by norm_num), chunks_of_not_pos (by norm_num)]
    norm_num
  have hhalf : ∀ rest : List UInt32,
      outcome (unit (Exact hyperbola)) (.scripted halves (2147483648 :: 0 :: rest)) =
        (.ok (.finite (1 / 2)), .scripted halves rest) := by
    intro rest
    have hunit : outcome (unit (Exact hyperbola)) (.scripted halves (2147483648 :: 0 :: rest)) =
        (.ok (Scalar.fraction 4503599627370496), .scripted halves rest) :=
      unit_reads 2147483648 0 (.ofWords []) (.ofWords []) _ _
        (.scripted halves [2147483648, 0] rest)
    rw [hunit, Exact.isExact.fraction]
    norm_num
  refine ⟨Exact.isExact, hdecay, hmean, by rw [hchunks]; rfl, hsum, (hpoisson _ _ 2).mpr ?_⟩
  rw [hchunks]
  refine ⟨[[1 / 2, 1 / 2, 1 / 2], [1 / 2]], .cons ?_ (.cons ?_ .nil), ?_, rfl⟩
  · rw [isShortestRun_cons_iff (hdecay _ (by norm_num) (by norm_num))]
    simp only [isShortestFrom_cons_iff, isShortestFrom_nil_iff, hyperbola]
    norm_num
  · rw [isShortestRun_cons_iff (hdecay _ (by norm_num) (by norm_num)), isShortestFrom_nil_iff,
      hyperbola]
    norm_num
  · exact ⟨_, hhalf _, _, hhalf _, _, hhalf _, _, hhalf _, rfl⟩

end Draw

end GrammarFuzz.Random

import GrammarFuzz.Generator.Depth
import GrammarFuzz.Proofs.Grammar.Depth
import Mathlib.Tactic.NormNum.Pow

/-!
# Exact arithmetic

The generator computes with any scalars.  Here the scalars are the rational numbers with two
infinities and a value that is no number, under the usual rules for those three.  Only the
exponential is not rational; it is a parameter, and what holds for every `decay` holds for
whatever approximates it.

Where only finite values occur, nothing depends on their being rational: any ordered field will do,
as long as its elements are not rounded (`Scalar.IsExact`).

The estimates of depths stay among the depths of `Grammar.Depth`: the arithmetic of the
generator on them is addition, maximum and mean (`foldl_add_ofDepth`, `foldl_max_ofDepth`,
`div_ofDepth`).
-/

namespace GrammarFuzz

/-- A rational number, an infinity or no number; `decay` is the exponential of the negated value. -/
inductive Exact (decay : ℚ → ℚ) where
  | finite (value : ℚ)
  | infinite (negative : Bool)
  | undefined

namespace Exact

variable {decay : ℚ → ℚ}

/-- The sum; opposite infinities have none. -/
def add : Exact decay → Exact decay → Exact decay
  | finite a, finite b => finite (a + b)
  | finite _, infinite negative => infinite negative
  | infinite negative, finite _ => infinite negative
  | infinite first, infinite second => if first = second then infinite first else undefined
  | undefined, _ => undefined
  | _, undefined => undefined

/-- The value with the other sign. -/
def neg : Exact decay → Exact decay
  | finite a => finite (-a)
  | infinite negative => infinite (!negative)
  | undefined => undefined

/-- The product; an infinity and zero have none. -/
def mul : Exact decay → Exact decay → Exact decay
  | finite a, finite b => finite (a * b)
  | finite a, infinite negative =>
    if a = 0 then undefined else infinite (decide (a < 0) != negative)
  | infinite negative, finite b =>
    if b = 0 then undefined else infinite (negative != decide (b < 0))
  | infinite first, infinite second => infinite (first != second)
  | undefined, _ => undefined
  | _, undefined => undefined

/-- The quotient; there is none by zero or of two infinities. -/
def div : Exact decay → Exact decay → Exact decay
  | finite a, finite b => if b = 0 then undefined else finite (a / b)
  | finite _, infinite _ => finite 0
  | infinite negative, finite b =>
    if b = 0 then undefined else infinite (negative != decide (b < 0))
  | infinite _, infinite _ => undefined
  | undefined, _ => undefined
  | _, undefined => undefined

/-- The strict order, in which what is no number stands nowhere. -/
def lt : Exact decay → Exact decay → Bool
  | finite a, finite b => a < b
  | finite _, infinite negative => !negative
  | infinite negative, finite _ => negative
  | infinite first, infinite second => first && !second
  | undefined, _ => false
  | _, undefined => false

/-- The exponential of the negated value. -/
def expNeg : Exact decay → Exact decay
  | finite a => finite (decay a)
  | infinite false => finite 0
  | infinite true => infinite false
  | undefined => undefined

/-- The value in messages. -/
def text : Exact decay → String
  | finite a => toString a
  | infinite false => "inf"
  | infinite true => "-inf"
  | undefined => "nan"

instance : Scalar (Exact decay) where
  ofNat n := finite n
  infinity := infinite false
  fraction n := finite (n / 9007199254740992)
  add := add
  sub a b := add a (neg b)
  mul := mul
  div := div
  expNeg := expNeg
  lt := lt
  isInfinite
    | infinite _ => true
    | _ => false
  isFinite
    | finite _ => true
    | _ => false
  measure? := some
  text := text

end Exact

/-! ## Scalars without rounding -/

namespace Scalar

variable {K α : Type} [Field K] [LinearOrder K] [Scalar α] {embed : K → α} {decay : K → K}

/-- The elements of an ordered field are among the scalars and are computed with as in the field,
without rounding; `decay` is the exponential of the negated value. -/
structure IsExact (embed : K → α) (decay : K → K) : Prop where
  ofNat : ∀ number : ℕ, Scalar.ofNat number = embed number
  fraction : ∀ number : ℕ, Scalar.fraction number = embed (number / 2 ^ 53)
  sub : ∀ first second, Scalar.sub (embed first) (embed second) = embed (first - second)
  mul : ∀ first second, Scalar.mul (embed first) (embed second) = embed (first * second)
  expNeg : ∀ amount, Scalar.expNeg (embed amount) = embed (decay amount)
  lt : ∀ first second, Scalar.lt (embed first) (embed second) = decide (first < second)
  measure : ∀ amount, Scalar.measure? (embed amount) = some (embed amount)

namespace IsExact

variable (hexact : IsExact embed decay) {first second : K}
include hexact

theorem lt_iff : Scalar.lt (embed first) (embed second) = true ↔ first < second := by
  rw [hexact.lt, decide_eq_true_iff]

theorem zero_lt_iff : Scalar.lt (Scalar.ofNat 0) (embed first) = true ↔ 0 < first := by
  rw [hexact.ofNat, Nat.cast_zero, hexact.lt_iff]

theorem min_embed (first second : K) :
    Scalar.min (embed first) (embed second) = embed (Min.min first second) := by
  unfold Scalar.min
  by_cases hlt : second < first
  · rw [if_pos (hexact.lt_iff.mpr hlt), min_eq_right hlt.le]
  · rw [if_neg (mt hexact.lt_iff.mp hlt), min_eq_left (not_lt.mp hlt)]

end IsExact

end Scalar

namespace Exact

variable {decay : ℚ → ℚ}

theorem isExact : Scalar.IsExact (finite : ℚ → Exact decay) decay where
  ofNat _ := rfl
  fraction number := by
    have hpower : (2 : ℚ) ^ 53 = 9007199254740992 := by norm_num
    rw [hpower]
    rfl
  sub first second := congrArg finite (sub_eq_add_neg first second).symm
  mul _ _ := rfl
  expNeg _ := rfl
  lt _ _ := rfl
  measure _ := rfl

/-! ## Depths as exact numbers -/

open Grammar (Depth)

/-- A depth as an exact number. -/
def ofDepth : Depth → Exact decay
  | none => infinite false
  | some value => finite value

@[simp] theorem ofDepth_top : (ofDepth ⊤ : Exact decay) = infinite false := rfl

@[simp] theorem ofDepth_coe (value : ℚ) :
    (ofDepth (value : Depth) : Exact decay) = finite value := rfl

theorem ofDepth_injective : Function.Injective (ofDepth : Depth → Exact decay) := by
  intro first second heq
  induction first using WithTop.recTopCoe <;> induction second using WithTop.recTopCoe <;>
    cases heq <;> rfl

theorem ofDepth_one : (ofDepth 1 : Exact decay) = Scalar.ofNat 1 := by
  show finite 1 = finite ((1 : Nat) : ℚ)
  rw [Nat.cast_one]

theorem add_ofDepth (a b : Depth) :
    Scalar.add (ofDepth a) (ofDepth b) = (ofDepth (a + b) : Exact decay) := by
  induction a using WithTop.recTopCoe with
  | top => induction b using WithTop.recTopCoe <;> rfl
  | coe a => induction b using WithTop.recTopCoe <;> rfl

theorem lt_ofDepth (a b : Depth) :
    Scalar.lt (ofDepth a : Exact decay) (ofDepth b) = decide (a < b) := by
  induction a using WithTop.recTopCoe with
  | top => induction b using WithTop.recTopCoe <;> simp [Scalar.lt, lt]
  | coe a =>
      induction b using WithTop.recTopCoe with
      | top => simp [Scalar.lt, lt]
      | coe b => simp [Scalar.lt, lt, WithTop.coe_lt_coe]

theorem max_ofDepth (a b : Depth) :
    Scalar.max (ofDepth a) (ofDepth b) = (ofDepth (max a b) : Exact decay) := by
  rw [Scalar.max, lt_ofDepth]
  by_cases hlt : a < b
  · rw [decide_eq_true hlt, if_pos rfl, max_eq_right hlt.le]
  · rw [decide_eq_false hlt, if_neg (by simp), max_eq_left (not_lt.mp hlt)]

theorem deeper_ofDepth (depth : Depth) :
    Generator.deeper (ofDepth depth) = (ofDepth (1 + depth) : Exact decay) := by
  rw [Generator.deeper, ← ofDepth_one, add_ofDepth]

theorem foldl_max_ofDepth (depths : List Depth) (first : Depth) :
    (depths.map ofDepth).foldl Scalar.max (ofDepth first) =
      (ofDepth (depths.foldl max first) : Exact decay) := by
  induction depths generalizing first with
  | nil => rfl
  | cons depth rest ih => rw [List.map_cons, List.foldl_cons, List.foldl_cons, max_ofDepth, ih]

theorem foldl_add_ofDepth (depths : List Depth) (first : Depth) :
    (depths.map ofDepth).foldl Scalar.add (ofDepth first) =
      (ofDepth (first + depths.sum) : Exact decay) := by
  induction depths generalizing first with
  | nil => rw [List.map_nil, List.foldl_nil, List.sum_nil, add_zero]
  | cons depth rest ih =>
      rw [List.map_cons, List.foldl_cons, List.sum_cons, add_ofDepth, ih, add_assoc]

theorem foldl_max_eq (depths : List Depth) {first : Depth} (hfirst : 0 ≤ first) :
    depths.foldl max first = Depth.greatest (first :: depths) := by
  induction depths generalizing first with
  | nil => exact (max_eq_left hfirst).symm
  | cons depth rest ih =>
      rw [List.foldl_cons, ih (hfirst.trans (le_max_left _ _))]
      exact max_assoc _ _ _

theorem div_ofDepth (depth : Depth) {count : Nat} (hcount : count ≠ 0) :
    Scalar.div (ofDepth depth) (Scalar.ofNat count) =
      (ofDepth (depth.map (· / count)) : Exact decay) := by
  have hne : (count : ℚ) ≠ 0 := Nat.cast_ne_zero.mpr hcount
  have hsign : ¬ (count : ℚ) < 0 := (Nat.cast_nonneg count).not_gt
  induction depth using WithTop.recTopCoe with
  | top => simp [Scalar.div, Scalar.ofNat, div, hne, hsign]
  | coe value => simp [Scalar.div, Scalar.ofNat, div, hne]

theorem sum_ofDepth (depths : List Depth) :
    Scalar.sum (depths.map ofDepth) = (ofDepth depths.sum : Exact decay) := by
  have hzero : (Scalar.ofNat 0 : Exact decay) = ofDepth 0 := by
    show finite ((0 : Nat) : ℚ) = finite 0
    rw [Nat.cast_zero]
  rw [Scalar.sum, hzero, foldl_add_ofDepth, zero_add]

end Exact

end GrammarFuzz

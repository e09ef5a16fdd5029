import GrammarFuzz.Number
import GrammarFuzz.Random.Source

/-!
# Random draws

A draw is a computation that uses up words of a source and may fail; a failed draw keeps
the words it has used.  The draws here are the building blocks: some leading
bits of a word, a number below a bound by rejection, a fraction of 53 bits, an
item of a list with equal or given weights.
-/

namespace GrammarFuzz.Random

/-- Why a draw fails. -/
inductive DrawError where
  /-- The source has no words left. -/
  | exhausted
  /-- There is nothing to pick from with equal chances. -/
  | emptyUniform
  /-- There is nothing to choose from. -/
  | emptyChoice
  /-- No number lies between the two bounds. -/
  | emptyRange (low high : Int)
  /-- Items and weights differ in number. -/
  | weightCount
  /-- There is nothing to pick from with weights. -/
  | noWeights
  /-- The weights add up to nothing. -/
  | totalNotPositive
  /-- The weights add up to no finite number. -/
  | totalNotFinite
  /-- A number is too large for a measured quantity. -/
  | tooLarge
  /-- The mean of a distribution is below zero; `mean` is its text. -/
  | negativeMean (mean : String)
  deriving DecidableEq, Repr

/-- The wording of a failed draw. -/
def DrawError.message : DrawError → String
  | .exhausted => "no words left"
  | .emptyUniform => "empty range for randrange()"
  | .emptyChoice => "Cannot choose from an empty sequence"
  | .emptyRange low high =>
    "empty range for randrange() (" ++ toString low ++ ", " ++ toString (high + 1) ++ ", " ++
      toString (high + 1 - low) ++ ")"
  | .weightCount => "items and weights must have the same length"
  | .noWeights => "list index out of range"
  | .totalNotPositive => "Total of weights must be greater than zero"
  | .totalNotFinite => "Total of weights must be finite"
  | .tooLarge => "int too large to convert to float"
  | .negativeMean mean => "Poisson mean must not be negative: " ++ mean

/-- A computation that draws from a source. -/
abbrev Draw (α : Type) := ExceptT DrawError (StateM Source) α

namespace Draw

/-- The next word. -/
def word : Draw UInt32 := do
  match (← get).next? with
  | some (word, source) =>
    set source
    return word
  | none => throw .exhausted

/-- A number of `count` bits: the leading bits of the next word.  For more than 32 bits whole
words come first, from the low end. -/
def bits (count : Nat) : Draw Nat := do
  if count ≤ 32 then
    return (← word).toNat / Nat.pow 2 (32 - count)
  else
    let low ← word
    let high ← bits (count - 32)
    return low.toNat + high * Nat.pow 2 32
  termination_by count

/-- The number of bits that `bound` takes. -/
def bitLength (bound : Nat) : Nat :=
  if bound = 0 then 0 else bound.log2 + 1

/-- Draws numbers of as many bits as the bound takes until one lies below the bound.  `fuel` is
the number of words left, so that the source gives out first. -/
def belowLoop (bound : Nat) : (fuel : Nat) → Draw (Fin bound)
  | 0 => throw .exhausted
  | fuel + 1 => do
    let value ← bits (bitLength bound)
    if h : value < bound then return ⟨value, h⟩ else belowLoop bound fuel

/-- A number below a bound, each with the same chance. -/
def below (bound : Nat) : Draw (Fin bound) := do
  belowLoop bound ((← get).left + 1)

/-- A fraction of 53 bits: 27 leading bits of a word and 26 of the one after it. -/
def fraction : Draw Nat := do
  let high ← bits 27
  let low ← bits 26
  return high * Nat.pow 2 26 + low

/-- A scalar in the interval from zero to below one. -/
def unit (α : Type) [Scalar α] : Draw α :=
  return Scalar.fraction (← fraction)

/-- A number from `low` to `high`, each with the same chance. -/
def between (low high : Int) : Draw Int := do
  if high < low then throw (.emptyRange low high)
  else return low + ((← below (high - low + 1).toNat) : Nat)

/-- An item of a list, each with the same chance, or `failure` if there is none. -/
def pick {α : Type} (failure : DrawError) (items : List α) : Draw α := do
  if items.isEmpty then throw failure
  else return items.get (← below items.length)

/-- An item of a list, each with the same chance. -/
def uniform {α : Type} (items : List α) : Draw α :=
  pick .emptyUniform items

/-- The sums of the first one, two, … of the values after the sum `total`. -/
def runningSums {α : Type} [Scalar α] (total : α) : List α → List α
  | [] => []
  | value :: rest =>
    let total := Scalar.add total value
    total :: runningSums total rest

/-- The sums of the first one, two, … of the values. -/
def sums {α : Type} [Scalar α] : List α → List α
  | [] => []
  | value :: rest => value :: runningSums value rest

/-- The first place from `low` to `high` whose sum is above the point, found by halving; the last
place if there is none. -/
def bisect {α : Type} [Scalar α] (sums : Array α) (point : α) (low high : Nat) : Nat :=
  if low < high then
    let middle := (low + high) / 2
    if Scalar.lt point (sums.getD middle point) then bisect sums point low middle
    else bisect sums point (middle + 1) high
  else low
  termination_by high - low

/-- An item of a list, with chances in proportion to the weights. -/
def weighted {α β : Type} [Scalar α] (items : List β) (weights : List α) : Draw β := do
  if items.length ≠ weights.length then throw .weightCount
  let sums := (sums weights).toArray
  match sums.back? with
  | none => throw .noWeights
  | some total =>
    match Scalar.measure? total with
    | none => throw .tooLarge
    | some total =>
      -- a total that is no number is not above zero either, but fails for not being finite
      if !Scalar.lt (Scalar.ofNat 0) total then
        if Scalar.isFinite total || Scalar.isInfinite total then throw .totalNotPositive
        else throw .totalNotFinite
      else if !Scalar.isFinite total then throw .totalNotFinite
      else
        let point := Scalar.mul (← unit α) total
        match items[bisect sums point 0 (items.length - 1)]? with
        | some item => return item
        | none => throw .noWeights

end Draw

end GrammarFuzz.Random

import GrammarFuzz.Random.Draw

/-!
# Poisson draws

A Poisson number by multiplication of fractions: fractions are drawn until their product
is no longer above `exp (-mean)`, and the number of draws less one is the result.
The exponential of a large mean vanishes, so the mean is split into chunks of at
most 500; the numbers of the chunks add up, and their sum is a Poisson number again.
-/

namespace GrammarFuzz.Random.Draw

variable {α : Type} [Scalar α]

/-- The largest chunk of a mean. -/
def chunkSize : Nat := 500

/-- Multiplies fractions to the product until it is no longer above the limit, and adds one to
the count for each.  `fuel` is the number of words left. -/
def countArrivals (limit : α) : (fuel : Nat) → (count : Nat) → (product : α) → Draw Nat
  | 0, _, _ => throw .exhausted
  | fuel + 1, count, product => do
    if Scalar.lt limit product then
      let factor ← unit α
      countArrivals limit fuel (count + 1) (Scalar.mul product factor)
    else return count

/-- Adds the numbers of the chunks of the remaining mean to the count.  `fuel` is the number of
words left: each chunk takes some. -/
def countChunks : (fuel : Nat) → (count : Nat) → (remaining : α) → Draw Nat
  | 0, _, _ => throw .exhausted
  | fuel + 1, count, remaining => do
    if Scalar.lt (Scalar.ofNat 0) remaining then
      let chunk := Scalar.min remaining (Scalar.ofNat chunkSize)
      let first ← unit α
      let count ← countArrivals (Scalar.expNeg chunk) ((← get).left + 1) count first
      countChunks fuel count (Scalar.sub remaining chunk)
    else return count

/-- A Poisson number of the given mean. -/
def poisson (mean : α) : Draw Nat := do
  if Scalar.lt mean (Scalar.ofNat 0) then throw (.negativeMean (Scalar.text mean))
  else if Scalar.lt (Scalar.ofNat 0) mean then
    match Scalar.measure? mean with
    | none => throw .tooLarge
    | some mean => countChunks ((← get).left + 1) 0 mean
  else return 0

end GrammarFuzz.Random.Draw

import GrammarFuzz.Decimal.Shortest

/-!
# Numbers and scalars

A number of a document or an option is an integer of any size or a double, and the
two print differently.  `Scalar` is the arithmetic that the random draws and the depth
estimates need.  Programs run on `Number`; the theory runs the same definitions on
exact arithmetic.
-/

namespace GrammarFuzz

/-- An integer or a double. -/
inductive Number where
  | int (value : Int)
  | float (value : Float)

namespace Number

/-- The value as a double; an integer is rounded. -/
def toFloat : Number → Float
  | int value => Decimal.nearestInt value
  | float value => value

/-- The value as a double, unless it is an integer too large for one. -/
def toFloat? : Number → Option Float
  | int value =>
    let rounded := Decimal.nearestInt value
    if Decimal.isFinite rounded then some rounded else none
  | float value => some value

/-- The text of a number. -/
def text : Number → String
  | int value => toString value
  | float value => Decimal.floatText value

/-- Integers add exactly; otherwise doubles are added. -/
def add : Number → Number → Number
  | int a, int b => int (a + b)
  | a, b => float (a.toFloat + b.toFloat)

/-- Integers subtract exactly; otherwise doubles are subtracted. -/
def sub : Number → Number → Number
  | int a, int b => int (a - b)
  | a, b => float (a.toFloat - b.toFloat)

/-- Integers multiply exactly; otherwise doubles are multiplied. -/
def mul : Number → Number → Number
  | int a, int b => int (a * b)
  | a, b => float (a.toFloat * b.toFloat)

/-- The quotient as a double. -/
def div (a b : Number) : Number :=
  float (a.toFloat / b.toFloat)

/-- The exact order of an integer and a double; a double that is no number compares with
nothing. -/
def compareIntFloat? (a : Int) (b : Float) : Option Ordering :=
  match Decimal.Binary64.decode? b with
  | some exact => some (Decimal.compareInt a exact)
  | none => if b.isNaN then none else if 0 < b then some .lt else some .gt

/-- The exact order. -/
def lt : Number → Number → Bool
  | int a, int b => a < b
  | float a, float b => a < b
  | int a, float b => compareIntFloat? a b == some .lt
  | float a, int b => compareIntFloat? b a == some .gt

/-- Equality of values, whatever their form. -/
def same : Number → Number → Bool
  | int a, int b => a == b
  | float a, float b => a == b
  | int a, float b => compareIntFloat? a b == some .eq
  | float a, int b => compareIntFloat? b a == some .eq

/-- Whether the value is an infinity. -/
def isInfinite : Number → Bool
  | int _ => false
  | float value => value.isInf

/-- Whether the value is no number and so compares with nothing. -/
def isUnordered : Number → Bool
  | int _ => false
  | float value => value.isNaN

/-- Whether the value is neither an infinity nor no number. -/
def isFinite : Number → Bool
  | int _ => true
  | float value => Decimal.isFinite value

end Number

/-- The arithmetic of draws and estimates. -/
class Scalar (α : Type) where
  /-- The value of a natural number. -/
  ofNat : Nat → α
  /-- A value above all finite ones. -/
  infinity : α
  /-- The fraction `n / 2 ^ 53`. -/
  fraction : Nat → α
  add : α → α → α
  sub : α → α → α
  mul : α → α → α
  div : α → α → α
  /-- The exponential of the negated value. -/
  expNeg : α → α
  /-- The strict order. -/
  lt : α → α → Bool
  isInfinite : α → Bool
  isFinite : α → Bool
  /-- The value as a measured quantity; `none` if it is too large for one. -/
  measure? : α → Option α
  /-- The text of the value in messages. -/
  text : α → String

instance : Scalar Number where
  ofNat n := .int n
  infinity := .float (Float.ofBits 0x7ff0000000000000)
  fraction n := .float (n.toFloat / 9007199254740992)
  add := Number.add
  sub := Number.sub
  mul := Number.mul
  div := Number.div
  expNeg value := .float (Float.exp (-value.toFloat))
  lt := Number.lt
  isInfinite := Number.isInfinite
  isFinite := Number.isFinite
  measure? value := value.toFloat?.map .float
  text := Number.text

namespace Scalar

variable {α : Type} [Scalar α]

/-- The greater of two values; the first one unless the second is above it. -/
def max (a b : α) : α := if lt a b then b else a

/-- The smaller of two values; the first one unless the second is below it. -/
def min (a b : α) : α := if lt b a then b else a

/-- The sum of a list, from left to right. -/
def sum (values : List α) : α := values.foldl add (ofNat 0)

end Scalar

end GrammarFuzz

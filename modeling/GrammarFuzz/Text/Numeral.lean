import GrammarFuzz.Text.Blank
import GrammarFuzz.Text.Letter
import GrammarFuzz.Decimal.Binary64
import GrammarFuzz.Interpreter

/-!
# Numerals

Numbers as a person types them: white space around, a sign, decimal digits of any
script, and a low line between two digits.
-/

namespace GrammarFuzz.Text

/-- Removes the low lines between digits; `none` if one stands elsewhere. -/
def joinDigits (afterDigit : Bool) : List Char → Option (List Char)
  | [] => some []
  | '_' :: next :: rest =>
    if afterDigit && isDigit next then (joinDigits true rest).map (next :: ·) else none
  | c :: rest =>
    if c = '_' then none else (joinDigits (isDigit c) rest).map (c :: ·)

/-- The number that digits denote after the number `value`. -/
def digitsValue? (value : Nat) : List Char → Option Nat
  | [] => some value
  | c :: rest => do
    let digit ← digitValue? c
    digitsValue? (value * 10 + digit) rest

/-- Splits off a sign; the truth value says whether it is a minus. -/
def splitSign : List Char → Bool × List Char
  | '-' :: rest => (true, rest)
  | '+' :: rest => (false, rest)
  | rest => (false, rest)

/-- The integer that a numeral denotes, if it has no more digits than the limit allows. -/
def parseInt? (digitLimit : Option Nat) (text : String) : Option Int := do
  let (negative, digits) := splitSign (stripList text.toList)
  let digits ← joinDigits false digits
  if digits.isEmpty ∨ (Interpreter.digitsOver? digitLimit digits.length).isSome then none
  let size ← digitsValue? 0 digits
  return if negative then -(size : Int) else size

/-- A word in lower case. -/
def lowerWord (characters : List Char) : String :=
  String.ofList (characters.map Char.toLower)

/-- The exponent at the end of a numeral, nothing meaning zero. -/
def parseExponent? : List Char → Option Int
  | [] => some 0
  | c :: rest => do
    if c ≠ 'e' ∧ c ≠ 'E' then none
    let (negative, digits) := splitSign rest
    if digits.isEmpty then none
    let size ← digitsValue? 0 digits
    return if negative then -(size : Int) else size

/-- The double that a numeral denotes: digits with a point and an exponent, an infinity, or no
number. -/
def parseFloat? (text : String) : Option Float := do
  let (negative, body) := splitSign (stripList text.toList)
  let word := lowerWord body
  if word = "inf" ∨ word = "infinity" then
    return Float.ofBits (if negative then 0xfff0000000000000 else 0x7ff0000000000000)
  if word = "nan" then
    return Float.ofBits 0x7ff8000000000000
  let body ← joinDigits false body
  let whole := body.takeWhile isDigit
  let rest := body.dropWhile isDigit
  let (fraction, rest) :=
    match rest with
    | '.' :: rest => (rest.takeWhile isDigit, rest.dropWhile isDigit)
    | rest => ([], rest)
  if whole.isEmpty && fraction.isEmpty then none
  let exponent ← parseExponent? rest
  let digits ← digitsValue? 0 (whole ++ fraction)
  return Decimal.nearestDecimal negative digits (exponent - fraction.length)

end GrammarFuzz.Text

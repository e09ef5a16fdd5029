import GrammarFuzz.Decimal.Binary64

/-!
# The shortest decimal of a double

The fewest digits that read back as the same double, and of those the nearest
to it.  For each number of digits only the two grid points around the value can
be the nearest, so they are tried in exact arithmetic until one of them lies in
the interval of reals that round to the double.
-/

namespace GrammarFuzz.Decimal

/-- The decimal `digits · 10 ^ exponent`. -/
structure Expansion where
  digits : Nat
  exponent : Int
  deriving DecidableEq, Repr

/-- The reals that round to a positive double, in quarters of its last place: from `low` to
`high` around `4 * significand`, with the ends if `closed`. -/
structure Rounding where
  low : Nat
  middle : Nat
  high : Nat
  closed : Bool

/-- The rounding interval of a double.  It is shorter below a power of two. -/
def Binary64.rounding (value : Binary64) : Rounding where
  low := 4 * value.significand -
    (if value.significand = Nat.pow 2 52 ∧ value.exponent ≠ -1074 then 1 else 2)
  middle := 4 * value.significand
  high := 4 * value.significand + 2
  closed := value.significand % 2 = 0

/-- Powers that bring `10 ^ exponent` and a quarter of the last place to one unit: a decimal
`d · 10 ^ exponent` and `q` quarters compare like `d * fst` and `q * snd`. -/
def commonUnit (value : Binary64) (exponent : Int) : Nat × Nat :=
  let quarter := value.exponent - 2
  (Nat.pow 10 exponent.toNat * Nat.pow 2 (-quarter).toNat,
    Nat.pow 10 (-exponent).toNat * Nat.pow 2 quarter.toNat)

/-- The grid point nearest to the value, of those with this exponent that lie in the rounding
interval. -/
def onGrid? (value : Binary64) (exponent : Int) : Option Nat :=
  let (ten, two) := commonUnit value exponent
  let interval := value.rounding
  let inside (d : Nat) : Bool :=
    if interval.closed then interval.low * two ≤ d * ten && d * ten ≤ interval.high * two
    else interval.low * two < d * ten && d * ten < interval.high * two
  let below := interval.middle * two / ten
  match inside below, inside (below + 1) with
  | true, true =>
    let down := interval.middle * two - below * ten
    let up := (below + 1) * ten - interval.middle * two
    if down < up ∨ (down = up ∧ below % 2 = 0) then some below else some (below + 1)
  | true, false => some below
  | false, true => some (below + 1)
  | false, false => none

/-- The number of digits before the point: the least `e` with value below `10 ^ e`. -/
def magnitude (value : Binary64) : Int :=
  let estimate : Int := (value.exponent + value.significand.log2) * 30103 / 100000
  let reaches (exponent : Int) : Bool :=
    let (ten, two) := commonUnit value exponent
    ten ≤ 4 * value.significand * two
  if reaches (estimate + 1) then estimate + 2
  else if reaches estimate then estimate + 1
  else estimate

/-- Tries the grids of `count`, `count + 1`, … digits, `fuel` of them. -/
def shortestFrom (value : Binary64) (size : Int) : (fuel : Nat) → (count : Nat) → Expansion
  | 0, _ => ⟨value.significand, value.exponent⟩
  | fuel + 1, count =>
    match onGrid? value (size - count) with
    | some digits => ⟨digits, size - count⟩
    | none => shortestFrom value size fuel (count + 1)

/-- The shortest decimal that reads back as a positive double; seventeen digits always do. -/
def Binary64.shortest (value : Binary64) : Expansion :=
  shortestFrom value (magnitude value) 17 1

/-- Drops zeros at the end of the digits, `fuel` of them at most. -/
def Expansion.trim : (fuel : Nat) → Expansion → Expansion
  | 0, decimal => decimal
  | fuel + 1, decimal =>
    if decimal.digits % 10 = 0 ∧ decimal.digits ≠ 0 then
      Expansion.trim fuel ⟨decimal.digits / 10, decimal.exponent + 1⟩
    else decimal

/-- Writes a decimal: positional if the point falls less than four places before the digits and
at most sixteen places after their start, else with an exponent of at least two digits.
Positional notation always shows a fraction. -/
def Expansion.text (decimal : Expansion) : String :=
  let decimal := decimal.trim 400
  let digits := toString decimal.digits
  let point : Int := decimal.exponent + digits.length
  if -4 < point ∧ point ≤ 16 then
    if point ≤ 0 then
      "0." ++ String.ofList (List.replicate (-point).toNat '0') ++ digits
    else if decimal.exponent ≥ 0 then
      digits ++ String.ofList (List.replicate decimal.exponent.toNat '0') ++ ".0"
    else
      String.ofList (digits.toList.take point.toNat) ++ "." ++
        String.ofList (digits.toList.drop point.toNat)
  else
    let exponent := point - 1
    let mantissa :=
      match digits.toList with
      | [] => ""
      | [first] => String.ofList [first]
      | first :: rest => String.ofList (first :: '.' :: rest)
    let size := toString exponent.natAbs
    mantissa ++ "e" ++ (if exponent < 0 then "-" else "+") ++
      (if size.length < 2 then "0" ++ size else size)

/-- The text of a double: the shortest decimal that reads back, `inf` or `nan`. -/
def floatText (value : Float) : String :=
  match Binary64.decode? value with
  | none => if value.isNaN then "nan" else if value < 0 then "-inf" else "inf"
  | some exact =>
    let magnitude :=
      if exact.significand = 0 then "0.0" else exact.shortest.text
    if exact.negative then "-" ++ magnitude else magnitude

end GrammarFuzz.Decimal

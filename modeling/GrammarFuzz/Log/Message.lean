import GrammarFuzz.Json.Basic

/-!
# Messages with arguments

A message may hold directives that arguments are put into: `%s` for the text of a value, `%r`
for its quoted form, `%d` and `%i` for a whole number and `%%` for a percent sign.  A
message without arguments stays as it is.
-/

namespace GrammarFuzz.Log

/-- A value as a whole number. -/
def wholeNumber? : Json → Option Int
  | .number (.int value) => some value
  | .number (.float value) =>
    (Decimal.Binary64.decode? value).map fun exact =>
      let magnitude : Nat :=
        if 0 ≤ exact.exponent then exact.significand * Nat.pow 2 exact.exponent.toNat
        else exact.significand / Nat.pow 2 (-exact.exponent).toNat
      if exact.negative then -(magnitude : Int) else magnitude
  | .bool value => some (if value then 1 else 0)
  | _ => none

/-- Puts arguments into a message; nothing if the directives and the arguments do not fit. -/
def fill : List Char → List Json → Option (List Char)
  | [], [] => some []
  | [], _ :: _ => none
  | '%' :: '%' :: rest, arguments => (fill rest arguments).map ('%' :: ·)
  | '%' :: 's' :: rest, argument :: arguments =>
    (fill rest arguments).map (argument.bare.toList ++ ·)
  | '%' :: 'r' :: rest, argument :: arguments =>
    (fill rest arguments).map (argument.shown.toList ++ ·)
  | '%' :: 'd' :: rest, argument :: arguments => do
    return (toString (← wholeNumber? argument)).toList ++ (← fill rest arguments)
  | '%' :: 'i' :: rest, argument :: arguments => do
    return (toString (← wholeNumber? argument)).toList ++ (← fill rest arguments)
  | '%' :: _, _ => none
  | c :: rest, arguments => (fill rest arguments).map (c :: ·)

/-- The message of a template and its arguments. -/
def message? (template : String) (arguments : List Json) : Option String :=
  if arguments.isEmpty then some template
  else (fill template.toList arguments).map String.ofList

end GrammarFuzz.Log

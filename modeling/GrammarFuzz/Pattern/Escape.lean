import GrammarFuzz.Pattern.Scanner

/-!
# Escapes of patterns

What a backslash and the characters after it mean, inside and outside character sets.
-/

namespace GrammarFuzz.Pattern

/-- An escape inside a set: a code point or a class. -/
inductive SetEscape where
  | point (value : Nat)
  | category (category : Category) (negated : Bool)

/-- The control characters that single letters stand for, and the backslash. -/
def controlEscape? (c : Char) : Option Nat :=
  match c with
  | 'a' => some 7
  | 'b' => some 8
  | 'f' => some 12
  | 'n' => some 10
  | 'r' => some 13
  | 't' => some 9
  | 'v' => some 11
  | '\\' => some 0x5c
  | _ => none

/-- The classes that single letters stand for. -/
def categoryEscape? (c : Char) : Option (Category × Bool) :=
  match c with
  | 'd' => some (.digit, false)
  | 'D' => some (.digit, true)
  | 's' => some (.space, false)
  | 'S' => some (.space, true)
  | 'w' => some (.word, false)
  | 'W' => some (.word, true)
  | _ => none

/-- The places that single letters stand for. -/
def anchorEscape? (c : Char) : Option Anchor :=
  match c with
  | 'A' => some .textStart
  | 'b' => some .boundary
  | 'B' => some .notBoundary
  | 'Z' => some .textEnd
  | _ => none

/-- Whether a character is an octal digit. -/
def isOctal (c : Char) : Bool := '0' ≤ c && c ≤ '7'

/-- Whether a character is a hexadecimal digit. -/
def isHex (c : Char) : Bool :=
  c.isDigit || ('a' ≤ c && c ≤ 'f') || ('A' ≤ c && c ≤ 'F')

/-- The number that digits denote in a base up to sixteen. -/
def numeral (base : Nat) (digits : List Char) : Nat :=
  let value (c : Char) : Nat :=
    if c.isDigit then c.toNat - 0x30
    else if 'a' ≤ c then c.toNat - 0x57
    else c.toNat - 0x37
  digits.foldl (fun total c => total * base + value c) 0

/-- The text of an escape: a backslash, its letter and the digits after it. -/
def escapeText (c : Char) (digits : List Char) : String :=
  String.ofList ('\\' :: c :: digits)

namespace Parse

/-- Fails at the start of an escape that has been taken. -/
def failEscape {α : Type} (fault : String → Fault) (c : Char) (digits : List Char) : Parse α :=
  failBefore (digits.length + 2) (fault (escapeText c digits))

/-- A code point of exactly `count` hexadecimal digits. -/
def hexEscape (c : Char) (count : Nat) : Parse Nat := do
  let digits ← takeWhile isHex count
  if digits.length ≠ count then failEscape .incompleteEscape c digits
  let value := numeral 16 digits
  if 0x7fffffff < value then throw .escapeTooLarge
  if 0x10ffff < value then failEscape .unknownEscape c digits
  return value

/-- A character by its name in braces. -/
def namedEscape : Parse Nat := do
  if !(← accept '\x7b') then fail .missingBrace
  let name ← name '\x7d' "character name"
  match (← get).interpreter.characterNames name with
  | some value => return value
  | none => failBefore (name.length + 4) (.unknownCharacterName name)

/-- An octal escape must stay within a byte. -/
def octalPoint (c : Char) (digits : List Char) : Parse Nat := do
  let value := numeral 8 (c :: digits)
  if 0o377 < value then failEscape .octalTooLarge c digits
  return value

/-- An escape that is written with digits, a name or a character of its own. -/
def codeEscape? (c : Char) : Parse (Option Nat) := do
  match c with
  | 'x' => some <$> hexEscape c 2
  | 'u' => some <$> hexEscape c 4
  | 'U' => some <$> hexEscape c 8
  | 'N' => some <$> namedEscape
  | _ => return none

/-- An escape inside a set, after its backslash and `c` have been taken. -/
def setEscape (c : Char) : Parse SetEscape := do
  match controlEscape? c, categoryEscape? c with
  | some value, _ => return .point value
  | none, some (category, negated) => return .category category negated
  | none, none =>
    match ← codeEscape? c with
    | some value => return .point value
    | none =>
      if isOctal c then
        return .point (← octalPoint c (← takeWhile isOctal 2))
      else if c.isDigit || c.isAlpha then failEscape .unknownEscape c []
      else return .point c.toNat

/-- A reference to a group, or an octal code of three digits; `c` is the first digit. -/
def digitEscape (c : Char) : Parse Item := do
  let mut digits : List Char := []
  match (← get).next with
  | some (.plain second) =>
    if second.isDigit then
      discard take
      digits := [second]
      match (← get).next with
      | some (.plain third) =>
        -- three octal digits are a code, however many groups there are
        if isOctal c && isOctal second && isOctal third then
          discard take
          return .point (← octalPoint c [second, third])
      | _ => pure ()
  | _ => pure ()
  let number := numeral 10 (c :: digits)
  if number < (← groupCount) then
    if !(← isClosed number) then failBefore (digits.length + 2) .openGroup
    checkLookBehind number
    return .reference number
  else failBefore (digits.length + 1) (.groupReference number)

/-- An escape outside sets, after its backslash and `c` have been taken. -/
def itemEscape (c : Char) : Parse Item := do
  match anchorEscape? c, categoryEscape? c, controlEscape? c with
  | some anchor, _, _ => return .anchor anchor
  | none, some (category, negated), _ => return .oneOf false [.category category negated]
  | none, none, some value => return .point value
  | none, none, none =>
    match ← codeEscape? c with
    | some value => return .point value
    | none =>
      if c = '0' then return .point (numeral 8 (c :: (← takeWhile isOctal 2)))
      else if c.isDigit then digitEscape c
      else if c.isAlpha then failEscape .unknownEscape c []
      else return .point c.toNat

end Parse

end GrammarFuzz.Pattern

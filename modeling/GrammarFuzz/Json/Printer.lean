import GrammarFuzz.Json.Basic

/-!
# Writing a document

A document is written in ASCII: every other character of a text becomes a `\u` escape, those
beyond the first plane two.  There is a form on one line and one with a line for each
member, indented by two spaces a level.
-/

namespace GrammarFuzz.Json

/-- A 16-bit unit as an escape. -/
def unitEscape (unit : Nat) : List Char :=
  '\\' :: 'u' :: Text.hexDigits 4 unit

/-- A character as it stands in a written text. -/
def escapeCharacter (c : Char) : List Char :=
  if c = '"' then ['\\', '"']
  else if c = '\\' then ['\\', '\\']
  else if c = '\n' then ['\\', 'n']
  else if c = '\r' then ['\\', 'r']
  else if c = '\t' then ['\\', 't']
  else if c = '\x08' then ['\\', 'b']
  else if c = '\x0c' then ['\\', 'f']
  else if 0x20 ≤ c.toNat ∧ c.toNat < 0x7f then [c]
  else if c.toNat < 0x10000 then unitEscape c.toNat
  else
    let above := c.toNat - 0x10000
    unitEscape (0xd800 + above / 0x400) ++ unitEscape (0xdc00 + above % 0x400)

/-- A text between double quotes. -/
def writtenText (text : String) : List Char :=
  '"' :: text.toList.flatMap escapeCharacter ++ ['"']

/-- A number as it is written. -/
def writtenNumber : Number → String
  | .int value => toString value
  | .float value =>
    if value.isNaN then "NaN"
    else if value.isInf then (if value < 0 then "-Infinity" else "Infinity")
    else Decimal.floatText value

/-- A line break and the indentation of a level; nothing on one line. -/
def lineBreak : Option Nat → List Char
  | none => []
  | some level => '\n' :: List.replicate (2 * level) ' '

/-- What separates two members: a comma, and a space on one line. -/
def separator : Option Nat → List Char
  | none => [',', ' ']
  | some level => ',' :: lineBreak (some level)

mutual

/-- Writes a value.  `level` is the level of indentation, if there is one line a member. -/
def written (level : Option Nat) : Json → List Char
  | null => "null".toList
  | bool value => (if value then "true" else "false").toList
  | number value => (writtenNumber value).toList
  | text value => writtenText value
  | list [] => ['[', ']']
  | list items =>
    let inner := level.map (· + 1)
    '[' :: lineBreak inner ++ writtenItems inner items ++ lineBreak level ++ [']']
  | object [] => ['\x7b', '\x7d']
  | object members =>
    let inner := level.map (· + 1)
    '\x7b' :: lineBreak inner ++ writtenMembers inner members ++ lineBreak level ++ ['\x7d']

/-- Writes the items of a list. -/
def writtenItems (level : Option Nat) : List Json → List Char
  | [] => []
  | [item] => written level item
  | item :: rest => written level item ++ separator level ++ writtenItems level rest

/-- Writes the members of an object. -/
def writtenMembers (level : Option Nat) : List (String × Json) → List Char
  | [] => []
  | [(name, value)] => writtenText name ++ ':' :: ' ' :: written level value
  | (name, value) :: rest =>
    writtenText name ++ ':' :: ' ' :: written level value ++ separator level ++
      writtenMembers level rest

end

/-- The value on one line. -/
def compact (value : Json) : String := String.ofList (written none value)

/-- The value with one line for each member. -/
def indented (value : Json) : String := String.ofList (written (some 0) value)

end GrammarFuzz.Json

import GrammarFuzz.Text.Printable

/-!
# Quoted text

The form in which messages show a text: between single quotes, or between
double quotes if the text holds a single quote and no double one.  The quote in
use and the backslash are escaped, and so is everything that is not printable.
-/

namespace GrammarFuzz.Text

/-- A lower case hexadecimal digit. -/
def hexDigit (value : Nat) : Char :=
  if value < 10 then Char.ofNat (0x30 + value) else Char.ofNat (0x57 + value)

/-- The last `width` hexadecimal digits of a number. -/
def hexDigits : (width : Nat) → Nat → List Char
  | 0, _ => []
  | width + 1, value => hexDigits width (value / 16) ++ [hexDigit (value % 16)]

/-- One character of a quoted text. -/
def escapeQuoted (quote : Char) (character : Char) : List Char :=
  if character = '\\' ∨ character = quote then ['\\', character]
  else if character = '\n' then ['\\', 'n']
  else if character = '\r' then ['\\', 'r']
  else if character = '\t' then ['\\', 't']
  else if isPrintable character then [character]
  else if character.toNat < 0x100 then '\\' :: 'x' :: hexDigits 2 character.toNat
  else if character.toNat < 0x10000 then '\\' :: 'u' :: hexDigits 4 character.toNat
  else '\\' :: 'U' :: hexDigits 8 character.toNat

/-- The quote that surrounds a text: a double one only where that saves escapes. -/
def quoteFor (characters : List Char) : Char :=
  if characters.contains '\'' && !characters.contains '"' then '"' else '\''

/-- The text between quotes. -/
def quoted (text : String) : String :=
  let quote := quoteFor text.toList
  String.ofList (quote :: text.toList.flatMap (escapeQuoted quote) ++ [quote])

end GrammarFuzz.Text

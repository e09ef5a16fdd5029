import GrammarFuzz.Pattern.Syntax
import GrammarFuzz.Text.Point

/-!
# The alphabets of character classes

Texts are drawn from the printable ASCII characters and ASCII white space.  Each class has
its own list of their code points, in a fixed order, since the order decides which one
a draw gives.
-/

namespace GrammarFuzz.Pattern

/-- The ten digits. -/
def digits : List Nat := Text.points "0123456789"

/-- The lower case letters, then the upper case ones. -/
def letters : List Nat := Text.points "abcdefghijklmnopqrstuvwxyzABCDEFGHIJKLMNOPQRSTUVWXYZ"

/-- The printable characters that are no letters, digits or spaces. -/
def punctuation : List Nat := Text.points "!\"#$%&'()*+,-./:;<=>?@[\\]^_\x60\x7b|\x7d~"

/-- White space. -/
def spaces : List Nat := Text.points " \t\n\r\x0b\x0c"

/-- All characters that a class or a negation is drawn from. -/
def printable : List Nat := digits ++ letters ++ punctuation ++ spaces

/-- The characters of words. -/
def wordCharacters : List Nat := letters ++ digits ++ Text.points "_"

/-- The characters of `printable` that a test holds of, by code point. -/
def printableWhere (test : Nat → Bool) : List Nat :=
  (printable.filter test).mergeSort fun a b => a ≤ b

/-- The characters that a class is drawn from. -/
def Category.alphabet : Category → (negated : Bool) → List Nat
  | .digit, false => digits
  | .digit, true => letters ++ punctuation
  | .space, false => spaces
  | .space, true => digits ++ letters ++ punctuation
  | .word, false => wordCharacters
  | .word, true => printableWhere fun c => !wordCharacters.contains c

namespace SetMember

/-- The number of characters that a member of a set stands for. -/
def size : SetMember → Nat
  | point _ => 1
  | range low high => high + 1 - low
  | category kind negated => (kind.alphabet negated).length

/-- The code point of a character of a member, by its place. -/
def pointAt (place : Nat) : SetMember → Nat
  | point value => value
  | range low _ => low + place
  | category kind negated => (kind.alphabet negated).getD place 0

/-- Whether a code point is one that the member stands for. -/
def stands (point : Nat) : SetMember → Bool
  | .point value => point == value
  | range low high => low ≤ point && point ≤ high
  | category kind negated => (kind.alphabet negated).contains point

end SetMember

/-- The number of characters of a set; a character of two members counts twice. -/
def setSize : List SetMember → Nat
  | [] => 0
  | member :: rest => member.size + setSize rest

/-- The code point of a character of a set, by its place in the members one after the other. -/
def setPointAt (place : Nat) : List SetMember → Nat
  | [] => 0
  | member :: rest =>
    if place < member.size then member.pointAt place else setPointAt (place - member.size) rest

/-- The characters outside a set, by code point. -/
def complement (members : List SetMember) : List Nat :=
  printableWhere fun point => !members.any (SetMember.stands point)

end GrammarFuzz.Pattern

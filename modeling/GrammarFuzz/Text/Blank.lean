import GrammarFuzz.Text.PointRange

/-!
# White space

White space in the sense of the Unicode property, together with the four
information separators U+001C to U+001F.  A command line is cut into words at
white space, and the output of a command is stripped of it at both ends.
-/

namespace GrammarFuzz.Text

/-- All white space, as inclusive ranges of code points. -/
def blankRanges : List PointRange := [
    (0x09, 0x0d), (0x1c, 0x20), (0x85, 0x85), (0xa0, 0xa0), (0x1680, 0x1680),
    (0x2000, 0x200a), (0x2028, 0x2029), (0x202f, 0x202f), (0x205f, 0x205f), (0x3000, 0x3000)]

/-- Whether the character is white space. -/
def isBlank (character : Char) : Bool :=
  PointRange.cover blankRanges character.toNat

/-- The characters without the white space at either end. -/
def stripList (characters : List Char) : List Char :=
  ((characters.dropWhile isBlank).reverse.dropWhile isBlank).reverse

/-- The text without the white space at either end. -/
def strip (text : String) : String :=
  String.ofList (stripList text.toList)

/-- Adds one character to the words read so far; `current` is the word being read, reversed. -/
def wordsFrom : List Char → List Char → List (List Char)
  | [], current => if current.isEmpty then [] else [current.reverse]
  | c :: rest, current =>
    if isBlank c then
      if current.isEmpty then wordsFrom rest []
      else current.reverse :: wordsFrom rest []
    else wordsFrom rest (c :: current)

/-- The maximal runs of characters that are no white space, in order. -/
def words (text : String) : List String :=
  (wordsFrom text.toList []).map String.ofList

end GrammarFuzz.Text

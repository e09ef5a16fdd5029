/-!
# Code points

A text is made of characters.  Code points also number the surrogates, which are no characters,
so that not all code points make a text.
-/

namespace GrammarFuzz.Text

/-- The character of a code point; a surrogate has none. -/
def ofPoint? (point : Nat) : Option Char :=
  if point.isValidChar then some (Char.ofNat point) else none

@[simp]
theorem ofPoint?_toNat (c : Char) : ofPoint? c.toNat = some c := by
  rw [ofPoint?, if_pos (show c.toNat.isValidChar from c.valid), Char.ofNat_toNat]

/-- The text of code points, if all of them are characters. -/
def ofPoints? (points : List Nat) : Option String := (points.mapM ofPoint?).map String.ofList

/-- The code points of a text. -/
def points (text : String) : List Nat := text.toList.map Char.toNat

end GrammarFuzz.Text

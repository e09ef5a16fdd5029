/-!
# The interpreter

What reading a text depends on where the program runs.  The names of characters come from a
database, of which any edition or none may be there.  An integer with more digits than a limit is
not read; the limit can be set and lifted.
-/

namespace GrammarFuzz

/-- What reading depends on. -/
structure Interpreter where
  /-- The code point of a name; not every name is that of a character. -/
  characterNames : String → Option Nat
  /-- The greatest number of digits of an integer that is read. -/
  digitLimit : Option Nat

namespace Interpreter

/-- No names are known, and all integers are read. -/
def plain : Interpreter := ⟨fun _ => none, none⟩

/-- Whether an integer has too many digits to be read; the limit it breaks. -/
def digitsOver? (digitLimit : Option Nat) (count : Nat) : Option Nat :=
  digitLimit.filter (· < count)

/-- The message about an integer with too many digits. -/
def digitsMessage (limit count : Nat) : String :=
  "Exceeds the limit (" ++ toString limit ++
    " digits) for integer string conversion: value has " ++ toString count ++
    " digits; use sys.set_int_max_str_digits() to increase the limit"

end Interpreter

end GrammarFuzz

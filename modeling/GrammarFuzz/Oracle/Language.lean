/-!
# Languages

A language parses any text and describes the result as nested parentheses.  Which languages there
are is left to the platform.
-/

namespace GrammarFuzz

/-- The result of a parse. -/
structure Parse where
  /-- Whether the text is not well formed. -/
  hasFault : Bool
  dump : String
  deriving DecidableEq, Repr

/-- A language. -/
structure Language where
  parse : String → Parse

end GrammarFuzz

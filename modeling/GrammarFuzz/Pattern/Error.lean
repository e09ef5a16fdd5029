import GrammarFuzz.Interpreter
import GrammarFuzz.Text.Quoted

/-!
# Faults of patterns

Every way in which a text fails to be a pattern, with its wording.
-/

namespace GrammarFuzz.Pattern

/-- Why a text is no pattern. -/
inductive Fault where
  | escapeAtEnd
  | incompleteEscape (shown : String)
  | unknownEscape (shown : String)
  | octalTooLarge (shown : String)
  | missingBrace
  | missingName (what : String)
  | unterminatedName (terminator : Char)
  | unknownCharacterName (name : String)
  | openGroup
  | lookBehindGroup
  | groupReference (number : Nat)
  | groupNumber
  | groupNameCharacter (name : String)
  | unknownGroupName (name : String)
  | redefinedGroup (name : String) (number old : Nat)
  | unterminatedSet
  | characterRange (low high : String)
  | repeatBounds
  | nothingToRepeat
  | multipleRepeat
  | endOfPattern
  | unknownExtension (shown : String)
  | unterminatedComment
  | unterminatedGroup
  | conditionalBranches
  | flagsNotAtStart
  | localeFlag
  | flagsIncompatible
  | unknownFlag
  | missingFlag
  | missingFlagEnd
  | missingColon
  | flagTurnedOn
  | flagTurnedOff
  | classFlagTurnedOff
  | flagOnAndOff
  | unbalancedParenthesis
  | lookBehindWidth
  | templateRepeat (operator : String)
  deriving DecidableEq, Repr

/-- The wording of a fault. -/
def Fault.message : Fault → String
  | .escapeAtEnd => "bad escape (end of pattern)"
  | .incompleteEscape shown => "incomplete escape " ++ shown
  | .unknownEscape shown => "bad escape " ++ shown
  | .octalTooLarge shown => "octal escape value " ++ shown ++ " outside of range 0-0o377"
  | .missingBrace => "missing \x7b"
  | .missingName what => "missing " ++ what
  | .unterminatedName terminator =>
    "missing " ++ String.ofList [terminator] ++ ", unterminated name"
  | .unknownCharacterName name => "undefined character name " ++ Text.quoted name
  | .openGroup => "cannot refer to an open group"
  | .lookBehindGroup => "cannot refer to group defined in the same lookbehind subpattern"
  | .groupReference number => "invalid group reference " ++ toString number
  | .groupNumber => "bad group number"
  | .groupNameCharacter name => "bad character in group name " ++ Text.quoted name
  | .unknownGroupName name => "unknown group name " ++ Text.quoted name
  | .redefinedGroup name number old =>
    "redefinition of group name " ++ Text.quoted name ++ " as group " ++ toString number ++
      "; was group " ++ toString old
  | .unterminatedSet => "unterminated character set"
  | .characterRange low high => "bad character range " ++ low ++ "-" ++ high
  | .repeatBounds => "min repeat greater than max repeat"
  | .nothingToRepeat => "nothing to repeat"
  | .multipleRepeat => "multiple repeat"
  | .endOfPattern => "unexpected end of pattern"
  | .unknownExtension shown => "unknown extension ?" ++ shown
  | .unterminatedComment => "missing ), unterminated comment"
  | .unterminatedGroup => "missing ), unterminated subpattern"
  | .conditionalBranches => "conditional backref with more than two branches"
  | .flagsNotAtStart => "global flags not at the start of the expression"
  | .localeFlag => "bad inline flags: cannot use 'L' flag with a str pattern"
  | .flagsIncompatible => "bad inline flags: flags 'a', 'u' and 'L' are incompatible"
  | .unknownFlag => "unknown flag"
  | .missingFlag => "missing flag"
  | .missingFlagEnd => "missing -, : or )"
  | .missingColon => "missing :"
  | .flagTurnedOn => "bad inline flags: cannot turn on global flag"
  | .flagTurnedOff => "bad inline flags: cannot turn off global flag"
  | .classFlagTurnedOff => "bad inline flags: cannot turn off flags 'a', 'u' and 'L'"
  | .flagOnAndOff => "bad inline flags: flag turned on and off"
  | .unbalancedParenthesis => "unbalanced parenthesis"
  | .lookBehindWidth => "look-behind requires fixed-width pattern"
  | .templateRepeat operator => "internal: unsupported template operator " ++ operator

/-- How reading a pattern fails. -/
inductive ParseError where
  /-- The text is no pattern; most faults have a place. -/
  | invalid (fault : Fault) (position : Option Nat)
  /-- A repetition count is too large. -/
  | repetitionTooLarge
  /-- A repetition count has too many digits to be read. -/
  | tooManyDigits (limit count : Nat)
  /-- The number of a code point is too large to be looked at. -/
  | escapeTooLarge
  /-- The class flags `a` and `u` are both in force. -/
  | classFlagsClash
  deriving DecidableEq, Repr

/-- A place in a pattern as messages give it: with line and column if there are several lines. -/
def placeText (pattern : List Char) (position : Nat) : String :=
  let before := pattern.take position
  let place := " at position " ++ toString position
  if pattern.contains '\n' then
    place ++ " (line " ++ toString (before.count '\n' + 1) ++ ", column " ++
      toString ((before.reverse.takeWhile (· ≠ '\n')).length + 1) ++ ")"
  else place

/-- The message of a failed reading of a pattern. -/
def ParseError.message (pattern : String) : ParseError → String
  | .invalid fault position =>
    "Invalid pattern " ++ Text.quoted pattern ++ ": " ++ fault.message ++
      ((position.map (placeText pattern.toList)).getD "")
  | .repetitionTooLarge => "the repetition number is too large"
  | .tooManyDigits limit count => Interpreter.digitsMessage limit count
  | .escapeTooLarge => "Python int too large to convert to C int"
  | .classFlagsClash => "ASCII and UNICODE flags are incompatible"

end GrammarFuzz.Pattern

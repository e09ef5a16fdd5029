/-!
# Patterns for words

A star stands for any text, a question mark for any character and brackets for one of some
characters.  Quoted characters stand for themselves.
-/

namespace GrammarFuzz.Shell

/-- A character and whether it is quoted. -/
structure Glyph where
  character : Char
  quoted : Bool
  deriving DecidableEq, Repr

/-- Whether a character is in a set in brackets. -/
def inSet (c : Char) : List Char → Bool
  | low :: '-' :: high :: rest => (low ≤ c && c ≤ high) || inSet c rest
  | other :: rest => c == other || inSet c rest
  | [] => false

/-- The members of a set in brackets, and the pattern after it. -/
def bracketed? (pattern : List Glyph) : Option (List Char × List Glyph) :=
  let closes (glyph : Glyph) : Bool := glyph == ⟨']', false⟩
  let (first, rest) := (pattern.take 1, pattern.drop 1)
  let members := first ++ rest.takeWhile (!closes ·)
  match rest.dropWhile (!closes ·) with
  | [] => none
  | _ :: after => some (members.map (·.character), after)

/-- Whether a pattern matches a whole text.  `fuel` bounds the number of steps. -/
def globMatches : (fuel : Nat) → List Glyph → List Char → Bool
  | 0, _, _ => false
  | _, [], text => text.isEmpty
  | fuel + 1, ⟨c, true⟩ :: pattern, text =>
    match text with
    | other :: text => c == other && globMatches fuel pattern text
    | [] => false
  | fuel + 1, ⟨c, false⟩ :: pattern, text =>
    if c = '*' then
      globMatches fuel pattern text ||
        (match text with
          | _ :: text => globMatches fuel (⟨'*', false⟩ :: pattern) text
          | [] => false)
    else
      match text with
      | [] => false
      | other :: text =>
        if c = '?' then globMatches fuel pattern text
        else if c = '[' then
          match bracketed? pattern with
          | none => other == '[' && globMatches fuel pattern text
          | some ('!' :: members, after) => !inSet other members && globMatches fuel after text
          | some (members, after) => inSet other members && globMatches fuel after text
        else c == other && globMatches fuel pattern text

/-- Whether a pattern matches a whole text. -/
def globHolds (pattern : List Glyph) (text : List Char) : Bool :=
  globMatches (pattern.length + text.length + 1) pattern text

end GrammarFuzz.Shell

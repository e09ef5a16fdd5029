/-!
# Patterns

The parse tree of a regular expression: a list of items that follow each other.  Code
points are plain numbers, since a range may end among the surrogates.
-/

namespace GrammarFuzz.Pattern

/-- The classes that an escape names. -/
inductive Category where
  | digit
  | space
  | word
  deriving DecidableEq, Repr

/-- A member of a character set. -/
inductive SetMember where
  | point (value : Nat)
  | range (low high : Nat)
  | category (category : Category) (negated : Bool)
  deriving DecidableEq, Repr

/-- Places in a text that take up no character. -/
inductive Anchor where
  | lineStart
  | lineEnd
  | textStart
  | textEnd
  | boundary
  | notBoundary
  deriving DecidableEq, Repr

/-- How a repetition tries its counts: many first, few first, or as many as it can for good. -/
inductive Greed where
  | greedy
  | reluctant
  | possessive
  deriving DecidableEq, Repr

/-- The flags of a pattern. -/
inductive Flag where
  | ignoreCase
  | localeAware
  | multiline
  | dotAll
  | verbose
  | ascii
  | template
  | unicode
  deriving DecidableEq, Repr

/-- The flags that choose the character classes exclude each other. -/
def Flag.isClassFlag : Flag → Bool
  | .localeAware | .ascii | .unicode => true
  | _ => false

/-- A set of flags. -/
abbrev Flags := List Flag

/-- Adds a flag. -/
def Flags.add (flags : Flags) (flag : Flag) : Flags :=
  if flags.contains flag then flags else flag :: flags

/-- The flags inside a group that adds and removes some.  An added class flag replaces the one in
force. -/
def Flags.inside (flags added removed : Flags) : Flags :=
  let kept := if added.any Flag.isClassFlag then flags.filter (!·.isClassFlag) else flags
  (kept ++ added).filter fun flag => !removed.contains flag

/-- An item of a pattern. -/
inductive Item where
  /-- One character. -/
  | point (value : Nat)
  /-- Any character but one. -/
  | notPoint (value : Nat)
  /-- Any character, or any but a line feed. -/
  | any
  /-- A character of a set, or one outside it. -/
  | oneOf (negated : Bool) (members : List SetMember)
  | anchor (anchor : Anchor)
  /-- A look at what follows or comes before, without moving. -/
  | look (behind negated : Bool) (body : List Item)
  /-- One of several alternatives. -/
  | branch (alternatives : List (List Item))
  /-- A group, with its number if it captures. -/
  | group (number : Option Nat) (added removed : Flags) (body : List Item)
  /-- The text of an earlier group. -/
  | reference (number : Nat)
  /-- A repetition from `least` to `most` times, without end if there is no `most`. -/
  | repetition (greed : Greed) (least : Nat) (most : Option Nat) (body : List Item)
  /-- A group that is not entered again. -/
  | atomic (body : List Item)
  /-- One of two sequences, by whether a group has a text. -/
  | conditional (number : Nat) (yes : List Item) (no : Option (List Item))

/-- A parsed pattern: its items, its global flags and the widths of its groups, by number. -/
structure Tree where
  items : List Item
  flags : Flags
  widths : List (Nat × Nat)

/-- The bound that stands for no bound in repetitions and their counts. -/
def unbounded : Nat := 4294967295

namespace Item

/-- Whether two items are equal.  Items with parts are never equal, not even to themselves: each
was read on its own. -/
def same : Item → Item → Bool
  | point a, point b => a == b
  | notPoint a, notPoint b => a == b
  | any, any => true
  | oneOf negated members, oneOf negated' members' => negated == negated' && members == members'
  | anchor a, anchor b => a == b
  | reference a, reference b => a == b
  | _, _ => false

/-- The greatest width that is told apart from no bound. -/
def maxWidth : Nat := Nat.pow 2 64

mutual

/-- The least and the greatest number of characters that an item takes.  `groups` gives the
widths of the groups read so far. -/
def width (groups : Nat → Nat × Nat) : Item → Nat × Nat
  | point _ | notPoint _ | any | oneOf _ _ => (1, 1)
  | anchor _ | look _ _ _ => (0, 0)
  | branch alternatives => branchWidth groups alternatives
  | group _ _ _ body | atomic body => sequenceWidth groups body
  | reference number => groups number
  | repetition _ least most body =>
    let (low, high) := sequenceWidth groups body
    (least * low,
      match most with
      | some most => high * most
      | none => if high = 0 then 0 else maxWidth)
  | conditional _ yes no =>
    let (low, high) := sequenceWidth groups yes
    match no with
    | none => (0, high)
    | some no =>
      let (low', high') := sequenceWidth groups no
      (min low low', max high high')

/-- The width of a sequence. -/
def sequenceWidth (groups : Nat → Nat × Nat) : List Item → Nat × Nat
  | [] => (0, 0)
  | item :: rest =>
    let (low, high) := width groups item
    let (low', high') := sequenceWidth groups rest
    (min (low + low') maxWidth, min (high + high') maxWidth)

/-- The width of a branch: the least of the least and the greatest of the greatest widths. -/
def branchWidth (groups : Nat → Nat × Nat) : List (List Item) → Nat × Nat
  | [] => (maxWidth, 0)
  | alternative :: rest =>
    let (low, high) := sequenceWidth groups alternative
    let (low', high') := branchWidth groups rest
    (min low low', max high high')

end

end Item

end GrammarFuzz.Pattern

import GrammarFuzz.Pattern.Parser
import GrammarFuzz.Text.Blank
import GrammarFuzz.Text.Point

/-!
# Matching a text against a pattern

A backtracking matcher over code points that tries alternatives from left to right.  Each item is
matched in front of a continuation, which stands for the rest of the pattern; it is tried anew for
every way to match the item, until it accepts.
-/

namespace GrammarFuzz.Pattern

/-- A place in the text and the captured groups, as start and end. -/
structure MatchState where
  place : Nat
  captures : List (Nat × Nat × Nat)

/-- What follows an item: it accepts a state or refuses it. -/
abbrev Continuation := MatchState → Option MatchState

namespace MatchState

/-- The capture of a group. -/
def capture? (state : MatchState) (number : Nat) : Option (Nat × Nat) :=
  (state.captures.find? (·.1 == number)).map (·.2)

/-- Records the capture of a group. -/
def record (state : MatchState) (number start : Nat) : MatchState :=
  { state with
    captures := (number, start, state.place) :: state.captures.filter (·.1 ≠ number) }

end MatchState

/-- Whether a character belongs to a class; with the ASCII flag only ASCII characters do. -/
def Category.holdsOf (flags : Flags) (c : Char) (category : Category) : Bool :=
  let allowed := !flags.contains .ascii || c.toNat < 0x80
  allowed &&
    match category with
    | .digit => Text.isDigit c
    | .space =>
      if flags.contains .ascii then c == ' ' || (9 ≤ c.toNat && c.toNat ≤ 13) else Text.isBlank c
    | .word => Text.isLetterOrNumber c || c == '_'

/-- Whether a code point belongs to a class; no surrogate does. -/
def Category.holds (flags : Flags) (point : Nat) (category : Category) : Bool :=
  (Text.ofPoint? point).any fun c => category.holdsOf flags c

/-- The code points that stand for a character under the flags: itself, or all that differ from
it at most in case. -/
def variants (flags : Flags) (point : Nat) : List Nat :=
  if !flags.contains .ignoreCase then [point]
  else if flags.contains .ascii then
    if 0x41 ≤ point ∧ point ≤ 0x5a then [point, point + 0x20]
    else if 0x61 ≤ point ∧ point ≤ 0x7a then [point, point - 0x20]
    else [point]
  else Text.caseVariants point

/-- Whether a code point is one of a member of a set. -/
def SetMember.holds (flags : Flags) (point : Nat) : SetMember → Bool
  | .point value => (variants flags point).contains value
  | range low high => (variants flags point).any fun point => low ≤ point && point ≤ high
  | category kind negated => kind.holds flags point != negated

/-- Whether a character is part of a word. -/
def isWordAt (flags : Flags) (text : Array Nat) (place : Nat) : Bool :=
  match text[place]? with
  | some point => Category.word.holds flags point
  | none => false

/-- Whether a place is at the edge of a word. -/
def isBoundary (flags : Flags) (text : Array Nat) (place : Nat) : Bool :=
  (0 < place && isWordAt flags text (place - 1)) != isWordAt flags text place

/-- Whether an anchor holds at a place. -/
def Anchor.holds (flags : Flags) (text : Array Nat) (place : Nat) : Anchor → Bool
  | .textStart => place == 0
  | .textEnd => place == text.size
  | .lineStart =>
    place == 0 || (flags.contains .multiline && text[place - 1]? == some '\n'.toNat)
  | .lineEnd =>
    place == text.size ||
      (text[place]? == some '\n'.toNat && (flags.contains .multiline || place + 1 == text.size))
  | .boundary => isBoundary flags text place
  | .notBoundary => text.size != 0 && !isBoundary flags text place

/-- Matches one code point that passes a test. -/
def matchOne (text : Array Nat) (test : Nat → Bool) (state : MatchState)
    (continuation : Continuation) : Option MatchState :=
  match text[state.place]? with
  | some point => if test point then continuation { state with place := state.place + 1 } else none
  | none => none

/-- Whether the text from `place` on repeats the `count` characters from `start` on. -/
def repeatsAt (flags : Flags) (text : Array Nat) (start place count : Nat) : Bool :=
  (List.range count).all fun offset =>
    match text[start + offset]?, text[place + offset]? with
    | some a, some b => (variants flags a).contains b
    | _, _ => false

/-- Matches a body again and again.  `count` is the number of times so far; once the least
number is reached, a time that would start at `last`, where the time before started, is not
tried.  `fuel` bounds the number of times. -/
def matchRepeated (body : MatchState → Continuation → Option MatchState) (reluctant : Bool)
    (least : Nat) (most : Option Nat) :
    (fuel : Nat) → (count : Nat) → (last : Option Nat) → MatchState → Continuation →
      Option MatchState
  | 0, _, _, _, _ => none
  | fuel + 1, count, last, state, continuation =>
    if count < least then
      body state fun state =>
        matchRepeated body reluctant least most fuel (count + 1) last state continuation
    else
      let more : Unit → Option MatchState := fun _ =>
        if (most.all fun most => count < most) && last != some state.place then
          body state fun after =>
            matchRepeated body reluctant least most fuel (count + 1) (some state.place) after
              continuation
        else none
      if reluctant then
        match continuation state with
        | some state => some state
        | none => more ()
      else
        match more () with
        | some state => some state
        | none => continuation state

namespace Item

mutual

/-- Matches an item at a state, in front of a continuation.  `widths` gives the widths of the
groups. -/
def matchAt (widths : Nat → Nat × Nat) (text : Array Nat) (flags : Flags) :
    Item → MatchState → Continuation → Option MatchState
  | point value, state, continuation =>
    matchOne text (fun point => (variants flags point).contains value) state continuation
  | notPoint value, state, continuation =>
    matchOne text (fun point => !(variants flags point).contains value) state continuation
  | any, state, continuation =>
    matchOne text (fun point => flags.contains .dotAll || point != '\n'.toNat) state continuation
  | oneOf negated members, state, continuation =>
    matchOne text (fun point => members.any (SetMember.holds flags point) != negated) state
      continuation
  | anchor kind, state, continuation =>
    if kind.holds flags text state.place then continuation state else none
  | look behind negated body, state, continuation =>
    let back := if behind then (sequenceWidth widths body).1 else 0
    let found :=
      if state.place < back then none
      else matchSequence widths text flags body { state with place := state.place - back } some
    match found with
    | some inner =>
      if negated then none else continuation { inner with place := state.place }
    | none => if negated then continuation state else none
  | branch alternatives, state, continuation =>
    matchBranch widths text flags alternatives state continuation
  | group number added removed body, state, continuation =>
    matchSequence widths text (flags.inside added removed) body state fun after =>
      match number with
      | some number => continuation (after.record number state.place)
      | none => continuation after
  | reference number, state, continuation =>
    match state.capture? number with
    | none => none
    | some (start, stop) =>
      if repeatsAt flags text start state.place (stop - start) then
        continuation { state with place := state.place + (stop - start) }
      else none
  | repetition greed least most body, state, continuation =>
    let body := fun state continuation => matchSequence widths text flags body state continuation
    let fuel := least + (text.size - state.place) + 2
    match greed with
    | .greedy => matchRepeated body false least most fuel 0 none state continuation
    | .reluctant => matchRepeated body true least most fuel 0 none state continuation
    | .possessive =>
      match matchRepeated body false least most fuel 0 none state some with
      | some after => continuation after
      | none => none
  | atomic body, state, continuation =>
    match matchSequence widths text flags body state some with
    | some after => continuation after
    | none => none
  | conditional number yes no, state, continuation =>
    if (state.capture? number).isSome then
      matchSequence widths text flags yes state continuation
    else
      match no with
      | some no => matchSequence widths text flags no state continuation
      | none => continuation state

/-- Matches items one after the other. -/
def matchSequence (widths : Nat → Nat × Nat) (text : Array Nat) (flags : Flags) :
    List Item → MatchState → Continuation → Option MatchState
  | [], state, continuation => continuation state
  | item :: rest, state, continuation =>
    matchAt widths text flags item state fun after =>
      matchSequence widths text flags rest after continuation

/-- Matches the first alternative after which the continuation accepts. -/
def matchBranch (widths : Nat → Nat × Nat) (text : Array Nat) (flags : Flags) :
    List (List Item) → MatchState → Continuation → Option MatchState
  | [], _, _ => none
  | alternative :: rest, state, continuation =>
    match matchSequence widths text flags alternative state continuation with
    | some after => some after
    | none => matchBranch widths text flags rest state continuation

end

end Item

/-- Whether a whole text, given by its code points, matches a pattern. -/
def Tree.matches (tree : Tree) (points : List Nat) : Bool :=
  let text := points.toArray
  let widths (number : Nat) : Nat × Nat := tree.widths.getD number (0, 0)
  (Item.matchSequence widths text tree.flags tree.items ⟨0, []⟩ fun state =>
    if state.place = text.size then some state else none).isSome

end GrammarFuzz.Pattern

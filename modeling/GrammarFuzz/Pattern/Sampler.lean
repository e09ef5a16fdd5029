import GrammarFuzz.Pattern.Alphabet
import GrammarFuzz.Pattern.Parser
import GrammarFuzz.Random.Draw

/-!
# Drawing a text from a pattern

Code points are drawn from left to right: one choice for each set and each branch, and one number
for each repetition, at most `maxRepeat` above its least count.  Numbered groups
remember what they gave for references; the memory is emptied by a drawing that
succeeds and survives one that fails.  Points among which there are surrogates make no text.
-/

namespace GrammarFuzz.Pattern

open GrammarFuzz.Random

/-- Why drawing a text fails. -/
inductive SampleError where
  | draw (error : DrawError)
  /-- A reference to a group without a text. -/
  | noGroupText (number : Nat)
  /-- An item that texts cannot be drawn from. -/
  | unsupported (construct : String)
  /-- There are surrogates among the code points. -/
  | surrogates
  deriving DecidableEq, Repr

/-- The wording of a failed text. -/
def SampleError.message : SampleError → String
  | .draw error => error.message
  | .noGroupText number => toString number
  | .unsupported construct => Text.quoted construct
  | .surrogates => "surrogates in a text"

/-- What numbered groups gave. -/
abbrev Memory := List (Nat × List Nat)

/-- What drawing a text changes: the source, and the memory of groups. -/
structure SampleState where
  source : Source
  memory : Memory

/-- A step of drawing a text. -/
abbrev Sample (α : Type) := ExceptT SampleError (StateM SampleState) α

namespace Sample

/-- A draw as a step. -/
def draw {α : Type} (draw : Draw α) : Sample α := do
  let state ← get
  let (result, source) := draw.run.run state.source
  set { state with source }
  match result with
  | .ok value => return value
  | .error error => throw (.draw error)

/-- Repeats a step and joins what it gives. -/
def repeated (step : Sample (List Nat)) : (count : Nat) → Sample (List Nat)
  | 0 => return []
  | count + 1 => do
    let text ← step
    let more ← repeated step count
    return text ++ more

/-- A code point of a set, or of its complement. -/
def oneOf (negated : Bool) (members : List SetMember) : Sample (List Nat) := do
  if negated then return [← draw (Draw.pick .emptyChoice (complement members))]
  else if setSize members = 0 then throw (.draw .emptyChoice)
  else
    let place ← draw (Draw.below (setSize members))
    return [setPointAt place members]

end Sample

namespace Item

open Sample

mutual

/-- Draws code points from an item. -/
def sample (maxRepeat : Int) : Item → Sample (List Nat)
  | point value => return [value]
  | notPoint value => do
    return [← draw (Draw.pick .emptyChoice (printable.filter (· ≠ value)))]
  | any => return [← draw (Draw.pick .emptyChoice (printable.filter (· ≠ '\n'.toNat)))]
  | oneOf negated members => Sample.oneOf negated members
  | anchor _ => return []
  | look _ negated body => if negated then return [] else sampleSequence maxRepeat body
  | branch alternatives => do
    if alternatives.isEmpty then throw (.draw .emptyChoice)
    sampleAlternative maxRepeat (← draw (Draw.below alternatives.length)) alternatives
  | group number _ _ body => do
    let text ← sampleSequence maxRepeat body
    match number with
    | some number => modify fun state =>
        { state with memory := (number, text) :: state.memory.filter (·.1 ≠ number) }
    | none => pure ()
    return text
  | reference number => do
    match (← get).memory.find? (·.1 == number) with
    | some (_, text) => return text
    | none => throw (.noGroupText number)
  | repetition .possessive _ _ _ => throw (.unsupported "possessive_repeat")
  | repetition _ least most body => do
    let most := min ((most.getD unbounded : Nat) : Int) ((least : Int) + maxRepeat)
    let count ← draw (Draw.between least most)
    repeated (sampleSequence maxRepeat body) count.toNat
  | atomic _ => throw (.unsupported "atomic_group")
  | conditional _ _ _ => throw (.unsupported "groupref_exists")

/-- Draws from items one after the other. -/
def sampleSequence (maxRepeat : Int) : List Item → Sample (List Nat)
  | [] => return []
  | item :: rest => do
    let text ← sample maxRepeat item
    let more ← sampleSequence maxRepeat rest
    return text ++ more

/-- Draws from one of several alternatives. -/
def sampleAlternative (maxRepeat : Int) (place : Nat) : List (List Item) → Sample (List Nat)
  | [] => throw (.draw .emptyChoice)
  | alternative :: rest =>
    match place with
    | 0 => sampleSequence maxRepeat alternative
    | place + 1 => sampleAlternative maxRepeat place rest

end

end Item

/-- A parsed pattern with the bound on free repetitions. -/
structure Sampler where
  tree : Tree
  maxRepeat : Int

namespace Sampler

/-- The sampler of a pattern. -/
def ofPattern (interpreter : Interpreter) (pattern : String) (maxRepeat : Int) :
    Except ParseError Sampler :=
  (parse interpreter pattern).map fun tree => ⟨tree, maxRepeat⟩

/-- Draws the code points of one text; success empties the memory. -/
def points (sampler : Sampler) : Sample (List Nat) := do
  let points ← Item.sampleSequence sampler.maxRepeat sampler.tree.items
  modify ({ · with memory := [] })
  return points

/-- Draws one text. -/
def sample (sampler : Sampler) : Sample String := do
  match Text.ofPoints? (← sampler.points) with
  | some text => return text
  | none => throw .surrogates

end Sampler

end GrammarFuzz.Pattern

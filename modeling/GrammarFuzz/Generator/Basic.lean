import GrammarFuzz.Generator.Table
import GrammarFuzz.Grammar.Basic
import GrammarFuzz.Pattern.Sampler
import GrammarFuzz.Random.Poisson

/-!
# Generators

A generator turns a grammar into random trees.  Its session holds the source of random words
and what has been learned about rules: expected depths, weights of alternatives and
samplers of patterns.  Entries are added when a computation succeeds; one that fails leaves
what its parts have learned.
-/

namespace GrammarFuzz

/-- Why an estimate or the generation of a tree fails. -/
inductive GenerationError where
  /-- A symbol does not lead to a rule, or there is no start rule. -/
  | access (error : Grammar.AccessError)
  | unsupportedKind (kind : RuleKind)
  /-- A repetition or an annotation is about nothing. -/
  | noContent
  /-- A sequence without members has no deepest one. -/
  | emptySequence
  /-- A choice without alternatives has no mean depth. -/
  | emptyChoice
  /-- The value of a literal is no text. -/
  | valueNotText (value : Json)
  /-- The value of a pattern is no text. -/
  | expressionNotText (value : Json)
  /-- A pattern cannot be read. -/
  | expression (text : String) (error : Pattern.ParseError)
  | sample (error : Pattern.SampleError)
  | draw (error : Random.DrawError)
  /-- The levels that were allowed are used up. -/
  | tooDeep

/-- The wording of a failure. -/
def GenerationError.message : GenerationError → String
  | .access error => error.message
  | .unsupportedKind kind => "Unrecognized rule type: " ++ kind.word
  | .noContent => "'NoneType' object has no attribute 'index'"
  | .emptySequence => "max() arg is an empty sequence"
  | .emptyChoice => "division by zero"
  | .valueNotText value => "'" ++ value.kindWord ++ "' object is not reversible"
  | .expressionNotText value =>
    match value with
    | .list _ | .object _ => "unhashable type: '" ++ value.kindWord ++ "'"
    | _ => "first argument must be string or compiled pattern"
  | .expression text error => error.message text
  | .sample error => error.message
  | .draw error => error.message
  | .tooDeep => "maximum recursion depth exceeded"

/-- Whether a failure is reported as a fault of the grammar. -/
def GenerationError.isGrammarFault : GenerationError → Bool
  | .access (.unusableName _) => false
  | .access _ => true
  | .unsupportedKind _ => true
  | .expression _ (.invalid _ _) => true
  | _ => false

/-- A grammar with the settings of generation. -/
structure Generator (S : Type) where
  grammar : Grammar
  /-- The depth below which choices favour alternatives that end soon. -/
  maxDepth : Int
  /-- The mean number of repetitions. -/
  meanRepeat : S
  /-- The number of free repetitions in patterns. -/
  maxRegexRepeat : Int
  /-- What reading patterns depends on. -/
  interpreter : Interpreter

namespace Generator

variable {S : Type}

/-- A grammar with external symbols has no generator; the number of symbols is the reason. -/
def make (grammar : Grammar) (maxDepth : Int) (meanRepeat : S) (maxRegexRepeat : Int)
    (interpreter : Interpreter) : Except Nat (Generator S) :=
  if grammar.externals.isEmpty then
    .ok ⟨grammar, maxDepth, meanRepeat, maxRegexRepeat, interpreter⟩
  else .error grammar.externals.length

/-- The message about external symbols. -/
def externalsMessage (count : Nat) : String :=
  "Grammar contains external symbols; such grammars are not supported (" ++ toString count ++
    " declared)"

/-- What changes while a generator works. -/
structure Session (S : Type) where
  source : Random.Source
  depths : Table S
  weights : Table (List S)
  samplers : Table Pattern.Sampler
  /-- What samplers remember of texts that failed. -/
  memories : Table Pattern.Memory
  /-- The weights computed so far with their rules, the last ones first. -/
  notes : List (Nat × List S)

/-- A session in which nothing is learned yet. -/
def Session.fresh (source : Random.Source) : Session S :=
  ⟨source, .empty, .empty, .empty, .empty, []⟩

/-- A step of a generator. -/
abbrev Gen (S α : Type) := ExceptT GenerationError (StateM (Session S)) α

namespace Gen

/-- A draw as a step. -/
def draw {α : Type} (draw : Random.Draw α) : Gen S α := do
  let session ← get
  let (result, source) := draw.run.run session.source
  set { session with source }
  match result with
  | .ok value => return value
  | .error error => throw (.draw error)

/-- The rule that a symbol stands for. -/
def resolve (grammar : Grammar) (name : Json) : Gen S Rule :=
  match grammar.lookup name with
  | .ok rule => return rule
  | .error error => throw (.access error)

/-- The start rule. -/
def startRule (grammar : Grammar) : Gen S Rule :=
  match grammar.startRule with
  | .ok rule => return rule
  | .error error => throw (.access error)

/-- Repeats a step and lists the results. -/
def times {α : Type} (step : Gen S α) : (count : Nat) → Gen S (List α)
  | 0 => return []
  | count + 1 => do
    let first ← step
    return first :: (← times step count)

/-- Starts the source over with a seed; what has been learned stays. -/
def reseed (seed : Int) : Gen S Unit :=
  modify fun session => { session with source := session.source.reseed seed }

end Gen

end Generator

end GrammarFuzz

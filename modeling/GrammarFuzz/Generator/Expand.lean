import GrammarFuzz.Generator.Depth
import GrammarFuzz.Tree

/-!
# Generating trees

A tree is generated from the root down and from left to right.  A choice takes each of its
alternatives with the same chance down to the maximal depth; below it alternatives have
chances in proportion to their weights, so that those that end soon are favoured.
-/

namespace GrammarFuzz.Generator

variable {S : Type} [Scalar S]

/-- The sampler of the pattern that a text spells. -/
def readPattern (generator : Generator S) (pattern : String) :
    Except Pattern.ParseError Pattern.Sampler :=
  Pattern.Sampler.ofPattern generator.interpreter pattern generator.maxRegexRepeat

/-- The sampler of a pattern, which is kept. -/
def patternSampler (generator : Generator S) (rule : Rule) : Gen S Pattern.Sampler := do
  match (← get).samplers.get? rule.index with
  | some sampler => return sampler
  | none =>
    match rule.value with
    | .text pattern =>
      match generator.readPattern pattern with
      | .ok sampler =>
        modify fun session =>
          { session with samplers := session.samplers.set rule.index sampler }
        return sampler
      | .error error => throw (.expression pattern error)
    | value => throw (.expressionNotText value)

/-- A text of a pattern. -/
def patternText (generator : Generator S) (rule : Rule) : Gen S String := do
  let sampler ← generator.patternSampler rule
  let session ← get
  let memory := (session.memories.get? rule.index).getD []
  let (result, state) := sampler.sample.run.run ⟨session.source, memory⟩
  set { session with
    source := state.source
    memories := session.memories.set rule.index state.memory }
  match result with
  | .ok text => return text
  | .error error => throw (.sample error)

/-- One of the alternatives of a choice at a depth. -/
def choose (generator : Generator S) (rule : Rule) (depth : Int) : Gen S Rule := do
  if generator.maxDepth < depth then
    let weights ← generator.sampleWeights rule
    Gen.draw (Random.Draw.weighted rule.members weights)
  else Gen.draw (Random.Draw.uniform rule.members)

/-- The number of children of a repetition. -/
def repetitions (generator : Generator S) (kind : RuleKind) : Gen S Nat := do
  let count ← Gen.draw (Random.Draw.poisson generator.meanRepeat)
  return if kind = .many1 ∧ count = 0 then 1 else count

/-- What a rule contains; the start rule in place of nothing. -/
def contentOrStart (generator : Generator S) (rule : Rule) : Gen S Rule :=
  match rule.content with
  | some content => return content
  | none => Gen.startRule generator.grammar

/-- A tree of a rule at a depth.  It may have at most `levels` levels. -/
def expand (generator : Generator S) : (levels : Nat) → (rule : Rule) → (depth : Int) → Gen S Tree
  | 0, _, _ => throw .tooDeep
  | levels + 1, rule, depth => do
    match rule.kind with
    | .blank => return .leaf .blank ""
    | .literal =>
      match rule.value with
      | .text value => return .leaf .literal value
      | value => throw (.valueNotText value)
    | .pattern => return .leaf .pattern (← generator.patternText rule)
    | .symbol =>
      let target ← Gen.resolve generator.grammar rule.name
      return .branch .symbol [← expand generator levels target (depth + 1)]
    | .sequence =>
      return .branch .sequence
        (← rule.members.mapM fun member => expand generator levels member (depth + 1))
    | .choice =>
      let chosen ← generator.choose rule depth
      return .branch .choice [← expand generator levels chosen (depth + 1)]
    | .other _ => throw (.unsupportedKind rule.kind)
    | kind =>
      if kind.isRepetition then
        -- the number is drawn before any of the children
        let count ← generator.repetitions kind
        let children ← Gen.times (do
          let content ← generator.contentOrStart rule
          expand generator levels content (depth + 1)) count
        return .branch kind children
      else
        let content ← generator.contentOrStart rule
        return .branch kind [← expand generator levels content (depth + 1)]

/-- The number of levels that a tree may have. -/
def levelLimit : Nat := 10000

/-- A tree of a rule at a depth. -/
def generateFrom (generator : Generator S) (rule : Rule) (depth : Int) : Gen S Tree :=
  generator.expand levelLimit rule depth

/-- A tree of the start rule. -/
def generate (generator : Generator S) : Gen S Tree := do
  generator.generateFrom (← Gen.startRule generator.grammar) 1

end GrammarFuzz.Generator

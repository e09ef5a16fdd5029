import GrammarFuzz.Generator.Basic

/-!
# Expected depths

The expected depth of a rule estimates how deep its trees are: a terminal has depth one, a
sequence is one deeper than its deepest member, a choice one deeper than the mean of its
alternatives, everything else one deeper than what it contains.  A symbol that is already
being resolved is a cycle and infinitely deep.

Estimates are kept.  While symbols are being resolved their names are on a stack, and an
estimate made below them is kept as well, for every later use.
-/

namespace GrammarFuzz

namespace Grammar

/-- The greatest height of a definition. -/
def height (grammar : Grammar) : Nat :=
  grammar.definitions.foldl (fun height definition => max height definition.2.height) 0

/-- The number of estimates that can be open at once below and with that of a rule: each symbol
that is resolved puts a new definition on the stack. -/
def estimateLevels (grammar : Grammar) (rule : Rule) : Nat :=
  rule.height + grammar.definitions.length * grammar.height

end Grammar

namespace Generator

variable {S : Type} [Scalar S]

/-- One more than a depth. -/
def deeper (depth : S) : S := Scalar.add (Scalar.ofNat 1) depth

/-- The greatest of some depths. -/
def deepest : List S → Gen S S
  | [] => throw .emptySequence
  | first :: rest => return rest.foldl Scalar.max first

/-- The mean of some depths. -/
def meanDepth (depths : List S) : Gen S S :=
  if depths.isEmpty then throw .emptyChoice
  else return Scalar.div (Scalar.sum depths) (Scalar.ofNat depths.length)

/-- What is kept for a rule in the table of depths, else the result of a computation, which is
then kept. -/
def keepDepth (rule : Rule) (compute : Gen S S) : Gen S S := do
  match (← get).depths.get? rule.index with
  | some depth => return depth
  | none =>
    let depth ← compute
    modify fun session => { session with depths := session.depths.set rule.index depth }
    return depth

/-- The expected depth of a rule while the symbols on the stack are being resolved.  At most
`levels` estimates may be open at once. -/
def expectedDepthWithin (grammar : Grammar) :
    (levels : Nat) → (rule : Rule) → (stack : List String) → Gen S S
  | 0, _, _ => throw .tooDeep
  | levels + 1, rule, stack => keepDepth rule do
    match rule.kind with
    | .blank | .literal | .pattern => return Scalar.ofNat 1
    | .symbol =>
      match rule.name with
      | .text name =>
        -- the symbol is being resolved further up: a cycle
        if stack.contains name then return Scalar.infinity
        else
          let target ← Gen.resolve grammar (.text name)
          return deeper (← expectedDepthWithin grammar levels target (name :: stack))
      | name =>
        let target ← Gen.resolve grammar name
        return deeper (← expectedDepthWithin grammar levels target stack)
    | .sequence =>
      let depths ← rule.members.mapM (expectedDepthWithin grammar levels · stack)
      return deeper (← deepest depths)
    | .choice =>
      let depths ← rule.members.mapM (expectedDepthWithin grammar levels · stack)
      return deeper (← meanDepth depths)
    | .other _ => throw (.unsupportedKind rule.kind)
    | _ =>
      match rule.content with
      | some content => return deeper (← expectedDepthWithin grammar levels content stack)
      | none => throw .noContent

/-- The expected depth of a rule. -/
def expectedDepth (generator : Generator S) (rule : Rule) (stack : List String) : Gen S S :=
  expectedDepthWithin generator.grammar (generator.grammar.estimateLevels rule) rule stack

/-- The depth that counts for alternatives of infinite depth. -/
def infiniteDepthWeight : Nat := 1000

/-- The weight of an alternative: the inverse of its depth. -/
def weightOfDepth (depth : S) : S :=
  Scalar.div (Scalar.ofNat 1)
    (if Scalar.isInfinite depth then Scalar.ofNat infiniteDepthWeight else depth)

/-- The weights of the alternatives of a rule, which are kept. -/
def sampleWeights (generator : Generator S) (rule : Rule) : Gen S (List S) := do
  match (← get).weights.get? rule.index with
  | some weights => return weights
  | none =>
    let weights ← rule.members.mapM fun member => do
      return weightOfDepth (← generator.expectedDepth member [])
    modify fun session => { session with
      weights := session.weights.set rule.index weights
      notes := (rule.index, weights) :: session.notes }
    return weights

end Generator

end GrammarFuzz

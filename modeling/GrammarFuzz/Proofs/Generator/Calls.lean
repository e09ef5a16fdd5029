import GrammarFuzz.Proofs.Generator.Steps

/-!
# Calls of a generator

A session is the work of one generator over many calls: trees, weights, estimates, samplers and
texts of patterns, in any order and about any rules, and now and then a new seed.  A call that
fails leaves a session as well, and the calls after it go on from there.
-/

namespace GrammarFuzz.Generator

variable {S : Type} [Scalar S]

/-- A call of a generator. -/
inductive Call where
  /-- A tree of a rule at a depth, with at most `levels` levels. -/
  | expand (levels : Nat) (rule : Rule) (depth : Int)
  | sampleWeights (rule : Rule)
  /-- The estimate for a rule, as seen below the symbols on the stack. -/
  | expectedDepth (rule : Rule) (stack : List String)
  | patternSampler (rule : Rule)
  | patternText (rule : Rule)
  | reseed (seed : Int)

namespace Call

/-- What the generator does for a call. -/
def step (generator : Generator S) : Call → Gen S Unit
  | expand levels rule depth => do
    let _ ← generator.expand levels rule depth
    return ()
  | sampleWeights rule => do
    let _ ← generator.sampleWeights rule
    return ()
  | expectedDepth rule stack => do
    let _ ← generator.expectedDepth rule stack
    return ()
  | patternSampler rule => do
    let _ ← generator.patternSampler rule
    return ()
  | patternText rule => do
    let _ ← generator.patternText rule
    return ()
  | reseed seed => Gen.reseed seed

/-- The call is about a rule of the grammar, if it is about one. -/
def About (grammar : Grammar) : Call → Prop
  | expand _ rule _ => rule ∈ grammar.rules
  | sampleWeights rule => rule ∈ grammar.rules
  | expectedDepth rule _ => rule ∈ grammar.rules
  | patternSampler rule => rule ∈ grammar.rules
  | patternText rule => rule ∈ grammar.rules
  | reseed _ => True

/-- The call does not ask for an estimate below some symbols. -/
def Plain : Call → Prop
  | expectedDepth _ stack => stack = []
  | _ => True

end Call

/-- The session after some calls, whether they fail or not. -/
def after (generator : Generator S) (calls : List Call) (session : Session S) : Session S :=
  calls.foldl (fun session call => (outcome (call.step generator) session).2) session

/-- A call keeps what estimates, weights and samplers keep, if only they could touch it. -/
theorem step_keeps {generator : Generator S} {invariant : Session S → Prop}
    (hwell : generator.grammar.WellFormed) {call : Call} (habout : call.About generator.grammar)
    (hestimate : ∀ rule stack, call = .expectedDepth rule stack →
      Meets invariant (generator.expectedDepth rule stack) (fun _ => True) fun _ => True)
    (hweights : ∀ rule ∈ generator.grammar.rules,
      Meets invariant (generator.sampleWeights rule) (fun _ => True) fun _ => True)
    (hsampler : ∀ rule ∈ generator.grammar.rules,
      Meets invariant (generator.patternSampler rule) (fun _ => True) fun _ => True)
    (hset : ∀ session source memories, invariant session →
      invariant { session with source, memories }) :
    Meets invariant (call.step generator) (fun _ => True) fun _ => True := by
  have hsource : ∀ session source, invariant session → invariant { session with source } :=
    fun session source hsession => hset session source session.memories hsession
  have htext : ∀ rule ∈ generator.grammar.rules,
      Meets invariant (generator.patternText rule) (fun _ => True) fun _ => True :=
    fun rule hrule => (patternText_meets (hsampler rule hrule) hset fun _ _ _ _ _ => trivial).mono
      (fun _ _ => trivial) fun _ => id
  cases call with
  | expand levels rule depth =>
      -- the tree itself does not matter here, so any text will do for a pattern
      have hparts : Parts generator (· ∈ generator.grammar.rules) invariant (fun _ _ => True)
          fun _ => True :=
        { mem := id
          leads := hwell.leads_mem
          tooDeep := trivial
          symbol := fun _ _ _ _ _ => trivial
          pattern := fun rule hrule _ => htext rule hrule
          choice := fun rule hrule _ => choose_meets (hweights rule hrule) hsource
            (fun weights _ => Random.Draw.weighted_mem rule.members weights)
            (Random.Draw.uniform_mem rule.members)
          repetition := repetitions_meets hsource (Meets.trivial _) }
      exact Meets.bind (expand_meets hwell hparts levels rule habout depth) fun _ _ =>
        Meets.pure trivial
  | sampleWeights rule => exact Meets.bind (hweights rule habout) fun _ _ => Meets.pure trivial
  | expectedDepth rule stack =>
      exact Meets.bind (hestimate rule stack rfl) fun _ _ => Meets.pure trivial
  | patternSampler rule => exact Meets.bind (hsampler rule habout) fun _ _ => Meets.pure trivial
  | patternText rule => exact Meets.bind (htext rule habout) fun _ _ => Meets.pure trivial
  | reseed seed =>
      exact Meets.modify (fun session hsession => hsource session _ hsession) trivial

/-- What each of some calls keeps, all of them keep. -/
theorem after_keeps {generator : Generator S} {invariant : Session S → Prop} {calls : List Call}
    (hcalls : ∀ call ∈ calls,
      Meets invariant (call.step generator) (fun _ => True) fun _ => True)
    {session : Session S} (hsession : invariant session) :
    invariant (generator.after calls session) := by
  induction calls generalizing session with
  | nil => exact hsession
  | cons call rest ih =>
      have hfirst := hcalls call (List.mem_cons_self ..) session hsession
      exact ih (fun other hother => hcalls other (List.mem_cons_of_mem _ hother)) hfirst.kept

/-- A generator of the small grammar that weighs the alternatives of every choice. -/
def chain : Generator S := ⟨Grammar.chain, 0, Scalar.ofNat 5, 5, Interpreter.plain⟩

/-- A generator of as few items as there may be. -/
def items : Generator S := ⟨Grammar.items, 5, Scalar.ofNat 0, 5, Interpreter.plain⟩

end GrammarFuzz.Generator

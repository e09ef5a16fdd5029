import GrammarFuzz.Proofs.Exact
import GrammarFuzz.Proofs.Generator.Calls
import GrammarFuzz.Proofs.Pattern.Texts

/-!
# Generated trees are derivations

Whatever a generator was asked before, a tree that it gives for a rule is a derivation of that
rule (`expand_meets_derives`).  What earlier calls have left could only matter through the samplers
of patterns, because samplers are kept by the index of a rule: each of them is the sampler
of the pattern with that index (`SamplersRight`).
-/

namespace GrammarFuzz.Generator

open Grammar

variable {S : Type} {generator : Generator S}

/-- The sampler was made from the pattern. -/
def IsSamplerOf (generator : Generator S) (rule : Rule) (sampler : Pattern.Sampler) : Prop :=
  ∃ pattern, rule.value = .text pattern ∧
    generator.readPattern pattern = .ok sampler

/-- The text is one that the sampler of the pattern gives. -/
def IsPatternText (generator : Generator S) (rule : Rule) (text : String) : Prop :=
  ∃ sampler, generator.IsSamplerOf rule sampler ∧ Samples sampler text

/-- Every sampler that is kept was made from the pattern with its index. -/
def SamplersRight (generator : Generator S) (session : Session S) : Prop :=
  session.samplers.RightFor generator.grammar generator.IsSamplerOf

/-- The sampler that a pattern gets is its own. -/
theorem patternSampler_isSamplerOf (hwell : generator.grammar.WellFormed) {rule : Rule}
    (hrule : rule ∈ generator.grammar.rules) :
    Meets (SamplersRight generator) (generator.patternSampler rule) (generator.IsSamplerOf rule)
      fun _ => True :=
  patternSampler_meets (fun pattern _ hpattern hsampler => ⟨pattern, hpattern, hsampler⟩)
    (fun _ _ hright hentry => hright.get? hwell hrule hentry)
    (fun _ _ hright hsampler => hright.set hwell hrule hsampler) (fun _ _ _ => trivial)
    fun _ _ _ _ => trivial

variable [Scalar S]

/-- Estimates and weights do not touch samplers. -/
theorem sampleWeights_keeps_samplers (generator : Generator S) (rule : Rule) :
    Meets (SamplersRight generator) (generator.sampleWeights rule) (fun _ => True)
      fun _ => True :=
  sampleWeights_meets
    (fun member _ => expectedDepthWithin_keeps (fun _ _ hright => hright) _ member [])
    (fun _ _ => trivial) (fun _ _ _ _ => trivial) fun _ _ hright _ => hright

theorem step_keeps_samplers (hwell : generator.grammar.WellFormed) {call : Call}
    (habout : call.About generator.grammar) :
    Meets (SamplersRight generator) (call.step generator) (fun _ => True) fun _ => True :=
  step_keeps hwell habout
    (fun rule stack _ => expectedDepthWithin_keeps (fun _ _ hright => hright) _ rule stack)
    (fun rule _ => sampleWeights_keeps_samplers generator rule)
    (fun _ hrule => (patternSampler_isSamplerOf hwell hrule).mono (fun _ _ => trivial) fun _ => id)
    fun _ _ _ hright => hright

/-- While samplers are right, what a rule is expanded to is a derivation of it. -/
theorem expand_meets_derives (hwell : generator.grammar.WellFormed) (levels : Nat) (rule : Rule)
    (hrule : rule ∈ generator.grammar.rules) (depth : Int) :
    Meets (SamplersRight generator) (generator.expand levels rule depth)
      (Derives generator.grammar generator.IsPatternText rule) fun _ => True := by
  have hparts : Parts generator (· ∈ generator.grammar.rules) (SamplersRight generator)
      generator.IsPatternText fun _ => True :=
    { mem := id
      leads := hwell.leads_mem
      tooDeep := trivial
      symbol := fun _ _ _ _ _ => trivial
      pattern := fun rule hrule _ => patternText_meets (patternSampler_isSamplerOf hwell hrule)
        (fun _ _ _ hright => hright) fun _ _ _ _ _ => trivial
      choice := fun rule _ _ => choose_meets (sampleWeights_keeps_samplers generator rule)
        (fun _ _ hright => hright) (fun weights _ => Random.Draw.weighted_mem rule.members weights)
        (Random.Draw.uniform_mem rule.members)
      repetition := repetitions_meets (fun _ _ hright => hright) (Meets.trivial _) }
  exact expand_meets hwell hparts levels rule hrule depth

/-- **A tree that a rule is expanded to is a derivation of the rule**, whatever the generator was
asked before.  Every node of the tree carries the kind of the rule that it is a derivation of, and
a text exactly if that rule is a terminal. -/
theorem expand_derives (generator : Generator S) (hloaded : generator.grammar.IsLoaded)
    (source : Random.Source) (calls : List Call)
    (hcalls : ∀ call ∈ calls, call.About generator.grammar) (levels : Nat) (rule : Rule)
    (hrule : rule ∈ generator.grammar.rules) (depth : Int) (tree : Tree)
    (hexpand : (outcome (generator.expand levels rule depth)
      (generator.after calls (.fresh source))).1 = .ok tree) :
    Derives generator.grammar generator.IsPatternText rule tree ∧
      ∀ node : Tree, node.Within tree → ∃ part ∈ generator.grammar.rules,
        Derives generator.grammar generator.IsPatternText part node ∧
          node.kind = part.kind ∧ node.isLeaf = part.isTerminal := by
  have hwell := hloaded.wellFormed
  have hright : SamplersRight generator (generator.after calls (.fresh source)) :=
    after_keeps (fun call hcall => step_keeps_samplers hwell (hcalls call hcall))
      (Table.RightFor.empty _ _)
  have hderives : Derives generator.grammar generator.IsPatternText rule tree :=
    (expand_meets_derives hwell levels rule hrule depth).of_ok hright hexpand
  refine ⟨hderives, fun node hnode => ?_⟩
  obtain ⟨part, hpart, hderives⟩ := hderives.within hwell hrule hnode
  exact ⟨part, hpart, hderives, hderives.kind_eq, hderives.isLeaf_eq⟩

/-- The first two words of the script lead back to the choice, the other two to the letter. -/
theorem expand_derives_chain :
    Grammar.chain.IsLoaded ∧
      Derives Grammar.chain (IsPatternText (chain : Generator (Exact fun _ => 0))) Chain.word
        (.branch .choice [.branch .symbol [.branch .choice [.leaf .literal "a"]]]) := by
  have hword : Chain.word ∈ Grammar.chain.rules := by simp [Grammar.chain]
  have hcalls : ∀ call ∈ [Call.sampleWeights Chain.word], call.About Grammar.chain := by
    simp [Call.About, hword]
  have hexpand : (outcome ((chain : Generator (Exact fun _ => 0)).expand 9 Chain.word 1)
      (chain.after [.sampleWeights Chain.word]
        (.fresh (.ofWords [4294967295, 4294967295, 0, 0])))).1 =
      .ok (.branch .choice [.branch .symbol [.branch .choice [.leaf .literal "a"]]]) := by
    with_unfolding_all rfl
  exact ⟨chain_isLoaded, (expand_derives (chain : Generator (Exact fun _ => 0)) chain_isLoaded _ _
    hcalls 9 Chain.word hword 1 _ hexpand).1⟩

/-- The sampler of the digits among the items. -/
theorem items_isSamplerOf_digit : (items : Generator S).IsSamplerOf Items.digit
    ⟨⟨[.oneOf false [.point 48, .point 49]], [], [(0, 0)]⟩, 5⟩ := by
  have hparse : Pattern.parse Interpreter.plain "[01]" =
      .ok ⟨[.oneOf false [.point 48, .point 49]], [], [(0, 0)]⟩ :=
    Pattern.parse_of_readsAs (by decide +kernel)
  have hread : (items : Generator S).readPattern "[01]" =
      Pattern.Sampler.ofPattern Interpreter.plain "[01]" 5 := by
    simp only [readPattern, items]
  refine ⟨"[01]", rfl, ?_⟩
  rw [hread, Pattern.Sampler.ofPattern, hparse, Except.map]

end GrammarFuzz.Generator

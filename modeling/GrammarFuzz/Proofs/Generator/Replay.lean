import GrammarFuzz.Proofs.Generator.Agreement
import GrammarFuzz.Proofs.Generator.Coverage
import GrammarFuzz.Proofs.Generator.Value

/-!
# Starting over with a seed

A generator that has been asked for this and that and starts over with a seed gives the same trees
as a fresh generator with that seed, and uses up the same words (`trees_replay`).  What it has kept
differs from what the fresh one keeps at any time, but not in a way that a draw could notice.

* Kept estimates and weights are the values of their rules, whatever was asked first, and kept
  samplers are those of their patterns (`Informed`).  So weights and samplers come out alike,
  whether they are looked up or made anew.
* Texts of groups are gone after every text that was drawn, and the source is one of the same kind
  as at the beginning (`Settled`).  This holds as long as no call fails, because a failed text
  leaves its groups behind.
-/

namespace GrammarFuzz.Generator

open Grammar
open GrammarFuzz.Random (Draw HoldsSource Local Source)

variable {S : Type} {generator : Generator S} {rule : Rule} {source : Source}

/-! ## Calls that succeed -/

/-- No text of a group is left, and starting over leads where it led at the beginning. -/
structure Settled (source : Source) (session : Session S) : Prop where
  memories : ∀ index memory, session.memories.get? index = some memory → memory = []
  reseed_eq : ∀ seed, session.source.reseed seed = source.reseed seed

theorem settled_fresh (source : Source) : Settled source (.fresh source : Session S) where
  memories _ _ hmemory := nomatch hmemory
  reseed_eq _ := rfl

theorem draw_settled {α : Type} {draw : Draw α} (hdraw : Local draw) :
    Keeps (Settled source : Session S → Prop) (Gen.draw draw) := by
  intro before value after hbefore houtcome
  rw [outcome_draw] at houtcome
  cases hdrawn : outcome draw before.source with
  | mk answer last =>
      rw [hdrawn] at houtcome
      cases answer with
      | error error => cases houtcome
      | ok other =>
          cases houtcome
          obtain ⟨words, hgives, -⟩ := hdraw before.source _ last hdrawn
          exact ⟨hbefore.memories, fun seed =>
            (hgives.reseed_eq seed).trans (hbefore.reseed_eq seed)⟩

theorem patternSampler_settled (generator : Generator S) (rule : Rule) :
    Keeps (Settled source) (generator.patternSampler rule) := by
  have hsampler : Meets (Settled source) (generator.patternSampler rule) (fun _ => True)
      fun _ => True :=
    patternSampler_meets (fun _ _ _ _ => trivial) (fun _ _ _ _ => trivial)
      (fun _ _ hsettled _ => ⟨hsettled.memories, hsettled.reseed_eq⟩) (fun _ _ _ => trivial)
      fun _ _ _ _ => trivial
  exact .of_meets hsampler

theorem patternText_settled (generator : Generator S) (rule : Rule) :
    Keeps (Settled source) (generator.patternText rule) := by
  refine (patternSampler_settled generator rule).bind fun sampler => ?_
  intro before text after hbefore houtcome
  rw [outcome_get_bind] at houtcome
  cases hdrawn : outcome sampler.sample
      ⟨before.source, (before.memories.get? rule.index).getD []⟩ with
  | mk answer state =>
      have hrun : sampler.sample.run.run
          ⟨before.source, (before.memories.get? rule.index).getD []⟩ = (answer, state) := hdrawn
      dsimp only at houtcome
      rw [hrun] at houtcome
      cases answer with
      | error error => cases houtcome
      | ok text =>
          cases houtcome
          obtain ⟨words, hgives, -⟩ := sampler.drawsTexts.isLocal _ text state hdrawn
          refine ⟨fun index memory hentry => ?_, fun seed =>
            (hgives.reseed_eq seed).trans (hbefore.reseed_eq seed)⟩
          rcases Table.get?_set_cases hentry with ⟨-, rfl⟩ | hentry
          · exact sampler.drawsTexts.memory_eq_nil hdrawn
          · exact hbefore.memories _ _ hentry

theorem times_keeps {α : Type} {invariant : Session S → Prop} {step : Gen S α}
    (hstep : Keeps invariant step) (count : Nat) : Keeps invariant (Gen.times step count) := by
  induction count with
  | zero => exact Keeps.pure []
  | succ count ih =>
      unfold Gen.times
      exact hstep.bind fun first => ih.bind fun rest => .pure _

variable [Scalar S]

theorem sampleWeights_settled (generator : Generator S) (rule : Rule) :
    Keeps (Settled source) (generator.sampleWeights rule) :=
  .of_meets (sampleWeights_meets
    (fun member _ => expectedDepthWithin_keeps
      (fun _ _ hsettled => ⟨hsettled.memories, hsettled.reseed_eq⟩) _ member [])
    (fun _ _ => trivial) (fun _ _ _ _ => trivial)
    fun _ _ hsettled _ => ⟨hsettled.memories, hsettled.reseed_eq⟩)

theorem choose_settled (generator : Generator S) (rule : Rule) (depth : Int) :
    Keeps (Settled source) (generator.choose rule depth) := by
  unfold choose
  split
  · exact (sampleWeights_settled generator rule).bind fun weights =>
      draw_settled (Draw.weighted_local rule.members weights)
  · exact draw_settled (Draw.pick_offers .emptyUniform rule.members).isLocal

theorem repetitions_settled (generator : Generator S) (kind : RuleKind) :
    Keeps (Settled source) (generator.repetitions kind) :=
  (draw_settled (Draw.poisson_local generator.meanRepeat)).bind fun _ => .pure _

theorem expand_settled (generator : Generator S) (levels : Nat) (rule : Rule) (depth : Int) :
    Keeps (Settled source) (generator.expand levels rule depth) := by
  induction levels generalizing rule depth with
  | zero => exact Keeps.throw _
  | succ levels ih =>
      have hcontent : Keeps (Settled source) (generator.contentOrStart rule) := by
        unfold contentOrStart Gen.startRule
        split
        · exact .pure _
        · split
          · exact .pure _
          · exact .throw _
      rw [expand]
      split
      · exact .pure _
      · split
        · exact .pure _
        · exact .throw _
      · exact (patternText_settled generator rule).bind fun text => .pure _
      · unfold Gen.resolve
        split
        · exact Keeps.bind (.pure _) fun target => (ih target _).bind fun child => .pure _
        · exact Keeps.bind (.throw _) fun target => (ih target _).bind fun child => .pure _
      · exact Keeps.bind (.mapM _ fun member _ => ih member _) fun children => .pure _
      · exact (choose_settled generator rule depth).bind fun chosen =>
          (ih chosen _).bind fun child => .pure _
      · exact .throw _
      · split
        · refine (repetitions_settled generator _).bind fun count => ?_
          exact (times_keeps (hcontent.bind fun content => ih content _) count).bind
            fun children => .pure _
        · exact hcontent.bind fun content => (ih content _).bind fun child => .pure _

theorem call_settled (generator : Generator S) (call : Call) :
    Keeps (Settled source) (call.step generator) := by
  cases call with
  | expand levels rule depth =>
      exact (expand_settled generator levels rule depth).bind fun _ => .pure _
  | sampleWeights rule => exact (sampleWeights_settled generator rule).bind fun _ => .pure _
  | expectedDepth rule stack =>
      have hestimate : Keeps (Settled source) (generator.expectedDepth rule stack) :=
        .of_meets (expectedDepthWithin_keeps
          (fun _ _ hsettled => ⟨hsettled.memories, hsettled.reseed_eq⟩) _ rule stack)
      exact hestimate.bind fun _ => .pure _
  | patternSampler rule => exact (patternSampler_settled generator rule).bind fun _ => .pure _
  | patternText rule => exact (patternText_settled generator rule).bind fun _ => .pure _
  | reseed seed =>
      intro before _ after hbefore houtcome
      cases houtcome
      exact ⟨hbefore.memories, fun other =>
        (Source.reseed_reseed _ seed other).trans (hbefore.reseed_eq other)⟩

/-- None of the calls fails, one after the other. -/
def Succeed (generator : Generator S) : List Call → Session S → Prop
  | [], _ => True
  | call :: rest, session =>
    (outcome (call.step generator) session).1 = .ok () ∧
      generator.Succeed rest (outcome (call.step generator) session).2

theorem after_settled {calls : List Call} {session : Session S} (hsession : Settled source session)
    (hsucceed : generator.Succeed calls session) :
    Settled source (generator.after calls session) := by
  induction calls generalizing session with
  | nil => exact hsession
  | cons call rest ih =>
      obtain ⟨hcall, hrest⟩ := hsucceed
      exact ih (call_settled generator call session () _ hsession (Prod.ext hcall rfl)) hrest

/-! ## Sessions that give the same trees -/

section Indistinct

variable {right : Rule → S → Prop}

/-- What is kept is right: samplers are those of their patterns, estimates and weights come of
right depths. -/
def Informed (generator : Generator S) (right : Rule → S → Prop) (session : Session S) : Prop :=
  SamplersRight generator session ∧ Learned generator.grammar (fun _ => True) right session

theorem Informed.set {session : Session S} (hinformed : Informed generator right session)
    (source : Source) (memories : Table Pattern.Memory) :
    Informed generator right { session with source, memories } :=
  ⟨hinformed.1, hinformed.2.depths, hinformed.2.weights⟩

/-- The sessions have the same source and the same texts of groups, and what they keep is right. -/
structure Indistinct (generator : Generator S) (right : Rule → S → Prop)
    (session session' : Session S) : Prop where
  source_eq : session'.source = session.source
  memory_eq : ∀ index,
    (session'.memories.get? index).getD [] = (session.memories.get? index).getD []
  informed : Informed generator right session
  informed' : Informed generator right session'

/-- Source and memories are those, and samplers are right. -/
def Untouched (generator : Generator S) (source : Source) (memories : Table Pattern.Memory)
    (session : Session S) : Prop :=
  session.source = source ∧ session.memories = memories ∧ SamplersRight generator session

/-- A step that touches nothing but tables has the same answer in both sessions, if right tables
leave one value or one error to it. -/
theorem agree_of_unique {α : Type} {step : Gen S α} {result : α → Prop}
    (failure : GenerationError → Prop)
    (hstep : ∀ source memories, Meets
      (fun session => Untouched generator source memories session ∧
        Learned generator.grammar (fun _ => True) right session) step result failure)
    (hresult : ∀ {value other}, result value → result other → value = other)
    (hfailure : ∀ {error other}, failure error → failure other → error = other)
    (hnever : ∀ {value error}, result value → ¬ failure error) :
    Agree (Indistinct generator right) step step result := by
  intro session session' hsessions
  have hending := hstep session.source session.memories session
    ⟨⟨rfl, rfl, hsessions.informed.1⟩, hsessions.informed.2⟩
  have hending' := hstep session'.source session'.memories session'
    ⟨⟨rfl, rfl, hsessions.informed'.1⟩, hsessions.informed'.2⟩
  have hafter : Indistinct generator right (outcome step session).2 (outcome step session').2 := by
    obtain ⟨⟨hsource, hmemories, hsamplers⟩, hlearned⟩ := hending.kept
    obtain ⟨⟨hsource', hmemories', hsamplers'⟩, hlearned'⟩ := hending'.kept
    refine ⟨?_, fun index => ?_, ⟨hsamplers, hlearned⟩, hsamplers', hlearned'⟩
    · rw [hsource, hsource', hsessions.source_eq]
    · rw [hmemories, hmemories', hsessions.memory_eq]
  generalize outcome step session = ending at hending hafter
  generalize outcome step session' = ending' at hending' hafter
  obtain ⟨answer, after⟩ := ending
  obtain ⟨answer', after'⟩ := ending'
  cases answer with
  | ok value =>
      cases answer' with
      | ok other =>
          rw [hresult hending'.2 hending.2] at hafter ⊢
          exact ⟨rfl, fun _ heq => Except.ok.inj heq ▸ hending.2, hafter⟩
      | error error => exact absurd hending'.2 (hnever hending.2)
  | error error =>
      cases answer' with
      | ok other => exact absurd hending.2 (hnever hending'.2)
      | error other =>
          rw [hfailure hending'.2 hending.2] at hafter ⊢
          exact ⟨rfl, nofun, hafter⟩

theorem draw_agree {α : Type} {draw : Draw α} {result : α → Prop}
    (hdraw : Meets (fun _ => True) draw result fun _ => True) :
    Agree (Indistinct generator right) (Gen.draw draw) (Gen.draw draw) result := by
  intro session session' hsessions
  rw [outcome_draw, outcome_draw, hsessions.source_eq]
  refine ⟨rfl, fun value heq => ?_, rfl, hsessions.memory_eq,
    hsessions.informed.set _ session.memories, hsessions.informed'.set _ session'.memories⟩
  cases hanswer : (outcome draw session.source).1 with
  | ok other =>
      rw [hanswer] at heq
      rw [← Except.ok.inj heq]
      exact hdraw.of_ok trivial hanswer
  | error error =>
      rw [hanswer] at heq
      cases heq

/-! ### Samplers and texts -/

/-- Why a pattern has no sampler. -/
def IsSamplerFault (generator : Generator S) (rule : Rule) (error : GenerationError) : Prop :=
  (∃ pattern fault, rule.value = .text pattern ∧
    generator.readPattern pattern = .error fault ∧
      error = .expression pattern fault) ∨
  (∀ text, rule.value ≠ .text text) ∧ error = .expressionNotText rule.value

omit [Scalar S] in
theorem IsSamplerFault.unique {error other : GenerationError}
    (herror : generator.IsSamplerFault rule error) (hother : generator.IsSamplerFault rule other) :
    error = other := by
  rcases herror with ⟨pattern, fault, hvalue, hfault, rfl⟩ | ⟨hvalue, rfl⟩
  · rcases hother with ⟨pattern', fault', hvalue', hfault', rfl⟩ | ⟨hvalue', -⟩
    · cases hvalue.symm.trans hvalue'
      rw [Except.error.inj (hfault.symm.trans hfault')]
    · exact absurd hvalue (hvalue' pattern)
  · rcases hother with ⟨pattern', fault', hvalue', -, -⟩ | ⟨-, rfl⟩
    · exact absurd hvalue' (hvalue pattern')
    · rfl

omit [Scalar S] in
theorem IsSamplerOf.not_isSamplerFault {sampler : Pattern.Sampler} {error : GenerationError}
    (hsampler : generator.IsSamplerOf rule sampler) : ¬ generator.IsSamplerFault rule error := by
  obtain ⟨pattern, hvalue, hsampler⟩ := hsampler
  rintro (⟨pattern', fault, hvalue', hfault, -⟩ | ⟨hvalue', -⟩)
  · cases hvalue.symm.trans hvalue'
    cases hsampler.symm.trans hfault
  · exact hvalue' pattern hvalue

theorem patternSampler_agree (hwell : generator.grammar.WellFormed)
    (hrule : rule ∈ generator.grammar.rules) :
    Agree (Indistinct generator right) (generator.patternSampler rule)
      (generator.patternSampler rule) (generator.IsSamplerOf rule) := by
  refine agree_of_unique (generator.IsSamplerFault rule) (fun source memories => ?_)
    IsSamplerOf.unique IsSamplerFault.unique IsSamplerOf.not_isSamplerFault
  refine patternSampler_meets (fun pattern sampler hvalue hsampler => ⟨pattern, hvalue, hsampler⟩)
    (fun session sampler hkept hentry => hkept.1.2.2.get? hwell hrule hentry)
    (fun session sampler hkept hsampler => ?_)
    (fun value hvalue hnot => Or.inr ⟨fun text => hvalue ▸ hnot text, by rw [hvalue]⟩)
    fun pattern fault hvalue hfault => Or.inl ⟨pattern, fault, hvalue, hfault, rfl⟩
  obtain ⟨⟨hsource, hmemories, hsamplers⟩, hlearned⟩ := hkept
  exact ⟨⟨hsource, hmemories, hsamplers.set hwell hrule hsampler⟩, hlearned.depths,
    hlearned.weights⟩

/-- A step that first reads the session. -/
theorem get_agree {α : Type} {next : Session S → Gen S α} {result : α → Prop}
    (hnext : ∀ session session', Indistinct generator right session session' →
      Agree.At (Indistinct generator right) result (outcome (next session) session)
        (outcome (next session') session')) :
    Agree (Indistinct generator right) (get >>= next) (get >>= next) result := by
  intro session session' hsessions
  rw [outcome_get_bind, outcome_get_bind]
  exact hnext session session' hsessions

theorem patternText_agree (hwell : generator.grammar.WellFormed)
    (hrule : rule ∈ generator.grammar.rules) :
    Agree (Indistinct generator right) (generator.patternText rule)
      (generator.patternText rule) fun _ => True := by
  refine Agree.bind (patternSampler_agree hwell hrule) fun sampler _ => ?_
  refine get_agree fun session session' hsessions => ?_
  dsimp only
  rw [hsessions.source_eq, hsessions.memory_eq]
  -- the source and the texts of groups are all that the sampler reads
  cases sampler.sample.run.run
      ⟨session.source, (session.memories.get? rule.index).getD []⟩ with
  | mk result state =>
      have hafter : Indistinct generator right
          { session with
            source := state.source
            memories := session.memories.set rule.index state.memory }
          { session' with
            source := state.source
            memories := session'.memories.set rule.index state.memory } := by
        refine ⟨rfl, fun index => ?_, hsessions.informed.set _ _, hsessions.informed'.set _ _⟩
        by_cases hindex : index = rule.index
        · rw [hindex, Table.get?_set, Table.get?_set]
        · rw [Table.get?_set_of_ne _ hindex, Table.get?_set_of_ne _ hindex]
          exact hsessions.memory_eq index
      cases result with
      | ok text => exact ⟨rfl, fun _ _ => trivial, hafter⟩
      | error error => exact ⟨rfl, nofun, hafter⟩

/-! ### Choices -/

theorem sampleWeights_agree (hwell : generator.grammar.WellFormed)
    (hestimate : IsEstimate generator.grammar (fun _ => True) right)
    (hunique : Relator.RightUnique right) (hrule : rule ∈ generator.grammar.rules) :
    Agree (Indistinct generator right) (generator.sampleWeights rule)
      (generator.sampleWeights rule) (List.Forall₂ (IsWeight right) rule.members) := by
  have hweight : Relator.RightUnique (IsWeight right) := by
    rintro member weight other ⟨depth, hdepth, rfl⟩ ⟨depth', hdepth', rfl⟩
    rw [hunique hdepth hdepth']
  refine agree_of_unique (fun _ => False) (fun source memories => ?_)
    (fun hweights hothers => List.right_unique_forall₂' hweight hweights hothers)
    False.elim fun _ => id
  have huntouched : Meets (Untouched generator source memories) (generator.sampleWeights rule)
      (fun _ => True) fun _ => True :=
    sampleWeights_meets (fun member _ => expectedDepthWithin_keeps (fun _ _ => id) _ member [])
      (fun _ _ => trivial) (fun _ _ _ _ => trivial) fun _ _ hkept _ => hkept
  exact (huntouched.and (sampleWeights_right hwell hestimate hrule)).mono
    (fun weights hweights => hweights.2 trivial) fun error hnot => hnot.2 trivial

theorem choose_agree (hwell : generator.grammar.WellFormed)
    (hestimate : IsEstimate generator.grammar (fun _ => True) right)
    (hunique : Relator.RightUnique right) (hrule : rule ∈ generator.grammar.rules) (depth : Int) :
    Agree (Indistinct generator right) (generator.choose rule depth) (generator.choose rule depth)
      (· ∈ rule.members) := by
  unfold choose
  split
  · exact Agree.bind (sampleWeights_agree hwell hestimate hunique hrule) fun weights _ =>
      draw_agree (Draw.weighted_mem rule.members weights)
  · exact draw_agree (Draw.uniform_mem rule.members)

/-! ### Trees -/

theorem generate_agree (hwell : generator.grammar.WellFormed)
    (hestimate : IsEstimate generator.grammar (fun _ => True) right)
    (hunique : Relator.RightUnique right) :
    Agree (Indistinct generator right) generator.generate generator.generate fun _ => True := by
  have halike : Alike (Indistinct generator right) (· ∈ generator.grammar.rules) generator
      generator :=
    { grammar_eq := rfl
      leads := hwell.leads_mem
      start := fun _ hstart => hwell.startRule_mem hstart
      pattern := fun rule hrule => patternText_agree hwell hrule
      choice := fun rule hrule => choose_agree hwell hestimate hunique hrule
      repetition := fun kind => Agree.bind (draw_agree (Meets.trivial _)) fun _ _ =>
        Agree.pure trivial }
  exact Agree.bind (startRule_agree _) fun rule hstart =>
    expand_agree halike _ rule (hwell.startRule_mem hstart) 1

end Indistinct

/-! ## Trees after a new seed -/

/-- The session after some trees. -/
def continued (generator : Generator S) (session : Session S) : Nat → Session S
  | 0 => session
  | made + 1 => (outcome generator.generate (generator.continued session made)).2

theorem sessionAfter_eq (generator : Generator S) (source : Source) (made : Nat) :
    generator.sessionAfter source made = generator.continued (.fresh source) made := by
  induction made with
  | zero => rfl
  | succ made ih => rw [sessionAfter, continued, ih]

/-- After calls that succeed and a new seed a session cannot be told from a fresh one. -/
theorem indistinct_reseed {right : Rule → S → Prop} (hwell : generator.grammar.WellFormed)
    (hestimate : IsEstimate generator.grammar (fun _ => True) right) {calls : List Call}
    (hcalls : ∀ call ∈ calls, call.About generator.grammar ∧ call.Plain)
    (hsucceed : generator.Succeed calls (.fresh source)) (seed : Int) :
    Indistinct generator right (.fresh (source.reseed seed))
      (generator.after (calls ++ [.reseed seed]) (.fresh source)) := by
  have hsettled := after_settled (settled_fresh source) hsucceed
  have hsamplers : SamplersRight generator (generator.after calls (.fresh source)) :=
    after_keeps (fun call hcall => step_keeps_samplers hwell (hcalls call hcall).1)
      (Table.RightFor.empty _ _)
  have hlearned := learned_after hwell hestimate source hcalls
  have hafter : generator.after (calls ++ [.reseed seed]) (.fresh source) =
      { generator.after calls (.fresh source) with
        source := (generator.after calls (.fresh source)).source.reseed seed } := by
    rw [after, List.foldl_append]
    rfl
  rw [hafter]
  refine ⟨hsettled.reseed_eq seed, fun index => ?_,
    ⟨Table.RightFor.empty _ _, learned_fresh _ _ _ _⟩, hsamplers, hlearned.depths,
    hlearned.weights⟩
  -- a memory that is there is empty, like one that is not
  show ((generator.after calls (.fresh source)).memories.get? index).getD [] = []
  cases hmemory : (generator.after calls (.fresh source)).memories.get? index with
  | none => rfl
  | some memory => exact hsettled.memories index memory hmemory

/-- Sessions that cannot be told apart stay so from tree to tree. -/
theorem indistinct_continued {right : Rule → S → Prop} (hwell : generator.grammar.WellFormed)
    (hestimate : IsEstimate generator.grammar (fun _ => True) right)
    (hunique : Relator.RightUnique right) {session session' : Session S}
    (hsessions : Indistinct generator right session session') (made : Nat) :
    Indistinct generator right (generator.continued session made)
      (generator.continued session' made) := by
  induction made with
  | zero => exact hsessions
  | succ made ih => exact (generate_agree hwell hestimate hunique _ _ ih).related

/-- A new seed starts a generator over in any arithmetic in which infinity absorbs depths: after
calls that succeed its trees and its source are those of a fresh generator. -/
theorem trees_replay_of_absorbs {tame : S → Prop} (habsorbs : Absorbs tame)
    (hloaded : generator.grammar.IsLoaded) (hdefined : generator.grammar.SymbolsDefined)
    (hcounted : generator.grammar.MembersCounted) {calls : List Call}
    (hcalls : ∀ call ∈ calls, call.About generator.grammar ∧ call.Plain)
    (hsucceed : generator.Succeed calls (.fresh source)) (seed : Int) (made : Nat) :
    (outcome generator.generate (generator.continued
        (generator.after (calls ++ [.reseed seed]) (.fresh source)) made)).1 =
      generator.treeAt (source.reseed seed) made ∧
    (generator.continued (generator.after (calls ++ [.reseed seed]) (.fresh source)) made).source =
      (generator.sessionAfter (source.reseed seed) made).source := by
  have hwell := hloaded.wellFormed
  have hestimate := isEstimate_estimate habsorbs hwell hdefined hcounted
  have hunique : Relator.RightUnique fun (rule : Rule) (depth : S) =>
      depth = estimate generator.grammar rule ∧ tame depth := by
    rintro rule depth other ⟨rfl, -⟩ ⟨rfl, -⟩
    rfl
  have hsessions := indistinct_continued hwell hestimate hunique
    (indistinct_reseed hwell hestimate hcalls hsucceed seed) made
  rw [treeAt, sessionAfter_eq]
  exact ⟨(generate_agree hwell hestimate hunique _ _ hsessions).answer_eq.symm,
    hsessions.source_eq⟩

/-- **A new seed starts a generator over.**  After calls that succeed, a generator that starts over
with a seed gives the trees of a fresh generator with that seed one after the other, and each of
them leaves the source as there.  Trees of the start rule are among the calls, with `levelLimit`
levels and at the depth one. -/
theorem trees_replay (generator : Generator Number) (hloaded : generator.grammar.IsLoaded)
    (hdefined : generator.grammar.SymbolsDefined) (hcounted : generator.grammar.MembersCounted)
    (first seed : Int) (calls : List Call)
    (hcalls : ∀ call ∈ calls, call.About generator.grammar ∧ call.Plain)
    (hsucceed : generator.Succeed calls (.fresh (.ofSeed first))) (made : Nat) :
    (outcome generator.generate (generator.continued
        (generator.after (calls ++ [.reseed seed]) (.fresh (.ofSeed first))) made)).1 =
      generator.treeAt (.ofSeed seed) made ∧
    (generator.continued
        (generator.after (calls ++ [.reseed seed]) (.fresh (.ofSeed first))) made).source =
      (generator.sessionAfter (.ofSeed seed) made).source := by
  have hreseed : (Source.ofSeed first).reseed seed = .ofSeed seed := by
    simp only [Source.ofSeed, Source.reseed]
  have hreplay := trees_replay_of_absorbs number_absorbs hloaded hdefined hcounted hcalls hsucceed
    seed made
  rwa [hreseed] at hreplay

/-- The small grammar after weights, a tree and an estimate. -/
theorem trees_replay_chain :
    Grammar.chain.IsLoaded ∧ Grammar.chain.SymbolsDefined ∧ Grammar.chain.MembersCounted ∧
      (outcome (chain : Generator Number).generate ((chain : Generator Number).continued
        ((chain : Generator Number).after
          ([.sampleWeights Chain.word, .expand 9 Chain.letter 1, .expectedDepth Chain.again []] ++
            [.reseed 5]) (.fresh (.ofSeed 3))) 2)).1 =
        (chain : Generator Number).treeAt (.ofSeed 5) 2 := by
  have hcounted : Grammar.chain.MembersCounted := by
    intro rule hrule
    have hcases : rule = Chain.letter ∨ rule = Chain.again ∨ rule = Chain.word := by
      simpa [Grammar.chain] using hrule
    rcases hcases with rfl | rfl | rfl <;> decide
  have hcalls : ∀ call ∈ [Call.sampleWeights Chain.word, .expand 9 Chain.letter 1,
      .expectedDepth Chain.again []], call.About Grammar.chain ∧ call.Plain := by
    simp [Call.About, Call.Plain, Grammar.chain]
  have hsucceed : (chain : Generator Number).Succeed [.sampleWeights Chain.word,
      .expand 9 Chain.letter 1, .expectedDepth Chain.again []] (.fresh (.ofSeed 3)) := by
    exact ⟨rfl, rfl, rfl, trivial⟩
  exact ⟨chain_isLoaded, chain_symbolsDefined, hcounted, (trees_replay (chain : Generator Number)
    chain_isLoaded chain_symbolsDefined hcounted 3 5 _ hcalls hsucceed 2).1⟩

end GrammarFuzz.Generator

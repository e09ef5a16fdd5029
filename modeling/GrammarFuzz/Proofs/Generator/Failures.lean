import GrammarFuzz.Proofs.Generator.Derivation
import GrammarFuzz.Proofs.Generator.Weights
import GrammarFuzz.Proofs.Random.Failures

/-!
# Why trees fail

A tree of a rule whose symbols all have definitions fails for few reasons (`FailsBy`): the levels
or the words give out, or a pattern cannot be read or gives no text.  That nothing else is in the
way rests on three facts, each of them kept over all calls.  Rules of a loaded grammar have the
parts that their kinds need.  Estimates succeed for rules that are closed under symbols
(`Learned`), so every choice has as many weights as alternatives.  And the weights come of depths
that are at least one, so in exact arithmetic each is above zero and at most one, and their total
is something to draw from.

With other scalars the shape of the argument is the same, and only the arithmetic of a draw is left
open.
-/

namespace GrammarFuzz

namespace Grammar

/-- All symbols that the rule reaches have definitions. -/
def Closed (grammar : Grammar) (rule : Rule) : Prop :=
  ∀ symbol, grammar.Reaches rule symbol → symbol.kind = .symbol →
    ∃ target, grammar.lookup symbol.name = .ok target

theorem Closed.of_leads {grammar : Grammar} {rule next : Rule} (hclosed : grammar.Closed rule)
    (hleads : grammar.Leads rule next) : grammar.Closed next :=
  fun symbol hreaches hkind => hclosed symbol (.head hleads hreaches) hkind

theorem Closed.of_reaches {grammar : Grammar} {rule next : Rule} (hclosed : grammar.Closed rule)
    (hreaches : grammar.Reaches rule next) : grammar.Closed next :=
  fun symbol hsymbol hkind => hclosed symbol (hreaches.trans hsymbol) hkind

theorem WellFormed.reaches_mem {grammar : Grammar} (hwell : grammar.WellFormed) {rule next : Rule}
    (hrule : rule ∈ grammar.rules) (hreaches : grammar.Reaches rule next) :
    next ∈ grammar.rules := by
  induction hreaches with
  | refl => exact hrule
  | tail _ hleads ih => exact hwell.leads_mem ih hleads

theorem SymbolsDefined.closed {grammar : Grammar} (hdefined : grammar.SymbolsDefined)
    (hwell : grammar.WellFormed) {rule : Rule} (hrule : rule ∈ grammar.rules) :
    grammar.Closed rule :=
  fun symbol hreaches hkind => hdefined symbol (hwell.reaches_mem hrule hreaches) hkind

end Grammar

namespace Generator

open Grammar
open GrammarFuzz.Random (Draw DrawError)

variable {S : Type} {generator : Generator S} {rule : Rule} {arithmetic : DrawError → Prop}

/-! ## Patterns -/

/-- The pattern of the rule cannot be read, or its sampler gives no text. -/
def IsPatternFailure (generator : Generator S) (rule : Rule) (error : GenerationError) : Prop :=
  ∃ pattern, rule.value = .text pattern ∧
    ((∃ failure, generator.readPattern pattern = .error failure ∧
        error = .expression pattern failure) ∨
      ∃ sampler state failure,
        generator.readPattern pattern = .ok sampler ∧
        (outcome sampler.sample state).1 = .error failure ∧ error = .sample failure)

theorem patternText_fails (hwell : generator.grammar.WellFormed)
    (hrule : rule ∈ generator.grammar.rules) (hkind : rule.kind = .pattern) :
    Meets (SamplersRight generator) (generator.patternText rule) (fun _ => True)
      (generator.IsPatternFailure rule) := by
  have hshaped := hwell.arena.shaped hrule
  simp only [Rule.Shaped, hkind] at hshaped
  obtain ⟨⟨pattern, hpattern⟩, -⟩ := hshaped
  have hsampler : Meets (SamplersRight generator) (generator.patternSampler rule)
      (generator.IsSamplerOf rule) (generator.IsPatternFailure rule) := by
    refine patternSampler_meets (fun pattern _ hpattern hmade => ⟨pattern, hpattern, hmade⟩)
      (fun _ _ hright hentry => hright.get? hwell hrule hentry)
      (fun _ _ hright hsampler => hright.set hwell hrule hsampler)
      (fun value hvalue hnot => ?_) fun other failure hvalue hfailed => ?_
    · exact absurd (hvalue.symm.trans hpattern) (hnot pattern)
    · exact ⟨other, hvalue, Or.inl ⟨failure, hfailed, rfl⟩⟩
  refine (patternText_meets hsampler (fun _ _ _ hright => hright)
    fun sampler state failure hsampler hfailed => ?_).mono (fun _ _ => trivial) fun _ => id
  obtain ⟨other, hother, hmade⟩ := hsampler
  exact ⟨other, hother, Or.inr ⟨sampler, state, failure, hmade, hfailed, rfl⟩⟩

/-! ## Trees -/

/-- What a tree of the rule may fail by, where the arithmetic of draws goes wrong as given. -/
inductive FailsBy (generator : Generator S) (rule : Rule) (arithmetic : DrawError → Prop) :
    GenerationError → Prop where
  | levels : FailsBy generator rule arithmetic .tooDeep
  | words : FailsBy generator rule arithmetic (.draw .exhausted)
  | arithmetic {failed : DrawError} (hfailed : arithmetic failed) :
      FailsBy generator rule arithmetic (.draw failed)
  | pattern {part : Rule} {error : GenerationError}
      (hreaches : generator.grammar.Reaches rule part) (hkind : part.kind = .pattern)
      (herror : generator.IsPatternFailure part error) : FailsBy generator rule arithmetic error

theorem FailsBy.of_draw {failed : DrawError} (hfailed : failed = .exhausted ∨ arithmetic failed) :
    FailsBy generator rule arithmetic (.draw failed) := by
  rcases hfailed with rfl | hfailed
  · exact .words
  · exact .arithmetic hfailed

variable [Scalar S]

/-- What is kept is right, the weights and the depths for closed rules. -/
def Sound (generator : Generator S) (right : Rule → S → Prop) (session : Session S) : Prop :=
  Learned generator.grammar generator.grammar.Closed right session ∧
    SamplersRight generator session

theorem sound_after (hwell : generator.grammar.WellFormed) {right : Rule → S → Prop}
    (hestimate : IsEstimate generator.grammar generator.grammar.Closed right)
    (source other : Random.Source) {calls : List Call}
    (hcalls : ∀ call ∈ calls, call.About generator.grammar ∧ call.Plain) :
    Sound generator right { generator.after calls (.fresh source) with source := other } := by
  obtain ⟨hdepths, hweights⟩ := learned_after hwell hestimate source hcalls
  have hsamplers : SamplersRight generator (generator.after calls (.fresh source)) :=
    after_keeps (fun call hcall => step_keeps_samplers hwell (hcalls call hcall).1)
      (Table.RightFor.empty _ _)
  exact ⟨⟨hdepths, hweights⟩, hsamplers⟩

/-- **A tree of a closed rule fails for want of levels or words, by a pattern, or by the arithmetic
of a draw**, for whatever makes weighted draws and Poisson draws go wrong. -/
theorem expand_fails (hwell : generator.grammar.WellFormed) {right : Rule → S → Prop}
    (hestimate : IsEstimate generator.grammar generator.grammar.Closed right)
    (hweighted : ∀ (part : Rule) (weights : List S), part.members ≠ [] →
      List.Forall₂ (IsWeight right) part.members weights →
      Meets (fun _ => True) (Draw.weighted part.members weights) (· ∈ part.members)
        fun error => error = .exhausted ∨ arithmetic error)
    (hpoisson : Meets (fun _ => True) (Draw.poisson generator.meanRepeat) (fun _ => True)
      fun error => error = .exhausted ∨ arithmetic error)
    (hrule : rule ∈ generator.grammar.rules) (hclosed : generator.grammar.Closed rule)
    (levels : Nat) (depth : Int) :
    Meets (Sound generator right) (generator.expand levels rule depth) (fun _ => True)
      (FailsBy generator rule arithmetic) := by
  have hsource : ∀ session source, Sound generator right session →
      Sound generator right { session with source } :=
    fun session source hsession => ⟨⟨hsession.1.depths, hsession.1.weights⟩, hsession.2⟩
  have hclosed' : ∀ {part}, generator.grammar.Reaches rule part → generator.grammar.Closed part :=
    fun hreaches => hclosed.of_reaches hreaches
  -- the tree stays within what the rule reaches
  have hparts : Parts generator (generator.grammar.Reaches rule) (Sound generator right)
      (fun _ _ => True) (FailsBy generator rule arithmetic) :=
    { mem := hwell.reaches_mem hrule
      leads := fun hreaches hleads => hreaches.tail hleads
      tooDeep := .levels
      symbol := by
        intro part hpart hkind error herror
        obtain ⟨target, hlookup⟩ := hclosed part hpart hkind
        cases hlookup.symm.trans herror
      pattern := by
        intro part hpart hkind
        have hlearned : Meets (Learned generator.grammar generator.grammar.Closed right)
            (generator.patternText part) (fun _ => True) fun _ => True :=
          (patternText_meets (patternSampler_meets (fun _ _ _ _ => trivial)
            (fun _ _ _ _ => trivial) (fun _ _ hlearned _ => ⟨hlearned.depths, hlearned.weights⟩)
            (fun _ _ _ => trivial) fun _ _ _ _ => trivial)
            (fun _ _ _ hlearned => ⟨hlearned.depths, hlearned.weights⟩)
            fun _ _ _ _ _ => trivial).mono (fun _ _ => trivial) fun _ => id
        have htext := patternText_fails hwell (hwell.reaches_mem hrule hpart) hkind
        exact (hlearned.and htext).mono (fun _ _ => trivial)
          fun _ herror => .pattern hpart hkind herror.2
      choice := by
        intro part hpart hkind depth
        have hmem := hwell.reaches_mem hrule hpart
        have hne : part.members ≠ [] := by
          have hshaped := hwell.arena.shaped hmem
          simp only [Rule.Shaped, hkind] at hshaped
          exact hshaped.1
        have hweights := (sampleWeights_right hwell hestimate hmem).and
          (sampleWeights_keeps_samplers generator part)
        refine choose_meets (hweights.mono (fun _ => id) fun _ hnot => ?_) hsource
          (fun weights hright => ?_) ?_ depth
        · exact absurd (hclosed' hpart) hnot.1
        · exact (hweighted part weights hne (hright.1 (hclosed' hpart))).mono (fun _ => id)
            fun _ => FailsBy.of_draw
        · exact (Draw.uniform_fails hne).mono (fun _ => id) fun _ hfailed =>
            FailsBy.of_draw (Or.inl hfailed)
      repetition := repetitions_meets hsource (hpoisson.mono (fun _ => id) fun _ => FailsBy.of_draw) }
  exact (expand_meets hwell hparts levels rule .refl depth).mono (fun _ _ => trivial) fun _ => id

/-! ## Exact weights -/

section Exact

variable {decay : ℚ → ℚ} {grammar : Grammar}

theorem ofDepth_cases {depth : Depth} (hdepth : 1 ≤ depth) :
    (Exact.ofDepth depth : Exact decay) = .infinite false ∨
      ∃ amount : ℚ, (Exact.ofDepth depth : Exact decay) = .finite amount ∧ 1 ≤ amount := by
  induction depth using WithTop.recTopCoe with
  | top => exact Or.inl rfl
  | coe value => exact Or.inr ⟨value, rfl, by exact_mod_cast hdepth⟩

theorem isWeight_ofDepth {rule : Rule} {weight : Exact decay}
    (hweight : IsWeight (fun rule depth => depth = Exact.ofDepth (grammar.depth rule)) rule weight) :
    ∃ amount : ℚ, weight = .finite amount ∧ 0 < amount ∧ amount ≤ 1 := by
  obtain ⟨depth, rfl, rfl⟩ := hweight
  have hdepth := one_le_depth grammar rule
  exact ⟨_, weightOfDepth_ofDepth hdepth, weightAmount_pos hdepth, weightAmount_le_one hdepth⟩

/-- The weights of some alternatives have a total to draw from. -/
theorem weighable_ofDepth {members : List Rule} {weights : List (Exact decay)}
    (hweights : List.Forall₂
      (IsWeight fun rule depth => depth = Exact.ofDepth (grammar.depth rule)) members weights) :
    Draw.Weighable weights := by
  refine Exact.weighable fun weight hmem => ?_
  obtain ⟨place, hplace, rfl⟩ := List.getElem_of_mem hmem
  have hweight := hweights.get (by rw [hweights.length_eq]; exact hplace) hplace
  obtain ⟨amount, heq, hpositive, -⟩ := isWeight_ofDepth hweight
  exact ⟨amount, heq, hpositive⟩

end Exact

/-! ## Closed rules -/

theorem isEstimate_trivial (grammar : Grammar) :
    IsEstimate grammar grammar.Closed fun _ (_ : S) => True where
  leads hclosed hleads := hclosed.of_leads hleads
  defined _ hclosed hkind := hclosed _ .refl hkind
  endless _ _ _ := trivial
  above _ _ _ := trivial

theorem expand_failsBy_numeric {generator : Generator S} (hwell : generator.grammar.WellFormed)
    (hrule : rule ∈ generator.grammar.rules) (hclosed : generator.grammar.Closed rule)
    (levels : Nat) (depth : Int) :
    Meets (Sound generator fun _ _ => True) (generator.expand levels rule depth) (fun _ => True)
      (FailsBy generator rule DrawError.IsNumeric) := by
  refine expand_fails hwell (isEstimate_trivial _) (fun part weights hne hweights => ?_)
    ((Draw.poisson_fails _).mono (fun _ => id) fun _ => Or.imp_right And.left) hrule hclosed levels
    depth
  exact (Draw.weighted_fails hweights.length_eq hne).mono (fun _ => id)
    fun _ => Or.imp_right And.left

section Exact

variable {decay : ℚ → ℚ} {generator : Generator (Exact decay)}

/-- The depths of closed rules are what estimates come to. -/
theorem isEstimate_closed {grammar : Grammar} (hwell : grammar.WellFormed) :
    IsEstimate grammar grammar.Closed fun rule (depth : Exact decay) =>
      depth = Exact.ofDepth (grammar.depth rule) :=
  isEstimate_ofDepth hwell (fun hclosed hleads => hclosed.of_leads hleads)
    fun _ hclosed hkind => hclosed _ .refl hkind

/-- Every draw of a tree of a closed rule has what it needs. -/
theorem expand_failsBy_exact (hwell : generator.grammar.WellFormed) {mean : ℚ} (hmean : 0 ≤ mean)
    (hmean' : generator.meanRepeat = .finite mean) (hrule : rule ∈ generator.grammar.rules)
    (hclosed : generator.grammar.Closed rule) (levels : Nat) (depth : Int) :
    Meets (Sound generator fun rule depth =>
        depth = Exact.ofDepth (generator.grammar.depth rule))
      (generator.expand levels rule depth) (fun _ => True)
      (FailsBy generator rule fun _ => False) := by
  refine expand_fails hwell (isEstimate_closed hwell) (fun part weights hne hweights => ?_) ?_ hrule
    hclosed levels depth
  · exact (Draw.weighted_fails hweights.length_eq hne).mono (fun _ => id)
      fun _ => Or.imp_right fun hfailed => hfailed.2 (weighable_ofDepth hweights)
  · rw [hmean']
    exact (Draw.poisson_fails _).mono (fun _ => id)
      fun _ => Or.imp_right fun hfailed => hfailed.2 (Exact.isMean hmean)

theorem exists_expectedDepth (hwell : generator.grammar.WellFormed)
    (hrule : rule ∈ generator.grammar.rules) (hclosed : generator.grammar.Closed rule)
    {session : Session (Exact decay)}
    (hsession : Learned generator.grammar generator.grammar.Closed
      (fun rule depth => depth = Exact.ofDepth (generator.grammar.depth rule)) session) :
    ∃ depth, (outcome (generator.expectedDepth rule []) session).1 = .ok depth ∧
      (depth = .infinite false ∨ ∃ amount : ℚ, depth = .finite amount ∧ 1 ≤ amount) := by
  have hmeets := (expectedDepth_right hwell (isEstimate_closed hwell) (Learned.remembers hwell)
    hrule).mono (fun _ hdepth => hdepth hclosed) fun _ hnot => hnot hclosed
  obtain ⟨depth, after, houtcome, -, rfl⟩ := hmeets.exists_ok hsession
  exact ⟨_, by rw [houtcome], ofDepth_cases (one_le_depth generator.grammar rule)⟩

theorem exists_sampleWeights (hwell : generator.grammar.WellFormed)
    (hrule : rule ∈ generator.grammar.rules) (hclosed : generator.grammar.Closed rule)
    {session : Session (Exact decay)}
    (hsession : Learned generator.grammar generator.grammar.Closed
      (fun rule depth => depth = Exact.ofDepth (generator.grammar.depth rule)) session) :
    ∃ weights, (outcome (generator.sampleWeights rule) session).1 = .ok weights ∧
      weights.length = rule.members.length ∧
      ∀ weight ∈ weights, ∃ amount : ℚ, weight = .finite amount ∧ 0 < amount ∧ amount ≤ 1 := by
  have hmeets := (sampleWeights_right hwell (isEstimate_closed hwell) hrule).mono
    (fun _ hweights => hweights hclosed) fun _ hnot => hnot hclosed
  obtain ⟨weights, after, houtcome, -, hweights⟩ := hmeets.exists_ok hsession
  refine ⟨weights, by rw [houtcome], hweights.length_eq.symm, fun weight hmem => ?_⟩
  obtain ⟨place, hplace, rfl⟩ := List.getElem_of_mem hmem
  exact isWeight_ofDepth (hweights.get (by rw [hweights.length_eq]; exact hplace) hplace)

end Exact

/-- **A tree of a rule from which only defined symbols can be reached fails for want of levels or
words or by a pattern.**  Whatever was asked before and whatever the scalars are, all else that can
go wrong is the arithmetic of a draw.  In exact arithmetic, with a mean that is not negative, that
cannot go wrong either: all estimates within reach are at least one or infinite, and there is one
weight for each member, above zero and at most one. -/
theorem expand_failsBy (grammar : Grammar) (hloaded : grammar.IsLoaded) (source other : Random.Source)
    (calls : List Call) (hcalls : ∀ call ∈ calls, call.About grammar ∧ call.Plain)
    (maxDepth maxRegexRepeat : Int) (interpreter : Interpreter) (rule : Rule)
    (hrule : rule ∈ grammar.rules) (hclosed : grammar.Closed rule) :
    (∀ (S : Type) [Scalar S] (mean : S),
      let generator : Generator S := ⟨grammar, maxDepth, mean, maxRegexRepeat, interpreter⟩
      let session := { generator.after calls (.fresh source) with source := other }
      ∀ levels depth error, (outcome (generator.expand levels rule depth) session).1 = .error error →
        FailsBy generator rule DrawError.IsNumeric error) ∧
    ∀ (decay : ℚ → ℚ) (mean : ℚ), 0 ≤ mean →
      let generator : Generator (Exact decay) :=
        ⟨grammar, maxDepth, .finite mean, maxRegexRepeat, interpreter⟩
      let session := { generator.after calls (.fresh source) with source := other }
      (∀ levels depth error, (outcome (generator.expand levels rule depth) session).1 = .error error →
        FailsBy generator rule (fun _ => False) error) ∧
      ∀ part, grammar.Reaches rule part →
        (∃ depth, (outcome (generator.expectedDepth part []) session).1 = .ok depth ∧
          (depth = .infinite false ∨ ∃ amount : ℚ, depth = .finite amount ∧ 1 ≤ amount)) ∧
        ∃ weights, (outcome (generator.sampleWeights part) session).1 = .ok weights ∧
          weights.length = part.members.length ∧
          ∀ weight ∈ weights, ∃ amount : ℚ, weight = .finite amount ∧ 0 < amount ∧ amount ≤ 1 := by
  have hwell := hloaded.wellFormed
  refine ⟨fun S _ mean => ?_, fun decay mean hmean => ?_⟩
  · intro generator session levels depth error herror
    have hsound : Sound generator (fun _ _ => True) session :=
      sound_after hwell (isEstimate_trivial _) source other hcalls
    exact (expand_failsBy_numeric hwell hrule hclosed levels depth).of_error hsound herror
  · intro generator session
    have hsound : Sound generator
        (fun rule depth => depth = Exact.ofDepth (generator.grammar.depth rule)) session :=
      sound_after hwell (isEstimate_closed hwell) source other hcalls
    refine ⟨fun levels depth error herror => ?_, fun part hreaches => ⟨?_, ?_⟩⟩
    · exact (expand_failsBy_exact hwell hmean rfl hrule hclosed levels depth).of_error hsound herror
    · exact exists_expectedDepth hwell (hwell.reaches_mem hrule hreaches)
        (hclosed.of_reaches hreaches) hsound.1
    · exact exists_sampleWeights hwell (hwell.reaches_mem hrule hreaches)
        (hclosed.of_reaches hreaches) hsound.1

end Generator

/-! ### A pattern that cannot be read -/

namespace Grammar

namespace Unreadable

/-- The pattern: a group that is not closed. -/
def pattern : Rule := ⟨0, .pattern, .text "(", .null, [], none⟩

/-- The document of the pattern. -/
def patternDocument : Json := .object [("type", .text "PATTERN"), ("value", .text "(")]

theorem rule_pattern (place : Place) :
    Reader.rule place patternDocument = Reader.create .pattern (.text "(") .null [] none := by
  rw [patternDocument, Reader.rule]
  rfl

end Unreadable

/-- A small grammar of a pattern that cannot be read. -/
def unreadable : Grammar := ⟨.null, [], #[Unreadable.pattern], [("S", Unreadable.pattern)]⟩

/-- The document of the small grammar. -/
def unreadableDocument : Json := .object [("rules", .object [("S", Unreadable.patternDocument)])]

theorem ofDocument_unreadable : ofDocument unreadableDocument = .ok unreadable := by
  have hdefinitions : Reader.definitions [("S", Unreadable.patternDocument)] =
      (do return [("S", ← Reader.rule ⟨"S", []⟩ Unreadable.patternDocument)]) := rfl
  rw [Unreadable.rule_pattern] at hdefinitions
  show ((Reader.definitions [("S", Unreadable.patternDocument)]).run #[] >>= fun pair =>
    Except.ok (⟨.null, [], pair.2, pair.1⟩ : Grammar)) = _
  rw [hdefinitions]
  rfl

theorem unreadable_symbolsDefined : unreadable.SymbolsDefined := by
  intro rule hrule hkind
  obtain rfl : rule = Unreadable.pattern := by simpa [unreadable] using hrule
  cases hkind

end Grammar

namespace Generator

open Grammar

/-- No symbol can be reached from the pattern, and so it is closed.  It fails by itself, since its
group is not closed. -/
theorem expand_failsBy_unreadable :
    unreadable.IsLoaded ∧ Unreadable.pattern ∈ unreadable.rules ∧
      unreadable.Closed Unreadable.pattern ∧
      FailsBy (⟨unreadable, 10, .finite 5, 5, Interpreter.plain⟩ : Generator (Exact fun _ => 0))
        Unreadable.pattern (fun _ => False)
        (.expression "(" (.invalid .unterminatedGroup (some 0))) := by
  have hloaded : unreadable.IsLoaded := .document ofDocument_unreadable
  have hpattern : Unreadable.pattern ∈ unreadable.rules := by simp [unreadable]
  have hclosed := unreadable_symbolsDefined.closed hloaded.wellFormed hpattern
  have hcalls : ∀ call ∈ [Call.sampleWeights Unreadable.pattern],
      call.About unreadable ∧ call.Plain := by
    simp [Call.About, Call.Plain, hpattern]
  refine ⟨hloaded, hpattern, hclosed, ?_⟩
  refine ((expand_failsBy unreadable hloaded (.ofWords []) (.ofWords []) _ hcalls 10 5
    Interpreter.plain Unreadable.pattern hpattern hclosed).2 (fun _ => 0) 5 (by norm_num)).1 9 1 _ ?_
  with_unfolding_all rfl

end Generator

end GrammarFuzz

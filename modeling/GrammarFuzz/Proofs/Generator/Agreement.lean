import GrammarFuzz.Proofs.Generator.Steps

/-!
# Two generators side by side

Two generators of one grammar expand a rule to the same tree if they choose alike: if their
choices, their numbers of repetitions and their texts of patterns agree in all related
sessions (`expand_agree`).

As a first use, the notes of a session never matter: with other notes a generator gives the
same tree and leaves the same session, but for the notes (`generate_agree_notes`).
-/

namespace GrammarFuzz.Generator

variable {S : Type} {first second : Generator S} {grammar : Grammar} {rule : Rule}
  {related : Session S → Session S → Prop} {fits : Rule → Prop}

theorem resolve_agree (grammar : Grammar) (name : Json) :
    Agree related (Gen.resolve grammar name) (Gen.resolve grammar name)
      fun target => grammar.lookup name = .ok target := by
  unfold Gen.resolve
  cases hlookup : grammar.lookup name with
  | ok target => exact Agree.pure rfl
  | error error => exact Agree.throw _

theorem startRule_agree (grammar : Grammar) :
    Agree related (Gen.startRule grammar) (Gen.startRule grammar)
      fun rule => grammar.startRule = .ok rule := by
  unfold Gen.startRule
  cases hstart : grammar.startRule with
  | ok rule => exact Agree.pure rfl
  | error error => exact Agree.throw _

theorem times_agree {α : Type} {step step' : Gen S α}
    (hstep : Agree related step step' fun _ => True) (count : Nat) :
    Agree related (Gen.times step count) (Gen.times step' count) fun _ => True := by
  induction count with
  | zero => exact Agree.pure trivial
  | succ count ih =>
      unfold Gen.times
      exact Agree.bind hstep fun value _ => Agree.bind ih fun rest _ => Agree.pure trivial

/-! ## Expansion -/

section Expansion

variable [Scalar S]

/-- Two generators of one grammar that choose alike for the rules that fit. -/
structure Alike (related : Session S → Session S → Prop) (fits : Rule → Prop)
    (first second : Generator S) : Prop where
  grammar_eq : second.grammar = first.grammar
  /-- The rules that a rule that fits leads to fit as well. -/
  leads : ∀ {rule next : Rule}, fits rule → first.grammar.Leads rule next → fits next
  start : ∀ rule, first.grammar.startRule = .ok rule → fits rule
  pattern : ∀ rule, fits rule →
    Agree related (first.patternText rule) (second.patternText rule) fun _ => True
  choice : ∀ rule, fits rule → ∀ depth,
    Agree related (first.choose rule depth) (second.choose rule depth) (· ∈ rule.members)
  repetition : ∀ kind,
    Agree related (first.repetitions kind) (second.repetitions kind) fun _ => True

/-- **Generators that choose alike expand alike.** -/
theorem expand_agree (halike : Alike related fits first second) (levels : Nat) (rule : Rule)
    (hfits : fits rule) (depth : Int) :
    Agree related (first.expand levels rule depth) (second.expand levels rule depth)
      fun _ => True := by
  induction levels generalizing rule depth with
  | zero => exact Agree.throw _
  | succ levels ih =>
      rw [expand, expand, halike.grammar_eq]
      -- a repetition or an annotation goes on with the same rule in both generators
      have hcontent :
          Agree related (first.contentOrStart rule) (second.contentOrStart rule) fits := by
        unfold contentOrStart
        cases hcontent : rule.content with
        | some content => exact Agree.pure (halike.leads hfits (Or.inl (Or.inr hcontent)))
        | none =>
            rw [halike.grammar_eq]
            exact (startRule_agree _).mono halike.start
      cases hkind : rule.kind with
      | blank => exact Agree.pure trivial
      | literal =>
          cases rule.value with
          | text value => exact Agree.pure trivial
          | _ => exact Agree.throw _
      | pattern =>
          exact Agree.bind (halike.pattern rule hfits) fun text _ => Agree.pure trivial
      | symbol =>
          refine Agree.bind (resolve_agree _ _) fun target hlookup => ?_
          exact Agree.bind (ih target (halike.leads hfits (Or.inr ⟨hkind, hlookup⟩)) _)
            fun child _ => Agree.pure trivial
      | sequence =>
          refine Agree.bind (Agree.mapM rule.members fun member hmember => ?_)
            fun children _ => Agree.pure trivial
          exact ih member (halike.leads hfits (Or.inl (Or.inl hmember))) _
      | choice =>
          refine Agree.bind (halike.choice rule hfits depth) fun chosen hchosen => ?_
          exact Agree.bind (ih chosen (halike.leads hfits (Or.inl (Or.inl hchosen))) _)
            fun child _ => Agree.pure trivial
      | other word => exact Agree.throw _
      | many | many1 =>
          refine Agree.bind (halike.repetition _) fun count _ => ?_
          refine Agree.bind (times_agree (Agree.bind hcontent fun content hfits => ?_) count)
            fun children _ => Agree.pure trivial
          exact ih content hfits _
      | _ =>
          refine Agree.bind hcontent fun content hfits => ?_
          exact Agree.bind (ih content hfits _) fun child _ => Agree.pure trivial

end Expansion

/-! ## Notes -/

/-- The sessions differ at most in their notes. -/
def SameButNotes (session session' : Session S) : Prop :=
  ∃ notes, session' = { session with notes }

theorem SameButNotes.clear {session session' : Session S}
    (hsame : SameButNotes session session') :
    SameButNotes session { session' with notes := [] } := by
  obtain ⟨notes, rfl⟩ := hsame
  exact ⟨[], rfl⟩

/-- A step that first reads the session. -/
theorem get_agree_notes {α : Type} {next : Session S → Gen S α} {result : α → Prop}
    (hnext : ∀ session notes, Agree.At SameButNotes result (outcome (next session) session)
      (outcome (next { session with notes }) { session with notes })) :
    Agree SameButNotes (get >>= next) (get >>= next) result := by
  rintro session - ⟨notes, rfl⟩
  exact hnext session notes

theorem draw_agree_notes {α : Type} {draw : Random.Draw α} {result : α → Prop}
    (hdraw : Meets (fun _ => True) draw result fun _ => True) :
    Agree SameButNotes (Gen.draw draw : Gen S α) (Gen.draw draw) result := by
  rintro session - ⟨notes, rfl⟩
  rw [outcome_draw, outcome_draw]
  refine ⟨rfl, fun value heq => ?_, notes, rfl⟩
  cases hanswer : (outcome draw session.source).1 with
  | ok other =>
      rw [hanswer] at heq
      rw [← Except.ok.inj heq]
      exact hdraw.of_ok trivial hanswer
  | error error =>
      rw [hanswer] at heq
      cases heq

theorem keepDepth_agree_notes {compute : Gen S S}
    (hcompute : Agree SameButNotes compute compute fun _ => True) :
    Agree SameButNotes (keepDepth rule compute) (keepDepth rule compute) fun _ => True := by
  refine get_agree_notes fun session notes => ?_
  dsimp only
  cases session.depths.get? rule.index with
  | some depth => exact ⟨rfl, fun _ _ => trivial, notes, rfl⟩
  | none =>
      -- the computation may leave other notes, so the sessions are related anew after it
      refine Agree.bind hcompute (fun depth _ => ?_) session _ ⟨notes, rfl⟩
      rintro session - ⟨notes, rfl⟩
      exact ⟨rfl, fun _ _ => trivial, notes, rfl⟩

theorem patternSampler_agree_notes (generator : Generator S) (rule : Rule) :
    Agree SameButNotes (generator.patternSampler rule) (generator.patternSampler rule)
      fun _ => True := by
  refine get_agree_notes fun session notes => ?_
  dsimp only
  cases session.samplers.get? rule.index with
  | some sampler => exact ⟨rfl, fun _ _ => trivial, notes, rfl⟩
  | none =>
      dsimp only
      split
      · split
        · exact ⟨rfl, fun _ _ => trivial, notes, rfl⟩
        · exact ⟨rfl, nofun, notes, rfl⟩
      · exact ⟨rfl, nofun, notes, rfl⟩

theorem patternText_agree_notes (generator : Generator S) (rule : Rule) :
    Agree SameButNotes (generator.patternText rule) (generator.patternText rule)
      fun _ => True := by
  refine Agree.bind (patternSampler_agree_notes generator rule) fun sampler _ => ?_
  refine get_agree_notes fun session notes => ?_
  dsimp only
  cases sampler.sample.run.run
      ⟨session.source, (session.memories.get? rule.index).getD []⟩ with
  | mk result state =>
      cases result with
      | ok text => exact ⟨rfl, fun _ _ => trivial, notes, rfl⟩
      | error error => exact ⟨rfl, nofun, notes, rfl⟩

variable [Scalar S]

theorem repetitions_agree_notes (generator : Generator S) (kind : RuleKind) :
    Agree SameButNotes (generator.repetitions kind) (generator.repetitions kind)
      fun _ => True :=
  Agree.bind (draw_agree_notes (Meets.trivial _)) fun _ _ => Agree.pure trivial

theorem expectedDepthWithin_agree_notes (levels : Nat) (rule : Rule) (stack : List String) :
    Agree SameButNotes (expectedDepthWithin grammar levels rule stack : Gen S S)
      (expectedDepthWithin grammar levels rule stack) fun _ => True := by
  induction levels generalizing rule stack with
  | zero => exact Agree.throw _
  | succ levels ih =>
      have hnext : ∀ next stack, Agree SameButNotes
          (do return deeper (← expectedDepthWithin grammar levels next stack) : Gen S S)
          (do return deeper (← expectedDepthWithin grammar levels next stack)) fun _ => True :=
        fun next stack => Agree.bind (ih next stack) fun _ _ => Agree.pure trivial
      have hmembers := Agree.mapM rule.members fun member _ => ih member stack
      rw [expectedDepthWithin]
      refine keepDepth_agree_notes ?_
      split
      · exact Agree.pure trivial
      · exact Agree.pure trivial
      · exact Agree.pure trivial
      · split
        · split
          · exact Agree.pure trivial
          · exact Agree.bind (resolve_agree _ _) fun target _ => hnext target _
        · exact Agree.bind (resolve_agree _ _) fun target _ => hnext target _
      · refine Agree.bind hmembers fun depths _ => ?_
        cases depths with
        | nil => exact Agree.throw _
        | cons first rest => exact Agree.pure trivial
      · refine Agree.bind hmembers fun depths _ => ?_
        unfold meanDepth
        split
        · exact Agree.throw _
        · exact Agree.pure trivial
      · exact Agree.throw _
      · split
        · exact hnext _ stack
        · exact Agree.throw _

theorem sampleWeights_agree_notes (generator : Generator S) (rule : Rule) :
    Agree SameButNotes (generator.sampleWeights rule) (generator.sampleWeights rule)
      fun _ => True := by
  refine get_agree_notes fun session notes => ?_
  dsimp only
  cases session.weights.get? rule.index with
  | some weights => exact ⟨rfl, fun _ _ => trivial, notes, rfl⟩
  | none =>
      have hweight : ∀ member ∈ rule.members, Agree SameButNotes
          (do return weightOfDepth (← generator.expectedDepth member []))
          (do return weightOfDepth (← generator.expectedDepth member [])) fun _ => True :=
        fun member _ => Agree.bind (expectedDepthWithin_agree_notes _ member []) fun _ _ =>
          Agree.pure trivial
      have hweights := Agree.mapM rule.members hweight
      refine Agree.bind hweights (fun weights _ => ?_) session _ ⟨notes, rfl⟩
      rintro session - ⟨notes, rfl⟩
      exact ⟨rfl, fun _ _ => trivial, _, rfl⟩

theorem choose_agree_notes (generator : Generator S) (rule : Rule) (depth : Int) :
    Agree SameButNotes (generator.choose rule depth) (generator.choose rule depth)
      (· ∈ rule.members) := by
  unfold choose
  split
  · exact Agree.bind (sampleWeights_agree_notes generator rule) fun weights _ =>
      draw_agree_notes (Random.Draw.weighted_mem rule.members weights)
  · exact draw_agree_notes (Random.Draw.uniform_mem rule.members)

/-- **Notes do not matter**: with other notes a generator gives the same tree or error, and leaves
the same session but for the notes. -/
theorem generate_agree_notes (generator : Generator S) :
    Agree SameButNotes generator.generate generator.generate fun _ => True := by
  have halike : Alike SameButNotes (fun _ => True) generator generator :=
    { grammar_eq := rfl
      leads := fun _ _ => trivial
      start := fun _ _ => trivial
      pattern := fun rule _ => patternText_agree_notes generator rule
      choice := fun rule _ => choose_agree_notes generator rule
      repetition := repetitions_agree_notes generator }
  exact Agree.bind (startRule_agree _) fun rule _ => expand_agree halike _ rule trivial 1

/-! ## Trees one after the other -/

/-- The session of a fresh generator after some trees. -/
def sessionAfter (generator : Generator S) (source : Random.Source) : Nat → Session S
  | 0 => .fresh source
  | made + 1 => (outcome generator.generate (generator.sessionAfter source made)).2

/-- The tree that a fresh generator gives after some other ones, or its error. -/
def treeAt (generator : Generator S) (source : Random.Source) (made : Nat) :
    Except GenerationError Tree :=
  (outcome generator.generate (generator.sessionAfter source made)).1

/-- A generator goes on alike, whatever its notes are. -/
theorem generate_of_sameButNotes {generator : Generator S} {source : Random.Source} {made : Nat}
    {session : Session S} (hsession : SameButNotes (generator.sessionAfter source made) session) :
    (outcome generator.generate session).1 = generator.treeAt source made ∧
      SameButNotes (generator.sessionAfter source (made + 1))
        (outcome generator.generate session).2 := by
  obtain ⟨hanswer, -, hafter⟩ := generate_agree_notes generator _ _ hsession
  exact ⟨hanswer.symm, hafter⟩

end GrammarFuzz.Generator

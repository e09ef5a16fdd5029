import GrammarFuzz.Generator.Expand
import GrammarFuzz.Proofs.Grammar.Arena
import GrammarFuzz.Proofs.Grammar.Derivation
import GrammarFuzz.Proofs.Random.Draw

/-!
# The steps of a generator

Each step of a generator keeps an invariant of the session as soon as its parts do, and a table
that holds right values gives right values.  The lemmas here say so once for each step;
whatever is proved of all runs of a generator picks an invariant and supplies the parts.

The main result is `expand_meets`: a tree that is expanded is a derivation of its rule,
provided that the patterns give texts of their own.
-/

namespace GrammarFuzz

/-! ## Tables -/

/-- After a value was put in, an entry is that value or was there before. -/
theorem Table.get?_set_cases {α : Type} {table : Table α} {index other : Nat} {value found : α}
    (hentry : (table.set index value).get? other = some found) :
    (other = index ∧ found = value) ∨ table.get? other = some found := by
  by_cases hindex : other = index
  · rw [hindex, Table.get?_set] at hentry
    exact Or.inl ⟨hindex, (Option.some.inj hentry).symm⟩
  · rw [Table.get?_set_of_ne _ hindex] at hentry
    exact Or.inr hentry

/-- Every entry of the table is right for the rule with its index. -/
def Table.RightFor {α : Type} (table : Table α) (grammar : Grammar) (right : Rule → α → Prop) :
    Prop :=
  ∀ index value, table.get? index = some value →
    ∃ rule, grammar.rules[index]? = some rule ∧ right rule value

namespace Table.RightFor

variable {α : Type} {table : Table α} {grammar : Grammar} {right : Rule → α → Prop} {rule : Rule}

theorem empty (grammar : Grammar) (right : Rule → α → Prop) :
    (Table.empty : Table α).RightFor grammar right := by
  intro index value hentry
  cases hentry

/-- An entry that a rule finds is right for it. -/
theorem get? (hright : table.RightFor grammar right) (hwell : grammar.WellFormed)
    (hrule : rule ∈ grammar.rules) {value : α} (hentry : table.get? rule.index = some value) :
    right rule value := by
  obtain ⟨other, hother, hvalue⟩ := hright _ _ hentry
  rw [hwell.arena.getElem?_index hrule] at hother
  rwa [Option.some.inj hother]

/-- A rule may put in what is right for it. -/
theorem set (hright : table.RightFor grammar right) (hwell : grammar.WellFormed)
    (hrule : rule ∈ grammar.rules) {value : α} (hvalue : right rule value) :
    (table.set rule.index value).RightFor grammar right := by
  intro index other hentry
  rcases Table.get?_set_cases hentry with ⟨rfl, rfl⟩ | hentry
  · exact ⟨rule, hwell.arena.getElem?_index hrule, hvalue⟩
  · exact hright index other hentry

end Table.RightFor

namespace Generator

open GrammarFuzz.Random (Draw DrawError)

variable {S : Type} {generator : Generator S} {grammar : Grammar} {rule : Rule}
  {invariant : Session S → Prop} {failure : GenerationError → Prop}

/-! ## Draws and symbols -/

theorem outcome_draw {α : Type} (draw : Draw α) (session : Session S) :
    outcome (Gen.draw draw) session =
      ((outcome draw session.source).1.mapError .draw,
        { session with source := (outcome draw session.source).2 }) := by
  show outcome (get >>= _) session = _
  rw [outcome_get_bind]
  unfold outcome
  cases (draw.run.run session.source : Except DrawError α × Random.Source) with
  | mk result source => cases result <;> rfl

/-- A draw changes nothing but the source. -/
theorem draw_meets {α : Type} {draw : Draw α} {result : α → Prop} {failed : DrawError → Prop}
    (hdraw : Meets (fun _ => True) draw result failed)
    (hsource : ∀ session source, invariant session → invariant { session with source })
    (hfailure : ∀ error, failed error → failure (.draw error)) :
    Meets invariant (Gen.draw draw) result failure := by
  intro session hsession
  have hending := hdraw session.source trivial
  rw [outcome_draw]
  cases houtcome : outcome draw session.source with
  | mk answer source =>
      rw [houtcome] at hending
      cases answer with
      | ok value => exact ⟨hsource _ _ hsession, hending.2⟩
      | error error => exact ⟨hsource _ _ hsession, hfailure error hending.2⟩

theorem resolve_eq_pure {name : Json} {target : Rule} (hlookup : grammar.lookup name = .ok target) :
    (Gen.resolve grammar name : Gen S Rule) = pure target := by
  rw [Gen.resolve, hlookup]

theorem resolve_meets {name : Json}
    (hfailure : ∀ error, grammar.lookup name = .error error → failure (.access error)) :
    Meets invariant (Gen.resolve grammar name) (fun target => grammar.lookup name = .ok target)
      failure := by
  unfold Gen.resolve
  cases hlookup : grammar.lookup name with
  | ok target => exact Meets.pure rfl
  | error error => exact Meets.throw (hfailure error hlookup)

/-- Each of the repeated steps has a value of the same kind. -/
theorem times_meets {α : Type} {step : Gen S α} {result : α → Prop}
    (hstep : Meets invariant step result failure) (count : Nat) :
    Meets invariant (Gen.times step count)
      (fun values => values.length = count ∧ ∀ value ∈ values, result value) failure := by
  induction count with
  | zero => exact Meets.pure ⟨rfl, by simp⟩
  | succ count ih =>
      unfold Gen.times
      refine Meets.bind hstep fun first hfirst => Meets.bind ih fun rest hrest => ?_
      refine Meets.pure ⟨by rw [List.length_cons, hrest.1], fun value hvalue => ?_⟩
      rcases List.mem_cons.mp hvalue with rfl | hvalue
      · exact hfirst
      · exact hrest.2 value hvalue

/-! ## Patterns -/

/-- The sampler that is given is right if the one that is made is and the table was. -/
theorem patternSampler_meets {result : Pattern.Sampler → Prop}
    (hmade : ∀ pattern sampler, rule.value = .text pattern →
      generator.readPattern pattern = .ok sampler → result sampler)
    (hkept : ∀ session sampler, invariant session →
      session.samplers.get? rule.index = some sampler → result sampler)
    (hset : ∀ session sampler, invariant session → result sampler →
      invariant { session with samplers := session.samplers.set rule.index sampler })
    (hvalue : ∀ value, rule.value = value → (∀ text, value ≠ .text text) →
      failure (.expressionNotText value))
    (hparse : ∀ pattern error, rule.value = .text pattern →
      generator.readPattern pattern = .error error →
      failure (.expression pattern error)) :
    Meets invariant (generator.patternSampler rule) result failure := by
  refine Meets.get_bind fun session hsession => ?_
  cases hlookup : session.samplers.get? rule.index with
  | some sampler => exact ⟨hsession, hkept session sampler hsession hlookup⟩
  | none =>
      dsimp only
      split
      · rename_i pattern hpattern
        split
        · rename_i sampler hsampler
          have hresult := hmade pattern sampler hpattern hsampler
          exact ⟨hset session sampler hsession hresult, hresult⟩
        · rename_i error herror
          exact ⟨hsession, hparse pattern error hpattern herror⟩
      · rename_i value hnot
        exact ⟨hsession, hvalue rule.value rfl hnot⟩

/-- The text is one that a sampler gives in some state. -/
def Samples (sampler : Pattern.Sampler) (text : String) : Prop :=
  ∃ state, (outcome sampler.sample state).1 = .ok text

/-- A text of a pattern is one that the sampler of the pattern gives. -/
theorem patternText_meets {result : Pattern.Sampler → Prop}
    (hsampler : Meets invariant (generator.patternSampler rule) result failure)
    (hset : ∀ session source memories, invariant session →
      invariant { session with source, memories })
    (hfailure : ∀ sampler state error, result sampler →
      (outcome sampler.sample state).1 = .error error → failure (.sample error)) :
    Meets invariant (generator.patternText rule)
      (fun text => ∃ sampler, result sampler ∧ Samples sampler text) failure := by
  unfold patternText
  refine Meets.bind hsampler fun sampler hresult => Meets.get_bind fun session hsession => ?_
  cases houtcome : outcome sampler.sample
      ⟨session.source, (session.memories.get? rule.index).getD []⟩ with
  | mk answer state =>
      have hrun : sampler.sample.run.run
          ⟨session.source, (session.memories.get? rule.index).getD []⟩ = (answer, state) := houtcome
      dsimp only
      rw [hrun]
      cases answer with
      | ok text => exact ⟨hset _ _ _ hsession, sampler, hresult, _, congrArg Prod.fst houtcome⟩
      | error error =>
          exact ⟨hset _ _ _ hsession, hfailure sampler _ error hresult (congrArg Prod.fst houtcome)⟩

/-! ## Estimates and weights -/

/-- A kept depth is right if the computation is and the table was. -/
theorem keepDepth_meets {compute : Gen S S} {result : S → Prop}
    (hcompute : Meets invariant compute result failure)
    (hkept : ∀ session depth, invariant session → session.depths.get? rule.index = some depth →
      result depth)
    (hset : ∀ session depth, invariant session → result depth →
      invariant { session with depths := session.depths.set rule.index depth }) :
    Meets invariant (keepDepth rule compute) result failure := by
  refine Meets.get_bind fun session hsession => ?_
  cases hlookup : session.depths.get? rule.index with
  | some depth => exact ⟨hsession, hkept session depth hsession hlookup⟩
  | none =>
      refine Meets.bind hcompute (fun depth hdepth => ?_) session hsession
      exact fun session hsession => ⟨hset session depth hsession hdepth, hdepth⟩

variable [Scalar S]

theorem deepest_meets {depths : List S} (hempty : depths = [] → failure .emptySequence) :
    Meets invariant (deepest depths) (fun _ => True) failure := by
  cases depths with
  | nil => exact Meets.throw (hempty rfl)
  | cons first rest => exact Meets.pure trivial

theorem meanDepth_meets {depths : List S} (hempty : depths = [] → failure .emptyChoice) :
    Meets invariant (meanDepth depths) (fun _ => True) failure := by
  unfold meanDepth
  split
  · rename_i hdepths
    exact Meets.throw (hempty (List.isEmpty_iff.mp hdepths))
  · exact Meets.pure trivial

/-! The estimate of a rule, kind by kind. -/

theorem expectedDepthWithin_terminal (hkind : rule.isTerminal = true) (levels : Nat)
    (stack : List String) :
    (expectedDepthWithin grammar (levels + 1) rule stack : Gen S S) =
      keepDepth rule (pure (Scalar.ofNat 1)) := by
  unfold Rule.isTerminal RuleKind.isTerminal at hkind
  unfold expectedDepthWithin
  split at hkind <;> simp_all

theorem expectedDepthWithin_symbol (hkind : rule.kind = .symbol) {name : String}
    (hname : rule.name = .text name) (levels : Nat) (stack : List String) :
    (expectedDepthWithin grammar (levels + 1) rule stack : Gen S S) =
      keepDepth rule (if stack.contains name then pure Scalar.infinity else do
        let target ← Gen.resolve grammar (.text name)
        return deeper (← expectedDepthWithin grammar levels target (name :: stack))) := by
  simp only [expectedDepthWithin, hkind, hname]

theorem expectedDepthWithin_sequence (hkind : rule.kind = .sequence) (levels : Nat)
    (stack : List String) :
    (expectedDepthWithin grammar (levels + 1) rule stack : Gen S S) = keepDepth rule (do
      let depths ← rule.members.mapM (expectedDepthWithin grammar levels · stack)
      return deeper (← deepest depths)) := by
  simp only [expectedDepthWithin, hkind]

theorem expectedDepthWithin_choice (hkind : rule.kind = .choice) (levels : Nat)
    (stack : List String) :
    (expectedDepthWithin grammar (levels + 1) rule stack : Gen S S) = keepDepth rule (do
      let depths ← rule.members.mapM (expectedDepthWithin grammar levels · stack)
      return deeper (← meanDepth depths)) := by
  simp only [expectedDepthWithin, hkind]

theorem expectedDepthWithin_content
    (hkind : rule.kind.isRepetition = true ∨ rule.kind.isWrapper = true) {content : Rule}
    (hcontent : rule.content = some content) (levels : Nat) (stack : List String) :
    (expectedDepthWithin grammar (levels + 1) rule stack : Gen S S) = keepDepth rule (do
      return deeper (← expectedDepthWithin grammar levels content stack)) := by
  rw [expectedDepthWithin]
  cases hrule : rule.kind with
  | blank | literal | pattern | symbol | sequence | choice | other =>
      simp [hrule, RuleKind.isRepetition, RuleKind.isWrapper] at hkind
  | _ => simp only [hcontent]

/-- Estimating a depth changes nothing but the table of depths. -/
theorem expectedDepthWithin_keeps
    (hset : ∀ session depths, invariant session → invariant { session with depths })
    (levels : Nat) (rule : Rule) (stack : List String) :
    Meets invariant (expectedDepthWithin grammar levels rule stack) (fun _ => True)
      fun _ => True := by
  induction levels generalizing rule stack with
  | zero => exact Meets.throw trivial
  | succ levels ih =>
      unfold expectedDepthWithin
      -- the table is all that is written to, whatever the computation is
      refine keepDepth_meets ?_ (fun _ _ _ _ => trivial) fun session depth hsession _ =>
        hset session _ hsession
      split
      · exact Meets.pure trivial
      · exact Meets.pure trivial
      · exact Meets.pure trivial
      · split
        · split
          · exact Meets.pure trivial
          · exact Meets.bind (resolve_meets fun _ _ => trivial) fun target _ =>
              Meets.bind (ih target _) fun _ _ => Meets.pure trivial
        · exact Meets.bind (resolve_meets fun _ _ => trivial) fun target _ =>
            Meets.bind (ih target _) fun _ _ => Meets.pure trivial
      · exact Meets.bind (Meets.mapM rule.members fun member _ => ih member stack) fun depths _ =>
          Meets.bind (deepest_meets fun _ => trivial) fun _ _ => Meets.pure trivial
      · exact Meets.bind (Meets.mapM rule.members fun member _ => ih member stack) fun depths _ =>
          Meets.bind (meanDepth_meets fun _ => trivial) fun _ _ => Meets.pure trivial
      · exact Meets.throw trivial
      · split
        · rename_i content _
          exact Meets.bind (ih content stack) fun _ _ => Meets.pure trivial
        · exact Meets.throw trivial

/-- The weight of a rule by an estimate of its depth. -/
def IsWeight (estimate : Rule → S → Prop) (rule : Rule) (weight : S) : Prop :=
  ∃ depth, estimate rule depth ∧ weight = weightOfDepth depth

/-- The weights that are given are right if the estimates are and the table was. -/
theorem sampleWeights_meets {estimate : Rule → S → Prop} {result : List S → Prop}
    (hestimate : ∀ member ∈ rule.members,
      Meets invariant (generator.expectedDepth member []) (estimate member) failure)
    (hresult : ∀ weights, List.Forall₂ (IsWeight estimate) rule.members weights → result weights)
    (hkept : ∀ session weights, invariant session →
      session.weights.get? rule.index = some weights → result weights)
    (hset : ∀ session weights, invariant session → result weights → invariant { session with
      weights := session.weights.set rule.index weights
      notes := (rule.index, weights) :: session.notes }) :
    Meets invariant (generator.sampleWeights rule) result failure := by
  refine Meets.get_bind fun session hsession => ?_
  cases hlookup : session.weights.get? rule.index with
  | some weights => exact ⟨hsession, hkept session weights hsession hlookup⟩
  | none =>
      have hcompute : Meets invariant
          (rule.members.mapM fun member => do
            return weightOfDepth (← generator.expectedDepth member []))
          (List.Forall₂ (IsWeight estimate) rule.members) failure :=
        Meets.mapM rule.members fun member hmember =>
          Meets.bind (hestimate member hmember) fun depth hdepth => Meets.pure ⟨depth, hdepth, rfl⟩
      refine Meets.bind hcompute (fun weights hweights => ?_) session hsession
      exact fun session hsession =>
        ⟨hset session weights hsession (hresult weights hweights), hresult weights hweights⟩

/-- A choice takes one of its members. -/
theorem choose_meets {result : List S → Prop}
    (hweights : Meets invariant (generator.sampleWeights rule) result failure)
    (hsource : ∀ session source, invariant session → invariant { session with source })
    (hweighted : ∀ weights, result weights → Meets (fun _ => True)
      (Draw.weighted rule.members weights) (· ∈ rule.members) fun error => failure (.draw error))
    (huniform : Meets (fun _ => True) (Draw.uniform rule.members) (· ∈ rule.members)
      fun error => failure (.draw error))
    (depth : Int) : Meets invariant (generator.choose rule depth) (· ∈ rule.members) failure := by
  unfold choose
  split
  · exact Meets.bind hweights fun weights hresult =>
      draw_meets (hweighted weights hresult) hsource fun _ => id
  · exact draw_meets huniform hsource fun _ => id

/-- A repetition that may not be empty is not. -/
theorem repetitions_meets
    (hsource : ∀ session source, invariant session → invariant { session with source })
    (hpoisson : Meets (fun _ => True) (Draw.poisson generator.meanRepeat) (fun _ => True)
      fun error => failure (.draw error)) (kind : RuleKind) :
    Meets invariant (generator.repetitions kind) (fun count => kind = .many1 → count ≠ 0)
      failure := by
  unfold repetitions
  refine Meets.bind (draw_meets hpoisson hsource fun _ => id) fun count _ =>
    Meets.pure fun hkind => ?_
  by_cases hcount : count = 0
  · rw [if_pos ⟨hkind, hcount⟩]
    exact Nat.one_ne_zero
  · rw [if_neg fun hboth => hcount hboth.2]
    exact hcount

/-! ## Expansion -/

/-- What the steps do that an expansion takes while it stays within some rules: texts of patterns
are among `texts`. -/
structure Parts (generator : Generator S) (within : Rule → Prop) (invariant : Session S → Prop)
    (texts : Rule → String → Prop) (failure : GenerationError → Prop) : Prop where
  mem : ∀ {rule : Rule}, within rule → rule ∈ generator.grammar.rules
  leads : ∀ {rule next : Rule}, within rule → generator.grammar.Leads rule next → within next
  tooDeep : failure .tooDeep
  symbol : ∀ rule, within rule → rule.kind = .symbol → ∀ error,
    generator.grammar.lookup rule.name = .error error → failure (.access error)
  pattern : ∀ rule, within rule → rule.kind = .pattern →
    Meets invariant (generator.patternText rule) (texts rule) failure
  choice : ∀ rule, within rule → rule.kind = .choice → ∀ depth,
    Meets invariant (generator.choose rule depth) (· ∈ rule.members) failure
  repetition : ∀ kind,
    Meets invariant (generator.repetitions kind) (fun count => kind = .many1 → count ≠ 0) failure

/-- **The tree that a rule is expanded to is a derivation of it.** -/
theorem expand_meets {within : Rule → Prop} {texts : Rule → String → Prop}
    (hwell : generator.grammar.WellFormed)
    (hparts : Parts generator within invariant texts failure) (levels : Nat) (rule : Rule)
    (hwithin : within rule) (depth : Int) :
    Meets invariant (generator.expand levels rule depth) (Derives generator.grammar texts rule)
      failure := by
  induction levels generalizing rule depth with
  | zero => exact Meets.throw hparts.tooDeep
  | succ levels ih =>
      have hshaped := hwell.arena.shaped (hparts.mem hwithin)
      unfold Rule.Shaped at hshaped
      unfold expand
      -- the cases are those of `expand`: three terminals, a symbol, a sequence, a choice, a kind
      -- that no loaded grammar has, and what is built around a content
      split
      · rename_i hkind
        exact Meets.pure (.blank hkind)
      · rename_i hkind
        rw [hkind] at hshaped
        obtain ⟨⟨text, hvalue⟩, -⟩ := hshaped
        rw [hvalue]
        exact Meets.pure (.literal hkind hvalue)
      · rename_i hkind
        exact Meets.bind (hparts.pattern rule hwithin hkind) fun text htext =>
          Meets.pure (.pattern hkind htext)
      · rename_i hkind
        refine Meets.bind (resolve_meets (hparts.symbol rule hwithin hkind)) fun target hlookup => ?_
        exact Meets.bind (ih target (hparts.leads hwithin (Or.inr ⟨hkind, hlookup⟩)) _)
          fun child hchild => Meets.pure (.symbol hkind hlookup hchild)
      · rename_i hkind
        have hmember : ∀ member ∈ rule.members, within member :=
          fun member hmember => hparts.leads hwithin (Or.inl (Or.inl hmember))
        have hmembers := Meets.mapM rule.members fun member hmem =>
          ih member (hmember member hmem) (depth + 1)
        exact Meets.bind hmembers fun children hchildren =>
          Meets.pure (.of_members hkind hchildren)
      · rename_i hkind
        refine Meets.bind (hparts.choice rule hwithin hkind depth) fun chosen hchosen => ?_
        exact Meets.bind (ih chosen (hparts.leads hwithin (Or.inl (Or.inl hchosen))) _)
          fun child hchild => Meets.pure (.choice hkind hchosen hchild)
      · rename_i hkind
        rw [hkind] at hshaped
        exact hshaped.elim
      · rename_i hblank hliteral hpattern hsymbol hsequence hchoice hother
        have hkind := RuleKind.isRepetition_or_isWrapper hblank hliteral hpattern hsymbol hsequence
          hchoice hother
        obtain ⟨content, hcontent⟩ := (hwell.arena.shaped (hparts.mem hwithin)).exists_content hkind
        have hmem := hparts.leads hwithin (Or.inl (Or.inr hcontent))
        -- there is a content, so the start rule never stands in for it
        have hstep : Meets invariant
            (generator.contentOrStart rule >>= fun content =>
              expand generator levels content (depth + 1))
            (Derives generator.grammar texts content) failure := by
          rw [contentOrStart, hcontent, pure_bind]
          exact ih content hmem _
        split
        · rename_i hrepetition
          refine Meets.bind (hparts.repetition rule.kind) fun count hcount => ?_
          refine Meets.bind (times_meets hstep count) fun children hchildren => Meets.pure ?_
          refine .of_content hrepetition hcontent (fun hmany => ?_) hchildren.2
          rw [← List.length_pos_iff, hchildren.1]
          exact Nat.pos_of_ne_zero (hcount hmany)
        · rename_i hrepetition
          have hwrapper := hkind.resolve_left hrepetition
          rw [contentOrStart, hcontent, pure_bind]
          exact Meets.bind (ih content hmem _) fun child hchild =>
            Meets.pure (.wrapper hwrapper hcontent hchild)

end Generator

end GrammarFuzz

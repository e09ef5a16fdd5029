import GrammarFuzz.Proofs.Generator.Calls
import GrammarFuzz.Proofs.Grammar.Depth
import Mathlib.Data.List.Nodup

/-!
# Estimates

An estimate is made while symbols are being resolved, and it is kept without them: the table
knows rules, not stacks.  It is right nevertheless.  Suppose that for each rule some depths are
right, among them whatever comes of right depths below, and infinity if the rule is endless
(`IsEstimate`).  Then every estimate that is made or kept is right (`expectedDepthWithin_right`),
whatever was on the stack.  So are the weights that are computed from estimates (`Learned`), after
any plain calls (`learned_after`).

## Why the stack does not matter

A name is on the stack because its definition reaches the present rule (`Resolving`).  If the
present rule is a symbol for that name, then it is endless, so the infinity that stands for the
cycle is right for it and no makeshift.  All other rules are estimated from the rules right below
them, by induction on the estimates that may be open at once (`openLevels`).

Not every rule has to be estimated right.  Those that have to are said to fit: they lead to rules
that fit, and their symbols have definitions.  An estimate fails only for a rule that does not fit.
-/

namespace GrammarFuzz

namespace Grammar

variable {grammar : Grammar} {rule next : Rule} {name : String} {stack : List String}

/-! ## Symbols that are being resolved -/

/-- The stack holds different names, and what each stands for reaches the rule. -/
structure Resolving (grammar : Grammar) (rule : Rule) (stack : List String) : Prop where
  nodup : stack.Nodup
  reaches : ∀ name ∈ stack,
    ∃ target, grammar.resolve? name = some target ∧ grammar.Reaches target rule

namespace Resolving

theorem nil (grammar : Grammar) (rule : Rule) : grammar.Resolving rule [] where
  nodup := List.nodup_nil
  reaches := by simp

theorem of_leads (hresolving : grammar.Resolving rule stack) (hleads : grammar.Leads rule next) :
    grammar.Resolving next stack where
  nodup := hresolving.nodup
  reaches := by
    intro name hname
    obtain ⟨target, hresolve, hreaches⟩ := hresolving.reaches name hname
    exact ⟨target, hresolve, hreaches.tail hleads⟩

/-- The definition of a new name is resolved with that name on the stack. -/
theorem push (hresolving : grammar.Resolving rule stack) (hleads : grammar.Leads rule next)
    (hname : name ∉ stack) (hresolve : grammar.resolve? name = some next) :
    grammar.Resolving next (name :: stack) where
  nodup := List.nodup_cons.mpr ⟨hname, hresolving.nodup⟩
  reaches := by
    intro other hother
    rcases List.mem_cons.mp hother with rfl | hother
    · exact ⟨next, hresolve, .refl⟩
    · exact (hresolving.of_leads hleads).reaches other hother

/-- A symbol that is being resolved further up is endless. -/
theorem endless (hresolving : grammar.Resolving rule stack) (hsymbol : rule.IsSymbol name)
    (hname : name ∈ stack) : grammar.Endless rule := by
  obtain ⟨target, hresolve, hreaches⟩ := hresolving.reaches name hname
  exact ⟨name, target, ⟨rule, .refl, hsymbol⟩, hresolve, rule, hreaches, hsymbol⟩

theorem length_le (hresolving : grammar.Resolving rule stack) :
    stack.length ≤ grammar.definitions.length := by
  have hsubset : stack ⊆ grammar.definitions.map (·.1) := by
    intro name hname
    obtain ⟨target, hresolve, -⟩ := hresolving.reaches name hname
    exact mem_definitions_of_resolve? hresolve
  have hle := (hresolving.nodup.subperm hsubset).length_le
  rwa [List.length_map] at hle

end Resolving

/-! ## Levels -/

theorem height_le_of_mem {definition : String × Rule}
    (hmem : definition ∈ grammar.definitions) : definition.2.height ≤ grammar.height := by
  have hfold : ∀ (definitions : List (String × Rule)) (start : Nat),
      start ≤ definitions.foldl (fun height definition => max height definition.2.height) start ∧
      ∀ definition ∈ definitions, definition.2.height ≤
        definitions.foldl (fun height definition => max height definition.2.height) start := by
    intro definitions
    induction definitions with
    | nil => exact fun start => ⟨le_rfl, by simp⟩
    | cons first rest ih =>
        intro start
        obtain ⟨hstart, hrest⟩ := ih (max start first.2.height)
        refine ⟨(le_max_left _ _).trans hstart, fun definition hdefinition => ?_⟩
        rcases List.mem_cons.mp hdefinition with rfl | hdefinition
        · exact (le_max_right _ _).trans hstart
        · exact hrest definition hdefinition
  exact (hfold grammar.definitions 0).2 definition hmem

/-- The number of estimates that can be open below a rule while the symbols on the stack are being
resolved. -/
def openLevels (grammar : Grammar) (rule : Rule) (stack : List String) : Nat :=
  rule.height + (grammar.definitions.length - stack.length) * grammar.height

theorem openLevels_pos (grammar : Grammar) (rule : Rule) (stack : List String) :
    0 < grammar.openLevels rule stack :=
  Nat.add_pos_left rule.height_pos _

theorem openLevels_lt_of_hasPart (hpart : rule.HasPart next) (stack : List String) :
    grammar.openLevels next stack < grammar.openLevels rule stack := by
  have hheight := Rule.height_lt_of_hasPart hpart
  unfold openLevels
  omega

/-- A name that comes onto the stack makes up for the height of its definition. -/
theorem openLevels_lt_of_push (hresolving : grammar.Resolving next (name :: stack))
    (hresolve : grammar.resolve? name = some next) (rule : Rule) :
    grammar.openLevels next (name :: stack) < grammar.openLevels rule stack := by
  have hheight : next.height ≤ grammar.height :=
    height_le_of_mem (mem_of_definition? hresolve)
  have hlength : stack.length + 1 ≤ grammar.definitions.length := hresolving.length_le
  have hpositive : 0 < rule.height := rule.height_pos
  obtain ⟨free, hfree⟩ : ∃ free, grammar.definitions.length - stack.length = free + 1 :=
    ⟨grammar.definitions.length - stack.length - 1, by omega⟩
  have hfree' : grammar.definitions.length - (name :: stack).length = free := by
    rw [List.length_cons]
    omega
  rw [openLevels, openLevels, hfree, hfree', Nat.succ_mul]
  omega

end Grammar

namespace Generator

open Grammar

variable {S : Type} {grammar : Grammar} {fits : Rule → Prop} {right : Rule → S → Prop}
  {invariant : Session S → Prop} {rule : Rule} {levels : Nat} {stack : List String}

/-! ## Steps that estimate -/

/-- Of the depths that are kept the invariant says that they are right, and nothing else. -/
structure Remembers (grammar : Grammar) (right : Rule → S → Prop)
    (invariant : Session S → Prop) : Prop where
  get? : ∀ {session : Session S} {rule : Rule} {depth : S}, invariant session →
    rule ∈ grammar.rules → session.depths.get? rule.index = some depth → right rule depth
  set : ∀ {session : Session S} {rule : Rule} {depth : S}, invariant session →
    rule ∈ grammar.rules → right rule depth →
    invariant { session with depths := session.depths.set rule.index depth }

/-- A depth that is kept is right, and so is one that is computed. -/
theorem Remembers.keepDepth (hremembers : Remembers grammar right invariant)
    (hrule : rule ∈ grammar.rules) {step : Gen S S} {failure : GenerationError → Prop}
    (hstep : Meets invariant step (right rule) failure) :
    Meets invariant (keepDepth rule step) (right rule) failure :=
  keepDepth_meets hstep (fun _ _ hright hentry => hremembers.get? hright hrule hentry)
    fun _ _ hright hdepth => hremembers.set hright hrule hdepth

/-- The step gives a right depth if the rule fits, and then it does not fail. -/
def Estimates (fits : Rule → Prop) (right : Rule → S → Prop) (invariant : Session S → Prop)
    (rule : Rule) (step : Gen S S) : Prop :=
  Meets invariant step (fun depth => fits rule → right rule depth) fun _ => ¬ fits rule

theorem Estimates.keep
    (hremembers : Remembers grammar (fun rule depth => fits rule → right rule depth) invariant)
    (hrule : rule ∈ grammar.rules) {step : Gen S S}
    (hstep : Estimates fits right invariant rule step) :
    Estimates fits right invariant rule (keepDepth rule step) :=
  hremembers.keepDepth hrule hstep

/-- An estimate of a rule below serves a rule that fits only if the rule below does. -/
theorem Estimates.below {next : Rule} {step : Gen S S} (hfits : fits rule → fits next)
    (hstep : Estimates fits right invariant next step) :
    Meets invariant step (fun depth => fits rule → right next depth) fun _ => ¬ fits rule :=
  hstep.mono (fun _ hdepth hrule => hdepth (hfits hrule)) fun _ hnot hrule => hnot (hfits hrule)

theorem Estimates.members {members : List Rule} {estimate : Rule → Gen S S}
    (hfits : ∀ member ∈ members, fits rule → fits member)
    (hmembers : ∀ member ∈ members, Estimates fits right invariant member (estimate member)) :
    Meets invariant (members.mapM estimate)
      (fun depths => depths.length = members.length ∧
        (fits rule → List.Forall₂ right members depths))
      fun _ => ¬ fits rule := by
  have hsteps : ∀ member ∈ members, Meets invariant (estimate member)
      (fun depth => fits rule → right member depth) fun _ => ¬ fits rule :=
    fun member hmember => (hmembers member hmember).below (hfits member hmember)
  refine (Meets.mapM members hsteps).mono (fun depths hdepths => ?_) fun _ => id
  exact ⟨hdepths.length_eq.symm, fun hrule => hdepths.imp fun _ _ hdepth => hdepth hrule⟩

variable [Scalar S]

/-! ## Right depths -/

/-- The depth that right depths below come to. -/
inductive EstimatedAbove (grammar : Grammar) (right : Rule → S → Prop) (rule : Rule) : S → Prop where
  | terminal (hkind : rule.isTerminal = true) : EstimatedAbove grammar right rule (Scalar.ofNat 1)
  | symbol {target : Rule} {depth : S} (hkind : rule.kind = .symbol)
      (hlookup : grammar.lookup rule.name = .ok target) (hdepth : right target depth) :
      EstimatedAbove grammar right rule (deeper depth)
  | sequence {first : S} {rest : List S} (hkind : rule.kind = .sequence)
      (hdepths : List.Forall₂ right rule.members (first :: rest)) :
      EstimatedAbove grammar right rule (deeper (rest.foldl Scalar.max first))
  | choice {depths : List S} (hkind : rule.kind = .choice) (hne : rule.members ≠ [])
      (hdepths : List.Forall₂ right rule.members depths) :
      EstimatedAbove grammar right rule
        (deeper (Scalar.div (Scalar.sum depths) (Scalar.ofNat depths.length)))
  | content {content : Rule} {depth : S}
      (hkind : rule.kind.isRepetition = true ∨ rule.kind.isWrapper = true)
      (hcontent : rule.content = some content) (hdepth : right content depth) :
      EstimatedAbove grammar right rule (deeper depth)

/-- What right depths below come to is right for a rule that fits, and so is infinity if the rule
is endless. -/
structure IsEstimate (grammar : Grammar) (fits : Rule → Prop) (right : Rule → S → Prop) :
    Prop where
  leads : ∀ {rule next : Rule}, fits rule → grammar.Leads rule next → fits next
  defined : ∀ {rule : Rule}, rule ∈ grammar.rules → fits rule → rule.kind = .symbol →
    ∃ target, grammar.lookup rule.name = .ok target
  endless : ∀ {rule : Rule}, rule ∈ grammar.rules → fits rule → grammar.Endless rule →
    right rule Scalar.infinity
  above : ∀ {rule : Rule} {depth : S}, rule ∈ grammar.rules → fits rule →
    EstimatedAbove grammar right rule depth → right rule depth

/-! ## Estimates are right -/

theorem Estimates.symbol (hestimate : IsEstimate grammar fits right)
    (hremembers : Remembers grammar (fun rule depth => fits rule → right rule depth) invariant)
    (hrule : rule ∈ grammar.rules) (hkind : rule.kind = .symbol)
    (hresolving : grammar.Resolving rule stack)
    (hbelow : ∀ target name, grammar.lookup rule.name = .ok target →
      grammar.resolve? name = some target → grammar.Resolving target (name :: stack) →
      Estimates fits right invariant target
        (expectedDepthWithin grammar levels target (name :: stack))) :
    Estimates fits right invariant rule (expectedDepthWithin grammar (levels + 1) rule stack) := by
  cases hlookup : grammar.lookup rule.name with
  | ok target =>
      obtain ⟨name, hname, hresolve⟩ := resolve?_of_lookup hlookup
      rw [expectedDepthWithin_symbol hkind hname]
      refine Estimates.keep hremembers hrule ?_
      by_cases hstack : name ∈ stack
      · -- what stands for a cycle is no makeshift: the symbol is endless
        have hendless : grammar.Endless rule := hresolving.endless ⟨hkind, hname⟩ hstack
        rw [if_pos (List.contains_iff_mem.mpr hstack)]
        exact Meets.pure fun hfits => hestimate.endless hrule hfits hendless
      · have hleads : grammar.Leads rule target := Or.inr ⟨hkind, hlookup⟩
        have hpush := hresolving.push hleads hstack hresolve
        rw [if_neg (fun hmem => hstack (List.contains_iff_mem.mp hmem)),
          resolve_eq_pure (lookup_text hresolve), pure_bind]
        refine Meets.bind ((hbelow target name hlookup hresolve hpush).below
          fun hfits => hestimate.leads hfits hleads) fun depth hdepth => Meets.pure fun hfits => ?_
        exact hestimate.above hrule hfits (.symbol hkind hlookup (hdepth hfits))
  | error error =>
      -- the symbol leads nowhere, so it does not fit
      have hnot : ¬ fits rule := by
        intro hfits
        obtain ⟨target, htarget⟩ := hestimate.defined hrule hfits hkind
        cases hlookup.symm.trans htarget
      have hresolve : (Gen.resolve grammar rule.name : Gen S Rule) = throw (.access error) := by
        rw [Gen.resolve, hlookup]
      rw [expectedDepthWithin]
      refine Estimates.keep hremembers hrule ?_
      simp only [hkind]
      split
      · rename_i name hname
        rw [hname] at hresolve
        split
        · exact Meets.pure fun hfits => absurd hfits hnot
        · rw [hresolve]
          exact Meets.throw hnot
      · rw [hresolve]
        exact Meets.throw hnot

/-- **An estimate is right**, whatever symbols are being resolved, as long as the table is. -/
theorem expectedDepthWithin_right (hwell : grammar.WellFormed)
    (hestimate : IsEstimate grammar fits right)
    (hremembers : Remembers grammar (fun rule depth => fits rule → right rule depth) invariant)
    (levels : Nat) (rule : Rule) (hrule : rule ∈ grammar.rules) (stack : List String)
    (hresolving : grammar.Resolving rule stack) (hlevels : grammar.openLevels rule stack ≤ levels) :
    Estimates fits right invariant rule (expectedDepthWithin grammar levels rule stack) := by
  induction levels generalizing rule stack with
  | zero =>
      have hpositive := openLevels_pos grammar rule stack
      omega
  | succ levels ih =>
      have hshaped := hwell.arena.shaped hrule
      -- a part is estimated with the same stack
      have hpart : ∀ part, rule.HasPart part →
          Estimates fits right invariant part (expectedDepthWithin grammar levels part stack) := by
        intro part hpart
        have hlt : grammar.openLevels part stack < grammar.openLevels rule stack :=
          openLevels_lt_of_hasPart hpart stack
        exact ih part (hwell.arena.part_mem hrule hpart) stack
          (hresolving.of_leads (Or.inl hpart)) (by omega)
      have hmembers : Meets invariant
          (rule.members.mapM fun member => expectedDepthWithin grammar levels member stack)
          (fun depths => depths.length = rule.members.length ∧
            (fits rule → List.Forall₂ right rule.members depths))
          fun _ => ¬ fits rule :=
        Estimates.members
          (fun member hmember hfits => hestimate.leads hfits (Or.inl (Or.inl hmember)))
          fun member hmember => hpart member (Or.inl hmember)
      rcases hshaped.cases with hkind | hkind | ⟨hkind, hne⟩ | ⟨hkind, hne⟩ |
        ⟨hkind, content, hcontent⟩
      · rw [expectedDepthWithin_terminal hkind]
        exact Estimates.keep hremembers hrule
          (Meets.pure fun hfits => hestimate.above hrule hfits (.terminal hkind))
      · refine Estimates.symbol hestimate hremembers hrule hkind hresolving ?_
        intro target name hlookup hresolve hpush
        have hlt := openLevels_lt_of_push hpush hresolve rule
        exact ih target (hwell.lookup_mem hlookup) (name :: stack) hpush (by omega)
      · rw [expectedDepthWithin_sequence hkind]
        refine Estimates.keep hremembers hrule (Meets.bind hmembers fun depths hdepths => ?_)
        cases depths with
        | nil =>
            have hnil : rule.members = [] := List.length_eq_zero_iff.mp hdepths.1.symm
            exact absurd hnil hne
        | cons first rest =>
            exact Meets.pure fun hfits =>
              hestimate.above hrule hfits (.sequence hkind (hdepths.2 hfits))
      · rw [expectedDepthWithin_choice hkind]
        refine Estimates.keep hremembers hrule (Meets.bind hmembers fun depths hdepths => ?_)
        have hempty : depths.isEmpty = false := by
          rw [List.isEmpty_eq_false_iff, ← List.length_pos_iff, hdepths.1]
          exact List.length_pos_iff.mpr hne
        rw [meanDepth, hempty, if_neg Bool.false_ne_true, pure_bind]
        exact Meets.pure fun hfits =>
          hestimate.above hrule hfits (.choice hkind hne (hdepths.2 hfits))
      · rw [expectedDepthWithin_content hkind hcontent]
        have hcontent' := (hpart content (Or.inr hcontent)).below
          fun hfits => hestimate.leads hfits (Or.inl (Or.inr hcontent))
        refine Estimates.keep hremembers hrule (Meets.bind hcontent' fun depth hdepth => ?_)
        exact Meets.pure fun hfits =>
          hestimate.above hrule hfits (.content hkind hcontent (hdepth hfits))

/-! ## Sessions -/

/-- What is kept about the rules that fit are right depths and weights that come of such. -/
structure Learned (grammar : Grammar) (fits : Rule → Prop) (right : Rule → S → Prop)
    (session : Session S) : Prop where
  depths : session.depths.RightFor grammar fun rule depth => fits rule → right rule depth
  weights : session.weights.RightFor grammar fun rule weights =>
    fits rule → List.Forall₂ (IsWeight right) rule.members weights

theorem learned_fresh (grammar : Grammar) (fits : Rule → Prop) (right : Rule → S → Prop)
    (source : Random.Source) : Learned grammar fits right (.fresh source) where
  depths := Table.RightFor.empty _ _
  weights := Table.RightFor.empty _ _

theorem Learned.remembers (hwell : grammar.WellFormed) :
    Remembers grammar (fun rule depth => fits rule → right rule depth)
      (Learned grammar fits right) where
  get? hlearned hrule hentry := hlearned.depths.get? hwell hrule hentry
  set hlearned hrule hdepth := ⟨hlearned.depths.set hwell hrule hdepth, hlearned.weights⟩

section Calls

variable {generator : Generator S}

theorem expectedDepth_right (hwell : generator.grammar.WellFormed)
    (hestimate : IsEstimate generator.grammar fits right)
    (hremembers : Remembers generator.grammar (fun rule depth => fits rule → right rule depth)
      invariant)
    (hrule : rule ∈ generator.grammar.rules) :
    Estimates fits right invariant rule (generator.expectedDepth rule []) :=
  expectedDepthWithin_right hwell hestimate hremembers _ rule hrule [] (.nil _ _) le_rfl

theorem sampleWeights_right (hwell : generator.grammar.WellFormed)
    (hestimate : IsEstimate generator.grammar fits right)
    (hrule : rule ∈ generator.grammar.rules) :
    Meets (Learned generator.grammar fits right) (generator.sampleWeights rule)
      (fun weights => fits rule → List.Forall₂ (IsWeight right) rule.members weights)
      fun _ => ¬ fits rule := by
  have hmember : ∀ member ∈ rule.members, Meets (Learned generator.grammar fits right)
      (generator.expectedDepth member []) (fun depth => fits rule → right member depth)
      fun _ => ¬ fits rule := by
    intro member hmember
    have hmem := hwell.arena.part_mem hrule (Or.inl hmember)
    exact (expectedDepth_right hwell hestimate (Learned.remembers hwell) hmem).below
      fun hfits => hestimate.leads hfits (Or.inl (Or.inl hmember))
  refine sampleWeights_meets hmember (fun weights hweights hfits => ?_)
    (fun _ _ hlearned hentry => hlearned.weights.get? hwell hrule hentry)
    fun _ _ hlearned hweights => ⟨hlearned.depths, hlearned.weights.set hwell hrule hweights⟩
  refine hweights.imp fun member weight hweight => ?_
  obtain ⟨depth, hdepth, heq⟩ := hweight
  exact ⟨depth, hdepth hfits, heq⟩

theorem step_keeps_learned (hwell : generator.grammar.WellFormed)
    (hestimate : IsEstimate generator.grammar fits right) {call : Call}
    (habout : call.About generator.grammar) (hplain : call.Plain) :
    Meets (Learned generator.grammar fits right) (call.step generator) (fun _ => True)
      fun _ => True := by
  refine step_keeps hwell habout (fun rule stack hcall => ?_)
    (fun rule hrule => (sampleWeights_right hwell hestimate hrule).mono
      (fun _ _ => trivial) fun _ _ => trivial)
    (fun rule _ => ?_) fun _ _ _ hlearned => ⟨hlearned.depths, hlearned.weights⟩
  · subst hcall
    have hstack : stack = [] := hplain
    rw [hstack]
    exact (expectedDepth_right hwell hestimate (Learned.remembers hwell) habout).mono
      (fun _ _ => trivial) fun _ _ => trivial
  · exact patternSampler_meets (fun _ _ _ _ => trivial) (fun _ _ _ _ => trivial)
      (fun _ _ hlearned _ => ⟨hlearned.depths, hlearned.weights⟩) (fun _ _ _ => trivial)
      fun _ _ _ _ => trivial

/-- **What has been learned is right after any plain calls**, in whatever order they came and
whether they failed or not. -/
theorem learned_after (hwell : generator.grammar.WellFormed)
    (hestimate : IsEstimate generator.grammar fits right) (source : Random.Source)
    {calls : List Call} (hcalls : ∀ call ∈ calls, call.About generator.grammar ∧ call.Plain) :
    Learned generator.grammar fits right (generator.after calls (.fresh source)) :=
  after_keeps (fun call hcall =>
    step_keeps_learned hwell hestimate (hcalls call hcall).1 (hcalls call hcall).2)
    (learned_fresh _ _ _ _)

end Calls

end Generator

end GrammarFuzz

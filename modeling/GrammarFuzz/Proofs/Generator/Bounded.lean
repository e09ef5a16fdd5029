import GrammarFuzz.Proofs.Generator.Coverage
import GrammarFuzz.Proofs.Generator.Depth
import GrammarFuzz.Proofs.Generator.Levels
import GrammarFuzz.Proofs.Generator.Value
import GrammarFuzz.Proofs.Grammar.Descent

/-!
# Trees of bounded depth

An estimate looks for cycles among symbols, and an expansion knows nothing of it: it follows the
rules as the draws tell.  What joins them is the grammar.  A rule that is estimated at a finite
depth is not endless, so an expansion never comes back to a rule that it is within, and it takes at
most as many levels as the arena has rules (`expandsWithin_of_finite`).

Levels are a device of the definition.  That an expansion does not need them is said by running it
twice, with the bound and with anything above it: both runs end in the same way, from any session,
and neither of them for want of levels (`expand_endsAlike`).

## What else could use up levels

A choice below the maximal depth estimates its alternatives, and estimates have levels of their
own.  They are always enough, whatever is in the table, so all that an estimate fails by is a symbol
that stands for no rule (`expectedDepth_meets_access`).
-/

namespace GrammarFuzz.Generator

open Grammar
open GrammarFuzz.Random (Draw)

variable {S : Type} {generator : Generator S} {rule : Rule}

/-! ## Steps that need no levels -/

theorem times_endsAlike {α : Type} {first second : Gen S α}
    {failure : GenerationError → Prop}
    (hstep : EndsAlike first second (fun _ => True) failure) (count : Nat) :
    EndsAlike (Gen.times first count) (Gen.times second count) (fun _ => True) failure := by
  induction count with
  | zero => exact EndsAlike.pure trivial
  | succ count ih =>
      unfold Gen.times
      exact hstep.bind fun _ _ => ih.bind fun _ _ => EndsAlike.pure trivial

/-- The error is not that the levels are used up. -/
def IsNotTooDeep (error : GenerationError) : Prop := error ≠ .tooDeep

theorem IsAccess.isNotTooDeep {error : GenerationError} (haccess : IsAccess error) :
    IsNotTooDeep error := by
  obtain ⟨failed, rfl⟩ := haccess
  exact nofun

theorem resolve_endsAlike {grammar : Grammar} (name : Json) :
    EndsAlike (Gen.resolve grammar name : Gen S Rule) (Gen.resolve grammar name)
      (fun target => grammar.lookup name = .ok target) IsNotTooDeep :=
  .of_meets (resolve_meets fun _ _ => nofun)

theorem patternText_endsAlike (generator : Generator S) (rule : Rule) :
    EndsAlike (generator.patternText rule) (generator.patternText rule) (fun _ => True)
      IsNotTooDeep := by
  refine .of_meets ?_
  have hsampler : Meets (fun _ => True) (generator.patternSampler rule) (fun _ => True)
      IsNotTooDeep :=
    patternSampler_meets (fun _ _ _ _ => trivial) (fun _ _ _ _ => trivial)
      (fun _ _ _ _ => trivial) (fun _ _ _ => nofun) fun _ _ _ _ => nofun
  exact (patternText_meets hsampler (fun _ _ _ _ => trivial) fun _ _ _ _ _ => nofun).mono
    (fun _ _ => trivial) fun _ => id

variable [Scalar S]

/-- An estimate fails only at a symbol that stands for no rule, whatever is in the table. -/
theorem expectedDepth_meets_access (hwell : generator.grammar.WellFormed)
    (hrule : rule ∈ generator.grammar.rules) (stack : List String) :
    Meets (fun _ => True) (generator.expectedDepth rule stack) (fun _ => True) IsAccess := by
  intro session _
  obtain ⟨ending, opened, -, hmeets, houtcome⟩ :=
    estimateEnds_of_remainingLevels_le hwell hrule
      (remainingLevels_le_estimateLevels generator.grammar rule stack) session
  rw [expectedDepth, houtcome _ le_rfl]
  exact hmeets

theorem choose_endsAlike (hwell : generator.grammar.WellFormed)
    (hrule : rule ∈ generator.grammar.rules) (depth : Int) :
    EndsAlike (generator.choose rule depth) (generator.choose rule depth) (· ∈ rule.members)
      IsNotTooDeep := by
  refine .of_meets ?_
  have hestimate : ∀ member ∈ rule.members, Meets (fun _ => True)
      (generator.expectedDepth member []) (fun _ => True) IsNotTooDeep := fun member hmember =>
    (expectedDepth_meets_access hwell (hwell.arena.part_mem hrule (Or.inl hmember)) []).mono
      (fun _ => id) fun _ => IsAccess.isNotTooDeep
  have hweights : Meets (fun _ => True) (generator.sampleWeights rule) (fun _ => True)
      IsNotTooDeep :=
    sampleWeights_meets hestimate (fun _ _ => trivial) (fun _ _ _ _ => trivial)
      fun _ _ _ _ => trivial
  exact choose_meets hweights (fun _ _ _ => trivial)
    (fun weights _ => (Draw.weighted_mem rule.members weights).mono (fun _ => id)
      fun _ _ => nofun)
    ((Draw.uniform_mem rule.members).mono (fun _ => id) fun _ _ => nofun) depth

theorem repetitions_endsAlike (generator : Generator S) (kind : RuleKind) :
    EndsAlike (generator.repetitions kind) (generator.repetitions kind) (fun _ => True)
      IsNotTooDeep :=
  .of_meets ((repetitions_meets (fun _ _ _ => trivial)
    ((Meets.trivial _).mono (fun _ => id) fun _ _ => nofun) kind).mono (fun _ _ => trivial)
    fun _ => id)

/-! ## Expansion -/

/-- **From the rules within reach on, levels make no difference to an expansion**, and it does not
end for want of them. -/
theorem expand_endsAlike (hwell : generator.grammar.WellFormed)
    (hrule : rule ∈ generator.grammar.rules) (hendless : ¬ generator.grammar.Endless rule)
    {levels more : Nat} (hlevels : generator.grammar.rulesWithin rule ≤ levels)
    (hmore : generator.grammar.rulesWithin rule ≤ more) (depth : Int) :
    EndsAlike (generator.expand levels rule depth) (generator.expand more rule depth)
      (fun _ => True) IsNotTooDeep := by
  induction levels generalizing rule more depth with
  | zero =>
      have hpositive := rulesWithin_pos hrule
      omega
  | succ levels ih =>
      have hpositive := rulesWithin_pos hrule
      obtain ⟨more, rfl⟩ := Nat.exists_eq_add_one_of_ne_zero (n := more) (by omega)
      -- what the rule leads to has one rule less within reach
      have hbelow : ∀ next, generator.grammar.Leads rule next →
          EndsAlike (generator.expand levels next (depth + 1))
            (generator.expand more next (depth + 1)) (fun _ => True) IsNotTooDeep := by
        intro next hleads
        have hlt := rulesWithin_lt hrule hendless hleads
        exact ih (hwell.leads_mem hrule hleads) (fun hnext => hendless (hnext.of_leads hleads))
          (by omega) (by omega) _
      have hshaped := hwell.arena.shaped hrule
      unfold expand
      split
      · exact .pure trivial
      · split
        · exact .pure trivial
        · exact .of_meets (Meets.throw (by rintro ⟨⟩))
      · exact (patternText_endsAlike generator rule).bind fun _ _ => .pure trivial
      · rename_i hkind
        exact (resolve_endsAlike rule.name).bind fun target hlookup =>
          (hbelow target (Or.inr ⟨hkind, hlookup⟩)).bind fun _ _ => .pure trivial
      · exact (EndsAlike.mapM rule.members fun member hmember =>
          hbelow member (Or.inl (Or.inl hmember))).bind fun _ _ => .pure trivial
      · exact (choose_endsAlike hwell hrule depth).bind fun chosen hchosen =>
          (hbelow chosen (Or.inl (Or.inl hchosen))).bind fun _ _ => .pure trivial
      · exact .of_meets (Meets.throw (by rintro ⟨⟩))
      · rename_i hblank hliteral hpattern hsymbol hsequence hchoice hother
        have hkind := RuleKind.isRepetition_or_isWrapper hblank hliteral hpattern hsymbol hsequence
          hchoice hother
        obtain ⟨content, hcontent⟩ := hshaped.exists_content hkind
        rw [contentOrStart, hcontent]
        simp only [pure_bind]
        have hstep := hbelow content (Or.inl (Or.inr hcontent))
        split
        · exact (repetitions_endsAlike generator rule.kind).bind fun count _ =>
            (times_endsAlike hstep count).bind fun _ _ => .pure trivial
        · exact hstep.bind fun _ _ => .pure trivial

/-- A tree that is expanded has at most as many levels as there are rules within reach. -/
theorem expand_depth_le (hwell : generator.grammar.WellFormed)
    (hrule : rule ∈ generator.grammar.rules) (hendless : ¬ generator.grammar.Endless rule)
    (levels : Nat) (depth : Int) :
    Meets (fun _ => True) (generator.expand levels rule depth)
      (fun tree => tree.depth ≤ generator.grammar.rulesWithin rule) fun _ => True := by
  have hparts : Parts generator (· ∈ generator.grammar.rules) (fun _ => True)
      (fun _ _ => True) fun _ => True :=
    { mem := id
      leads := hwell.leads_mem
      tooDeep := trivial
      symbol := fun _ _ _ _ _ => trivial
      pattern := fun _ _ _ => Meets.trivial _
      choice := fun rule hrule _ _ => choose_meets (Meets.trivial _) (fun _ _ _ => trivial)
        (fun weights _ => Draw.weighted_mem rule.members weights) (Draw.uniform_mem rule.members) _
      repetition := repetitions_meets (fun _ _ _ => trivial) (Meets.trivial _) }
  exact (expand_meets hwell hparts levels rule hrule depth).mono
    (fun _ hderives => hderives.depth_le hwell hrule hendless) fun _ => id

/-- Whatever generates trees of the rule needs no more than `bound` levels.  From any session, with
any settings and at any depth, more levels make no difference, the expansion does not end for want
of them, and the tree has at most as many. -/
def ExpandsWithin (grammar : Grammar) (rule : Rule) (bound : Nat) : Prop :=
  ∀ (S : Type) [Scalar S] (generator : Generator S), generator.grammar = grammar →
    ∀ (session : Session S) (depth : Int) (levels : Nat), bound ≤ levels →
      outcome (generator.expand levels rule depth) session =
          outcome (generator.expand bound rule depth) session ∧
        (∀ error, (outcome (generator.expand levels rule depth) session).1 = .error error →
          error ≠ .tooDeep) ∧
        ∀ tree, (outcome (generator.expand levels rule depth) session).1 = .ok tree →
          tree.depth ≤ bound

/-- **A rule that is not endless expands within the rules of the arena.** -/
theorem expandsWithin_of_not_endless {grammar : Grammar} (hwell : grammar.WellFormed)
    (hrule : rule ∈ grammar.rules) (hendless : ¬ grammar.Endless rule) :
    ExpandsWithin grammar rule grammar.rules.size := by
  rintro S _ generator rfl session depth levels hlevels
  have hle := generator.grammar.rulesWithin_le_size rule
  obtain ⟨heq, hending⟩ :=
    expand_endsAlike hwell hrule hendless hle (hle.trans hlevels) depth session
  refine ⟨heq, fun error herror => ?_, fun tree htree => ?_⟩
  · rw [heq] at herror
    rw [← Prod.eta (outcome (generator.expand generator.grammar.rules.size rule depth) session),
      herror] at hending
    exact hending.2
  · exact ((expand_depth_le hwell hrule hendless levels depth).of_ok trivial htree).trans hle

/-! ## Finite estimates -/

/-- In exact arithmetic a finite estimate tells that the rule is not endless. -/
theorem not_endless_of_finite {decay : ℚ → ℚ} {generator : Generator (Exact decay)}
    (hwell : generator.grammar.WellFormed) (hdefined : generator.grammar.SymbolsDefined)
    (hrule : rule ∈ generator.grammar.rules) {source : Random.Source} {amount : ℚ}
    (hfinite : (outcome (generator.expectedDepth rule []) (.fresh source)).1 =
      .ok (.finite amount)) : ¬ generator.grammar.Endless rule := by
  intro hendless
  have hfresh : DepthsRight generator.grammar (.fresh source : Session (Exact decay)) :=
    Table.RightFor.empty _ _
  have hdepth := (expectedDepth_eq hwell hdefined hrule).of_ok hfresh hfinite
  rw [depth_of_endless hendless, Exact.ofDepth_top] at hdepth
  cases hdepth

/-- In rounded arithmetic, too, since infinity absorbs what it is computed with. -/
theorem not_endless_of_not_isInfinite {tame : S → Prop} (habsorbs : Absorbs tame)
    (hinfinity : Scalar.isInfinite (Scalar.infinity : S) = true)
    (hwell : generator.grammar.WellFormed) (hdefined : generator.grammar.SymbolsDefined)
    (hcounted : generator.grammar.MembersCounted) (hrule : rule ∈ generator.grammar.rules)
    {source : Random.Source} {depth : S}
    (hdepth : (outcome (generator.expectedDepth rule []) (.fresh source)).1 = .ok depth)
    (hfinite : Scalar.isInfinite depth = false) : ¬ generator.grammar.Endless rule := by
  intro hendless
  have hestimate := isEstimate_estimate habsorbs hwell hdefined hcounted
  have hmeets := expectedDepth_right hwell hestimate (Learned.remembers hwell) hrule
  have heq := (hmeets.of_ok (learned_fresh _ _ _ source) hdepth trivial).1
  rw [heq, estimate_of_endless hendless, hinfinity] at hfinite
  cases hfinite

/-- **A rule of finite depth expands within the rules of the arena.**  If a fresh generator
estimates the rule at a finite depth, in exact or in rounded arithmetic, then no expansion of it,
from any session and with any settings, goes on without end: from as many levels as there are rules
on it always ends in the same way and never for want of levels, and its tree is at most as deep. -/
theorem expandsWithin_of_finite (grammar : Grammar) (hloaded : grammar.IsLoaded)
    (hdefined : grammar.SymbolsDefined) (rule : Rule) (hrule : rule ∈ grammar.rules) :
    (∀ (decay : ℚ → ℚ) (estimator : Generator (Exact decay)) (source : Random.Source) (amount : ℚ),
      estimator.grammar = grammar →
      (outcome (estimator.expectedDepth rule []) (.fresh source)).1 = .ok (.finite amount) →
        ExpandsWithin grammar rule grammar.rules.size) ∧
    (grammar.MembersCounted →
      ∀ (estimator : Generator Number) (source : Random.Source) (depth : Number),
        estimator.grammar = grammar →
        (outcome (estimator.expectedDepth rule []) (.fresh source)).1 = .ok depth →
        Scalar.isInfinite depth = false → ExpandsWithin grammar rule grammar.rules.size) := by
  have hwell := hloaded.wellFormed
  constructor
  · rintro decay estimator source amount rfl hfinite
    exact expandsWithin_of_not_endless hwell hrule
      (not_endless_of_finite hwell hdefined hrule hfinite)
  · rintro hcounted estimator source depth rfl hdepth hfinite
    exact expandsWithin_of_not_endless hwell hrule
      (not_endless_of_not_isInfinite number_absorbs rfl hwell hdefined hcounted hrule hdepth
        hfinite)

/-- One or more items are estimated to be three levels deep, so four rules are enough for the tree
of any number of items. -/
theorem expandsWithin_items :
    Grammar.items.IsLoaded ∧ Grammar.items.SymbolsDefined ∧
      (outcome ((items : Generator (Exact fun _ => 0)).expectedDepth Items.list [])
        (.fresh (.ofWords []))).1 = .ok (.finite 3) ∧
      ExpandsWithin Grammar.items Items.list 4 := by
  have hlist : Items.list ∈ Grammar.items.rules := by simp [Grammar.items]
  have hfinite : (outcome ((items : Generator (Exact fun _ => 0)).expectedDepth Items.list [])
      (.fresh (.ofWords []))).1 = .ok (.finite 3) := by
    with_unfolding_all rfl
  refine ⟨items_isLoaded, items_symbolsDefined, hfinite, ?_⟩
  exact (expandsWithin_of_finite Grammar.items items_isLoaded items_symbolsDefined Items.list
    hlist).1 (fun _ => 0) items (.ofWords []) 3 rfl hfinite

end GrammarFuzz.Generator

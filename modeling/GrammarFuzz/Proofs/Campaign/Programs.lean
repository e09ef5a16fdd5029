import GrammarFuzz.Proofs.Campaign.Invariants
import GrammarFuzz.Proofs.Generator.Derivation

/-!
# Reported programs

A campaign cuts trees without looking at the grammar, and it keeps whatever the oracles fail.  Still
every program that it reports is a program of the grammar: a generated tree is a derivation of the
start rule, and every tree that cuts lead to is one again.  Nothing is assumed about the answers of
the oracles, which may change from question to question and may break down.

The invariant of a run is that samplers belong to their patterns (`Generator.SamplersRight`), which
generating keeps.
-/

namespace GrammarFuzz.Campaign

variable {σ S : Type} {campaign : Campaign σ S}

/-- The tree is a derivation of the start rule. -/
def IsProgram (campaign : Campaign σ S) (tree : Tree) : Prop :=
  ∃ start, campaign.generator.grammar.startRule = .ok start ∧
    Derives campaign.generator.grammar campaign.generator.IsPatternText start tree

/-- The failing program is one of the grammar, and its source is that of its tree. -/
def Reportable (campaign : Campaign σ S) (failing : Failing) : Prop :=
  campaign.IsProgram failing.tree ∧ failing.source = failing.tree.source campaign.config.separator

/-- The finding shows the source of a program, and that of a program before it was cut. -/
def Reports (campaign : Campaign σ S) (finding : Finding) : Prop :=
  (∃ tree, campaign.IsProgram tree ∧ finding.source = tree.source campaign.config.separator) ∧
    ∃ tree, campaign.IsProgram tree ∧ finding.uncut = tree.source campaign.config.separator

theorem IsProgram.of_mem_variants {tree variant : Tree} (hprogram : campaign.IsProgram tree)
    (hvariant : variant ∈ tree.variants) : campaign.IsProgram variant := by
  obtain ⟨start, hstart, hderives⟩ := hprogram
  exact ⟨start, hstart, hderives.of_mem_variants hvariant⟩

/-! ## Generating and searching -/

variable [Scalar S]

/-- While samplers are right, a generated tree is a program. -/
theorem generate_meets (hwell : campaign.generator.grammar.WellFormed) :
    Meets (Generator.SamplersRight campaign.generator) campaign.generator.generate
      campaign.IsProgram fun _ => True := by
  unfold Generator.generate
  unfold Generator.Gen.startRule
  cases hstart : campaign.generator.grammar.startRule with
  | error error => exact Meets.throw trivial
  | ok start =>
      dsimp only
      rw [pure_bind]
      have hmem := hwell.startRule_mem hstart
      exact (Generator.expand_meets_derives hwell _ start hmem 1).mono
        (fun tree hderives => ⟨start, hstart, hderives⟩) fun _ => id

/-- What a search finds is a program. -/
theorem search_reports (hwell : campaign.generator.grammar.WellFormed) (found fuel : Nat) :
    Meets (State.Has (Generator.SamplersRight campaign.generator) found)
      (campaign.search fuel 0 : Work σ S Finding) campaign.Reports Error.IsLate := by
  refine search_meets found
    (work_generate_meets found (fun _ _ => id) (generate_meets hwell)) ?_ ?_ fuel 0
  · exact fun tree _ hprogram => ⟨⟨tree, hprogram, rfl⟩, tree, hprogram, rfl⟩
  · intro tree attempts error hprogram
    have hmade : Meets (State.Has (Generator.SamplersRight campaign.generator) found)
        (campaign.findingOf attempts ⟨tree, tree.source campaign.config.separator, error⟩ :
          Work σ S Finding)
        (fun finding => finding.uncut = tree.source campaign.config.separator ∧
          ∃ final, campaign.Reportable final ∧ finding.source = final.source) Error.IsLate :=
      findingOf_meets _ found (fun _ hgood _ hvariant _ => ⟨hgood.1.of_mem_variants hvariant, rfl⟩)
        ⟨hprogram, rfl⟩ attempts
    refine hmade.mono ?_ fun _ => id
    rintro finding ⟨huncut, final, ⟨hfinal, hsource⟩, heq⟩
    exact ⟨⟨final.tree, hfinal, heq.trans hsource⟩, tree, hprogram, huncut⟩

/-! ## Runs -/

theorem runWithin_reports (hwell : campaign.generator.grammar.WellFormed) (patience : Nat)
    (most : Option Nat) {state : State σ S}
    (hright : Generator.SamplersRight campaign.generator state.session) :
    ∀ finding ∈ ((campaign.runWithin patience most).run state).1.1, campaign.Reports finding :=
  (runWithin_meets _ (search_reports hwell) patience most ⟨hright, rfl⟩ rfl).1

/-- **Only programs of the grammar are reported.**  Every cut of a derivation leads to a derivation
of the same rule.  Hence whatever the oracles answer, a generated tree is shrunk to a derivation of
the start rule, and every finding of a run shows the source of one. -/
theorem reports_programs (grammar : Grammar) (hloaded : grammar.IsLoaded) :
    (∀ texts : Rule → String → Prop, ∀ rule ∈ grammar.rules, ∀ tree,
      Derives grammar texts rule tree → ∀ variant ∈ tree.variants,
        Derives grammar texts rule variant) ∧
    ∀ campaign : Campaign σ S, campaign.generator.grammar = grammar →
      ∀ (source : Random.Source) (calls : List Generator.Call),
        (∀ call ∈ calls, call.About grammar) →
      (∀ tree, (outcome campaign.generator.generate
          (campaign.generator.after calls (.fresh source))).1 = .ok tree →
        ∀ (text error : String) (state : State σ S) (final : Failing) (steps : Nat),
          (outcome (campaign.shrink ⟨tree, text, error⟩) state).1 = .ok (final, steps) →
            campaign.IsProgram final.tree) ∧
      ∀ state : State σ S, state.session = campaign.generator.after calls (.fresh source) →
        ∀ patience most, ∀ finding ∈ ((campaign.runWithin patience most).run state).1.1,
          ∃ tree, campaign.IsProgram tree ∧
            finding.source = tree.source campaign.config.separator := by
  have hwell := hloaded.wellFormed
  refine ⟨fun texts rule _ tree hderives variant hvariant => hderives.of_mem_variants hvariant, ?_⟩
  rintro campaign rfl source calls hcalls
  have hright : Generator.SamplersRight campaign.generator
      (campaign.generator.after calls (.fresh source)) :=
    Generator.after_keeps
      (fun call hcall => Generator.step_keeps_samplers hwell (hcalls call hcall))
      (Table.RightFor.empty _ _)
  constructor
  · intro tree hgenerate text error state final steps hshrink
    have hprogram : campaign.IsProgram tree := (generate_meets hwell).of_ok hright hgenerate
    have hcut : ∀ failing : Failing, campaign.IsProgram failing.tree →
        ∀ variant ∈ failing.tree.variants, String → campaign.IsProgram variant :=
      fun _ hprogram _ hvariant _ => hprogram.of_mem_variants hvariant
    -- shrinking may start in any session, so nothing is kept of it
    have hmeets : Meets (State.Has (fun _ => True) state.stats.results)
        (campaign.shrink ⟨tree, text, error⟩) (fun final => campaign.IsProgram final.1.tree)
        Error.IsLate :=
      shrink_meets (fun _ => True) _ hcut hprogram
    exact hmeets.of_ok ⟨trivial, rfl⟩ hshrink
  · intro state hsession patience most finding hfinding
    rw [← hsession] at hright
    exact (runWithin_reports hwell patience most hright finding hfinding).1

/-- A campaign with the grammar of items that looks for a program with a text. -/
def items : Campaign Unit (Exact fun _ => 0) :=
  ⟨Config.standard, Generator.items, [Oracle.nonempty Unit], fun _ => ""⟩

/-- Of two letters one may be dropped, and a run on a script of zeros reports a letter. -/
theorem reports_programs_items :
    Grammar.items.IsLoaded ∧
    (Derives Grammar.items (fun _ _ => False) Grammar.Items.list
      (.branch .many1 [.branch .choice [.leaf .literal "a"]])) ∧
    ∃ tree, items.IsProgram tree ∧ "a" = tree.source " " := by
  obtain ⟨hvariants, hruns⟩ :=
    @reports_programs Unit (Exact fun _ => 0) _ Grammar.items Grammar.items_isLoaded
  have hletter : Derives Grammar.items (fun _ _ => False) Grammar.Items.item
      (.branch .choice [.leaf .literal "a"]) :=
    .choice rfl (List.mem_cons_self ..) (.literal rfl rfl)
  have hletters : Derives Grammar.items (fun _ _ => False) Grammar.Items.list
      (.branch .many1 [.branch .choice [.leaf .literal "a"],
        .branch .choice [.leaf .literal "a"]]) :=
    .many1 rfl rfl (by simp) (by simp [hletter])
  refine ⟨Grammar.items_isLoaded, hvariants _ _ (by simp [Grammar.items]) _ hletters _ ?_, ?_⟩
  · exact Tree.mem_variants_iff.mpr
      (@Tree.CutsTo.drop .many1 [] [.branch .choice [.leaf .literal "a"]] _ (by decide))
  · have hfindings : ((items.runWithin attemptLimit none).run
        ⟨.fresh (.ofWords [0]), ⟨.empty, ()⟩, .fresh, []⟩).1.1 =
          [⟨"a", some "not empty", none, 1, 0, "a"⟩] := by
      with_unfolding_all rfl
    have hsource := (hruns items rfl (.ofWords [0]) [] (by simp)).2
      ⟨.fresh (.ofWords [0]), ⟨.empty, ()⟩, .fresh, []⟩ rfl attemptLimit none
    rw [hfindings] at hsource
    exact hsource _ (List.mem_singleton_self _)

end GrammarFuzz.Campaign

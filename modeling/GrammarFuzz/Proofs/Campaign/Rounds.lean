import GrammarFuzz.Campaign.Shrink
import GrammarFuzz.Proofs.Campaign.Oracles
import GrammarFuzz.Proofs.Exact
import GrammarFuzz.Proofs.Generator.Calls
import GrammarFuzz.Proofs.Tree.Cuts

/-!
# Shrinking in rounds

Shrinking asks the oracles about one variant after the other, and nothing is assumed about their
answers.  Its questions fall into rounds (`Rounds`): a round asks about the variants of one tree
from the first one on, until a variant fails, the oracles break down, or there are no
more variants.  `Rounds` chains the states of the campaign from question to question, so
it leaves no room for questions in between; shrinking is such a chain and reports its
end (`outcome_shrink`).

Oracles that decide programs lead to a program of which no variant fails
(`Rounds.minimal`), and shrinking that program again accepts nothing.
-/

namespace GrammarFuzz.Campaign

variable {σ S : Type} {campaign : Campaign σ S}

/-! ## Questions about variants -/

/-- The oracles are asked about some trees one after the other, from one state to another, and
fail none of them. -/
inductive Refused (campaign : Campaign σ S) : State σ S → List Tree → State σ S → Prop where
  | nil (state : State σ S) : Refused campaign state [] state
  | cons {state middle last : State σ S} {tree : Tree} {rest : List Tree}
      (hanswer : outcome (campaign.error? (tree.source campaign.config.separator)) state =
        (.ok none, middle))
      (hrest : Refused campaign middle rest last) :
      Refused campaign state (tree :: rest) last

/-- The rounds that start with a failing program in a state: the programs that are accepted, the
error that ends the last round early, the number of questions and the last state. -/
inductive Rounds (campaign : Campaign σ S) :
    Failing → State σ S → List Failing → Option Error → Nat → State σ S → Prop where
  /-- The last round fails no variant. -/
  | last {failing : Failing} {state last : State σ S}
      (hrefused : Refused campaign state failing.tree.variants last) :
      Rounds campaign failing state [] none failing.tree.variants.length last
  /-- A round fails a variant, which takes the place of the program. -/
  | accepted {failing : Failing} {state middle next last : State σ S} {refused others : List Tree}
      {tree : Tree} {error : String} {accepted : List Failing} {stop : Option Error}
      {questions : Nat} (hvariants : failing.tree.variants = refused ++ tree :: others)
      (hrefused : Refused campaign state refused middle)
      (hanswer : outcome (campaign.error? (tree.source campaign.config.separator)) middle =
        (.ok (some error), next))
      (hrest : Rounds campaign ⟨tree, tree.source campaign.config.separator, error⟩ next accepted
        stop questions last) :
      Rounds campaign failing state
        (⟨tree, tree.source campaign.config.separator, error⟩ :: accepted) stop
        (refused.length + 1 + questions) last
  /-- The oracles break down over a variant. -/
  | broken {failing : Failing} {state middle last : State σ S} {refused others : List Tree}
      {tree : Tree} {error : Error} (hvariants : failing.tree.variants = refused ++ tree :: others)
      (hrefused : Refused campaign state refused middle)
      (hanswer : outcome (campaign.error? (tree.source campaign.config.separator)) middle =
        (.error error, last)) :
      Rounds campaign failing state [] (some error) (refused.length + 1) last

/-- What is returned after some rounds: the program that was accepted last and the number of the
accepted ones, unless the oracles broke down. -/
def ending (failing : Failing) (accepted : List Failing) :
    Option Error → Except Error (Failing × Nat)
  | none => .ok (accepted.getLastD failing, accepted.length)
  | some error => .error error

theorem ending_cons (failing smaller : Failing) (accepted : List Failing) (stop : Option Error) :
    ending failing (smaller :: accepted) stop =
      (ending smaller accepted stop).map fun (final, steps) => (final, steps + 1) := by
  cases stop with
  | none =>
      rw [ending, ending, List.getLastD_cons]
      rfl
  | some error => rfl

/-- One round: either all cuts are refused, or a first one is not. -/
theorem firstFailingCut_cases (tree : Tree) (cuts : List Tree.Cut) (state : State σ S) :
    (∃ last, Refused campaign state (cuts.map tree.apply) last ∧
      outcome (campaign.firstFailingCut tree cuts) state = (.ok none, last)) ∨
    ∃ refused candidate others middle answer last,
      cuts.map tree.apply = refused ++ candidate :: others ∧
      Refused campaign state refused middle ∧
      outcome (campaign.error? (candidate.source campaign.config.separator)) middle =
        (answer, last) ∧ answer ≠ .ok none ∧
      outcome (campaign.firstFailingCut tree cuts) state =
        (answer.map (·.map (⟨candidate, candidate.source campaign.config.separator, ·⟩)),
          last) := by
  induction cuts generalizing state with
  | nil => exact Or.inl ⟨state, .nil state, rfl⟩
  | cons cut rest ih =>
      rw [firstFailingCut]
      cases hanswer : outcome
          (campaign.error? ((tree.apply cut).source campaign.config.separator)) state with
      | mk answer middle =>
          rcases answer with error | answer
          -- the oracles break down over the first cut, refuse it, or fail it
          · refine Or.inr ⟨[], tree.apply cut, rest.map tree.apply, state, .error error, middle,
              rfl, .nil state, hanswer, nofun, ?_⟩
            rw [outcome_bind_error hanswer]
            rfl
          · rw [outcome_bind_ok hanswer]
            rcases answer with - | error
            · dsimp only
              rcases ih middle with ⟨last, hrefused, houtcome⟩ |
                ⟨refused, candidate, others, later, answer, last, hcuts, hrefused, hlater, hne,
                  houtcome⟩
              · exact Or.inl ⟨last, .cons hanswer hrefused, houtcome⟩
              · refine Or.inr ⟨tree.apply cut :: refused, candidate, others, later, answer, last,
                  ?_, .cons hanswer hrefused, hlater, hne, houtcome⟩
                rw [List.map_cons, hcuts, List.cons_append]
            · exact Or.inr ⟨[], tree.apply cut, rest.map tree.apply, state, .ok (some error),
                middle, rfl, .nil state, hanswer, nofun, rfl⟩

/-- Shrinking goes in rounds as long as there is fuel for every node. -/
theorem shrinkRounds_rounds (campaign : Campaign σ S) (fuel : Nat) (failing : Failing)
    (hfuel : failing.tree.size ≤ fuel) (steps : Nat) (state : State σ S) :
    ∃ accepted stop questions last,
      Rounds campaign failing state accepted stop questions last ∧
      outcome (campaign.shrinkRounds fuel failing steps) state =
        ((ending failing accepted stop).map fun (final, more) => (final, steps + more), last) := by
  induction fuel generalizing failing steps state with
  | zero =>
      have hpos := failing.tree.size_pos
      omega
  | succ fuel ih =>
      rw [shrinkRounds]
      rcases firstFailingCut_cases failing.tree failing.tree.cuts state with
        ⟨last, hrefused, houtcome⟩ |
        ⟨refused, candidate, others, middle, answer, next, hvariants, hrefused, hanswer, hne,
          houtcome⟩
      · rw [Tree.map_apply_cuts] at hrefused
        refine ⟨[], none, _, last, .last hrefused, ?_⟩
        rw [outcome_bind_ok houtcome]
        rfl
      · rw [Tree.map_apply_cuts] at hvariants
        rcases answer with error | answer
        · refine ⟨[], some error, _, next, .broken hvariants hrefused hanswer, ?_⟩
          rw [outcome_bind_error houtcome]
          rfl
        · obtain ⟨error, rfl⟩ : ∃ error, answer = some error :=
            Option.ne_none_iff_exists'.mp fun hnone => hne (congrArg Except.ok hnone)
          have hmem : candidate ∈ failing.tree.variants := by
            rw [hvariants]
            exact List.mem_append_right _ (List.mem_cons_self ..)
          -- the variant is smaller, so the fuel that is left is enough for it
          have hlt := Tree.size_lt_of_mem_variants failing.tree candidate hmem
          obtain ⟨accepted, stop, questions, last, hrounds, hrest⟩ :=
            ih ⟨candidate, candidate.source campaign.config.separator, error⟩
              (by show candidate.size ≤ fuel; omega) (steps + 1) next
          refine ⟨_, stop, _, last, .accepted hvariants hrefused hanswer hrounds, ?_⟩
          rw [outcome_bind_ok houtcome, ending_cons]
          show outcome (campaign.shrinkRounds fuel ⟨candidate, _, error⟩ (steps + 1)) next = _
          rw [hrest]
          cases stop with
          | none => simp only [ending, Except.map, Nat.add_assoc, Nat.add_comm 1]
          | some error => rfl

/-! ## What the rounds count -/

theorem Refused.oracleCalls_eq {state last : State σ S} {trees : List Tree}
    (hrefused : Refused campaign state trees last) :
    last.stats.oracleCalls = state.stats.oracleCalls + trees.length := by
  induction hrefused with
  | nil state => rfl
  | cons hanswer _ ih =>
      rw [ih, oracleCalls_of_error? hanswer, List.length_cons]
      omega

/-- Every question of the rounds is one call, and there are no others. -/
theorem Rounds.oracleCalls_eq {failing : Failing} {state last : State σ S}
    {accepted : List Failing} {stop : Option Error} {questions : Nat}
    (hrounds : Rounds campaign failing state accepted stop questions last) :
    last.stats.oracleCalls = state.stats.oracleCalls + questions := by
  induction hrounds with
  | last hrefused => exact hrefused.oracleCalls_eq
  | accepted _ hrefused hanswer _ ih =>
      have hmiddle := hrefused.oracleCalls_eq
      have hnext := oracleCalls_of_error? hanswer
      omega
  | broken _ hrefused hanswer =>
      have hmiddle := hrefused.oracleCalls_eq
      have hnext := oracleCalls_of_error? hanswer
      omega

/-! ## Oracles that decide programs -/

/-- What is refused once is never failed. -/
theorem Refused.answers (hdecides : ∀ oracle ∈ campaign.oracles, oracle.Decides)
    {state last : State σ S} {trees : List Tree} (hrefused : Refused campaign state trees last) :
    ∀ tree ∈ trees, campaign.Answers (tree.source campaign.config.separator) none := by
  induction hrefused with
  | nil state => simp
  | cons hanswer _ ih =>
      intro tree htree
      rcases List.mem_cons.mp htree with rfl | htree
      · exact answers_of_outcome hdecides (congrArg Prod.fst hanswer)
      · exact ih tree htree

/-- The program that the rounds end with has the error that the oracles give about it, and they
fail none of its variants. -/
theorem Rounds.minimal (hdecides : ∀ oracle ∈ campaign.oracles, oracle.Decides)
    {failing : Failing} {state last : State σ S} {accepted : List Failing} {stop : Option Error}
    {questions : Nat} (hrounds : Rounds campaign failing state accepted stop questions last)
    (herror : campaign.Answers (failing.tree.source campaign.config.separator)
      (some failing.error)) :
    stop = none ∧
      campaign.Answers ((accepted.getLastD failing).tree.source campaign.config.separator)
        (some (accepted.getLastD failing).error) ∧
      ∀ tree ∈ (accepted.getLastD failing).tree.variants,
        campaign.Answers (tree.source campaign.config.separator) none := by
  induction hrounds with
  | last hrefused => exact ⟨rfl, herror, hrefused.answers hdecides⟩
  | accepted _ _ hanswer _ ih =>
      rw [List.getLastD_cons]
      exact ih (answers_of_outcome hdecides (congrArg Prod.fst hanswer))
  | broken _ _ hanswer =>
      exact absurd (congrArg Prod.fst hanswer) (error?_ne_error hdecides)

/-- If no variant fails, nothing is accepted. -/
theorem Rounds.accepted_eq_nil {failing : Failing} {state last : State σ S}
    {accepted : List Failing} {stop : Option Error} {questions : Nat}
    (hrounds : Rounds campaign failing state accepted stop questions last)
    (hvariants : ∀ tree ∈ failing.tree.variants,
      campaign.Answers (tree.source campaign.config.separator) none) :
    accepted = [] ∧ stop = none := by
  cases hrounds with
  | last => exact ⟨rfl, rfl⟩
  | accepted hsplit _ hanswer =>
      have hmem := hsplit ▸ List.mem_append_right _ (List.mem_cons_self ..)
      cases (hvariants _ hmem).unique (congrArg Prod.fst hanswer)
  | broken hsplit _ hanswer =>
      have hmem := hsplit ▸ List.mem_append_right _ (List.mem_cons_self ..)
      have heq := congrArg Prod.fst hanswer
      rw [(hvariants _ hmem).fst_eq] at heq
      cases heq

theorem exists_settles_firstFailingCut (hdecides : ∀ oracle ∈ campaign.oracles, oracle.Decides)
    (tree : Tree) (cuts : List Tree.Cut) :
    ∃ answer, Settles (campaign.firstFailingCut tree cuts) answer := by
  induction cuts with
  | nil => exact ⟨none, Settles.pure none⟩
  | cons cut rest ih =>
      obtain ⟨answer, hanswer⟩ := exists_settles_error? hdecides
        ((tree.apply cut).source campaign.config.separator)
      cases answer with
      | some error => exact ⟨_, Settles.bind hanswer (Settles.pure _)⟩
      | none =>
          obtain ⟨other, hother⟩ := ih
          exact ⟨other, Settles.bind hanswer hother⟩

theorem exists_settles_shrinkRounds (hdecides : ∀ oracle ∈ campaign.oracles, oracle.Decides)
    (fuel : Nat) (failing : Failing) (steps : Nat) :
    ∃ final, Settles (campaign.shrinkRounds fuel failing steps) final := by
  induction fuel generalizing failing steps with
  | zero => exact ⟨_, Settles.pure (failing, steps)⟩
  | succ fuel ih =>
      obtain ⟨answer, hanswer⟩ :=
        exists_settles_firstFailingCut hdecides failing.tree failing.tree.cuts
      cases answer with
      | some smaller =>
          obtain ⟨final, hfinal⟩ := ih smaller (steps + 1)
          exact ⟨final, Settles.bind hanswer hfinal⟩
      | none => exact ⟨_, Settles.bind hanswer (Settles.pure (failing, steps))⟩

/-- Oracles that decide programs lead a failing program to one end. -/
theorem exists_settles_shrink (hdecides : ∀ oracle ∈ campaign.oracles, oracle.Decides)
    (failing : Failing) : ∃ final, Settles (campaign.shrink failing) final := by
  obtain ⟨⟨final, steps⟩, hfinal⟩ :=
    exists_settles_shrinkRounds hdecides failing.tree.size failing 0
  refine ⟨(final, steps), Settles.bind hfinal fun invariant hignores => ?_⟩
  refine Meets.modify_bind
    (fun state hstate => hignores state state.scene state.log _ _ hstate) ?_
  exact Meets.modify_bind
    (fun state hstate => hignores state state.scene _ _ _ hstate) (Meets.pure rfl)

/-! ## Shrinking -/

/-- Shrinking goes in rounds, and after the last one it does not ask again. -/
theorem outcome_shrink (campaign : Campaign σ S) (failing : Failing) (state : State σ S) :
    ∃ accepted stop questions last,
      Rounds campaign failing state accepted stop questions last ∧
      (outcome (campaign.shrink failing) state).1 = ending failing accepted stop ∧
      (outcome (campaign.shrink failing) state).2.session = last.session ∧
      (outcome (campaign.shrink failing) state).2.scene = last.scene ∧
      (outcome (campaign.shrink failing) state).2.stats.oracleCalls = last.stats.oracleCalls := by
  obtain ⟨accepted, stop, questions, last, hrounds, houtcome⟩ :=
    shrinkRounds_rounds campaign failing.tree.size failing (Nat.le_refl _) 0 state
  refine ⟨accepted, stop, questions, last, hrounds, ?_⟩
  unfold shrink
  cases stop with
  | none =>
      rw [outcome_bind_ok houtcome]
      simp only [ending, Nat.zero_add]
      exact ⟨rfl, rfl, rfl, rfl⟩
  | some error =>
      rw [outcome_bind_error houtcome]
      exact ⟨rfl, rfl, rfl, rfl⟩

/-- **Shrinking goes in rounds.**  Whatever the oracles answer, the questions fall into rounds about
the variants of the present program, each is one call, and the program that was accepted last
is returned.  If the oracles decide programs and the error is theirs, then the returned error is
theirs as well, no variant of the returned program fails, and shrinking it again accepts
nothing. -/
theorem shrink_rounds (campaign : Campaign σ S) (failing : Failing) (state : State σ S) :
    (∃ accepted stop questions last,
      Rounds campaign failing state accepted stop questions last ∧
      (outcome (campaign.shrink failing) state).1 = ending failing accepted stop ∧
      (outcome (campaign.shrink failing) state).2.scene = last.scene ∧
      (outcome (campaign.shrink failing) state).2.stats.oracleCalls =
        state.stats.oracleCalls + questions) ∧
    ((∀ oracle ∈ campaign.oracles, oracle.Decides) →
      campaign.Answers (failing.tree.source campaign.config.separator) (some failing.error) →
      ∃ final steps, (outcome (campaign.shrink failing) state).1 = .ok (final, steps) ∧
        campaign.Answers (final.tree.source campaign.config.separator) (some final.error) ∧
        (∀ tree ∈ final.tree.variants,
          campaign.Answers (tree.source campaign.config.separator) none) ∧
        ∀ again : State σ S, (outcome (campaign.shrink final) again).1 = .ok (final, 0)) := by
  obtain ⟨accepted, stop, questions, last, hrounds, hending, -, hscene, hcalls⟩ :=
    outcome_shrink campaign failing state
  refine ⟨⟨accepted, stop, questions, last, hrounds, hending, hscene, ?_⟩,
    fun hdecides herror => ?_⟩
  · rw [hcalls, hrounds.oracleCalls_eq]
  · obtain ⟨rfl, hfinal, hvariants⟩ := hrounds.minimal hdecides herror
    refine ⟨_, _, hending, hfinal, hvariants, fun again => ?_⟩
    -- the second time there is only the last round
    obtain ⟨accepted', stop', questions', last', hrounds', hending', -⟩ :=
      outcome_shrink campaign (accepted.getLastD failing) again
    obtain ⟨rfl, rfl⟩ := hrounds'.accepted_eq_nil hvariants
    exact hending'

/-! ### A campaign for two findings -/

/-- A campaign with the small grammar that looks for two programs with a text. -/
def chain : Campaign Unit (Exact fun _ => 0) :=
  ⟨{ Config.standard with results := 2, maxAttempts := some 2 }, Generator.chain,
    [Oracle.nonempty Unit], fun _ => ""⟩

/-- The campaign before anything is done. -/
def chainState (words : List UInt32) : State Unit (Exact fun _ => 0) :=
  ⟨.fresh (.ofWords words), ⟨.empty, ()⟩, .fresh, []⟩

theorem chain_decides : ∀ oracle ∈ chain.oracles, oracle.Decides := by
  intro oracle horacle
  rw [List.mem_singleton.mp horacle]
  exact Oracle.nonempty_decides

/-- A repetition of two letters is shrunk to one that no cut can shrink any further. -/
theorem shrink_rounds_chain :
    ∃ final steps, (outcome (chain.shrink
        ⟨.branch .many [.leaf .literal "a", .leaf .literal "b"], "a b", "not empty"⟩)
        (chainState [])).1 = .ok (final, steps) ∧
      chain.Answers (final.tree.source " ") (some final.error) ∧
      ∀ tree ∈ final.tree.variants, chain.Answers (tree.source " ") none := by
  have herror : chain.Answers "a b" (some "not empty") := by
    have houtcome : (outcome (chain.error? "a b") (chainState [])).1 = .ok (some "not empty") := by
      with_unfolding_all rfl
    exact answers_of_outcome chain_decides houtcome
  have hsource :
      (Tree.branch .many [.leaf .literal "a", .leaf .literal "b"]).source " " = "a b" := by
    with_unfolding_all rfl
  obtain ⟨final, steps, houtcome, hfinal, hvariants, -⟩ :=
    (shrink_rounds chain
      ⟨.branch .many [.leaf .literal "a", .leaf .literal "b"], "a b", "not empty"⟩
      (chainState [])).2 chain_decides (hsource.symm ▸ herror)
  exact ⟨final, steps, houtcome, hfinal, hvariants⟩

end GrammarFuzz.Campaign

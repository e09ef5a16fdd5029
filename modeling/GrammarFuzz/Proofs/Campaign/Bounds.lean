import GrammarFuzz.Proofs.Campaign.Rounds

/-!
# How long shrinking takes

Shrinking has no bound of its own: it goes on as long as a variant fails, and the oracles may answer
as they like.  It ends because every accepted variant has fewer nodes than the program before it
(`Rounds.isChain_size`), and a round asks about the variants of one program, of which there are fewer
than nodes (`Rounds.questions_le`).  The number of rounds that the definition allows is therefore
never reached (`shrinkRounds_of_le`).
-/

namespace GrammarFuzz.Campaign

variable {σ S : Type} {campaign : Campaign σ S} {failing : Failing} {state last : State σ S}
  {accepted : List Failing} {stop : Option Error} {questions : Nat}

/-- Of two programs the second one has fewer nodes. -/
def Failing.Larger (failing smaller : Failing) : Prop := smaller.tree.size < failing.tree.size

/-! ## Counting along the rounds -/

theorem size_lt_of_variants_eq {failing : Failing} {refused others : List Tree} {tree : Tree}
    (hvariants : failing.tree.variants = refused ++ tree :: others) :
    tree.size < failing.tree.size := by
  refine Tree.size_lt_of_mem_variants failing.tree tree ?_
  rw [hvariants]
  exact List.mem_append_right _ (List.mem_cons_self ..)

theorem length_refused_lt {failing : Failing} {refused others : List Tree} {tree : Tree}
    (hvariants : failing.tree.variants = refused ++ tree :: others) :
    refused.length + 1 ≤ failing.tree.size - 1 := by
  have hlength := Tree.length_variants_lt_size failing.tree
  rw [hvariants, List.length_append, List.length_cons] at hlength
  omega

/-- **Every accepted program has fewer nodes than the one before it.** -/
theorem Rounds.isChain_size
    (hrounds : Rounds campaign failing state accepted stop questions last) :
    (failing :: accepted).IsChain Failing.Larger := by
  induction hrounds with
  | last => exact List.IsChain.singleton _
  | accepted hvariants _ _ _ ih => exact List.IsChain.cons_cons (size_lt_of_variants_eq hvariants) ih
  | broken => exact List.IsChain.singleton _

/-- As many nodes are lost as programs are accepted, at least. -/
theorem Rounds.length_add_size_le
    (hrounds : Rounds campaign failing state accepted stop questions last) :
    accepted.length + (accepted.getLastD failing).tree.size ≤ failing.tree.size := by
  induction hrounds with
  | last => exact (Nat.zero_add _).le
  | accepted hvariants _ _ _ ih =>
      have hlt := size_lt_of_variants_eq hvariants
      rw [List.length_cons, List.getLastD_cons]
      dsimp only at ih
      omega
  | broken => exact (Nat.zero_add _).le

/-- A round asks about fewer variants than there were nodes at first, and there is one round more
than programs are accepted. -/
theorem Rounds.questions_le
    (hrounds : Rounds campaign failing state accepted stop questions last) :
    questions ≤ (accepted.length + 1) * (failing.tree.size - 1) := by
  induction hrounds with
  | @last failing state last _ =>
      have hlength := Tree.length_variants_lt_size failing.tree
      rw [List.length_nil, Nat.zero_add, Nat.one_mul]
      omega
  | @accepted failing state middle next last refused others tree error accepted stop questions
      hvariants _ _ _ ih =>
      have hrefused := length_refused_lt hvariants
      have hle : tree.size - 1 ≤ failing.tree.size - 1 :=
        Nat.sub_le_sub_right (size_lt_of_variants_eq hvariants).le 1
      calc refused.length + 1 + questions
          ≤ (failing.tree.size - 1) + (accepted.length + 1) * (failing.tree.size - 1) :=
            Nat.add_le_add hrefused (ih.trans (Nat.mul_le_mul_left _ hle))
        _ = ((⟨tree, _, error⟩ :: accepted : List Failing).length + 1) * (failing.tree.size - 1) := by
            rw [List.length_cons, Nat.succ_mul (accepted.length + 1), Nat.add_comm]
  | broken hvariants =>
      rw [List.length_nil, Nat.zero_add, Nat.one_mul]
      exact length_refused_lt hvariants

/-! ## Rounds that are never made -/

/-- More rounds than nodes make no difference. -/
theorem shrinkRounds_of_le {fuel larger : Nat} (hfuel : failing.tree.size ≤ fuel)
    (hle : fuel ≤ larger) (steps : Nat) (state : State σ S) :
    outcome (campaign.shrinkRounds larger failing steps) state =
      outcome (campaign.shrinkRounds fuel failing steps) state := by
  induction fuel generalizing larger failing steps state with
  | zero =>
      have hpos := failing.tree.size_pos
      omega
  | succ fuel ih =>
      obtain ⟨larger, rfl⟩ : ∃ more, larger = more + 1 := ⟨larger - 1, by omega⟩
      rw [shrinkRounds, shrinkRounds]
      rcases firstFailingCut_cases failing.tree failing.tree.cuts state with
        ⟨last, -, houtcome⟩ | ⟨refused, candidate, others, -, answer, next, hvariants, -, -, -, houtcome⟩
      · rw [outcome_bind_ok houtcome, outcome_bind_ok houtcome]
      · rw [Tree.map_apply_cuts] at hvariants
        have hlt := size_lt_of_variants_eq hvariants
        rcases answer with error | answer
        · rw [outcome_bind_error houtcome, outcome_bind_error houtcome]
        · rw [outcome_bind_ok houtcome, outcome_bind_ok houtcome]
          cases answer with
          | none => rfl
          | some error =>
              -- the variant that is accepted is smaller, so less fuel is enough for it
              have hsize : (⟨candidate, candidate.source campaign.config.separator, error⟩ :
                  Failing).tree.size ≤ fuel := by
                dsimp only
                omega
              exact ih hsize (Nat.le_of_succ_le_succ hle) (steps + 1) next

/-! ## Shrinking -/

/-- **Shrinking ends, whatever the oracles answer.**  The questions fall into finitely many rounds,
each accepted program has fewer nodes than the one before it, and the bound on rounds in the
definition makes no difference.  So there are no more accepted cuts than nodes are lost, and for each
of them, and once more, there are fewer questions than nodes. -/
theorem shrink_ends (campaign : Campaign σ S) (failing : Failing) (state : State σ S) :
    (∀ fuel, failing.tree.size ≤ fuel →
      outcome (campaign.shrinkRounds fuel failing 0) state =
        outcome (campaign.shrinkRounds failing.tree.size failing 0) state) ∧
    ∃ accepted stop questions last,
      Rounds campaign failing state accepted stop questions last ∧
      (outcome (campaign.shrink failing) state).1 = ending failing accepted stop ∧
      (outcome (campaign.shrink failing) state).2.stats.oracleCalls =
        state.stats.oracleCalls + questions ∧
      (failing :: accepted).IsChain Failing.Larger ∧
      accepted.length ≤ failing.tree.size - (accepted.getLastD failing).tree.size ∧
      questions ≤ (accepted.length + 1) * (failing.tree.size - 1) := by
  refine ⟨fun fuel hfuel => shrinkRounds_of_le le_rfl hfuel 0 state, ?_⟩
  obtain ⟨accepted, stop, questions, last, hrounds, hending, -, -, hcalls⟩ :=
    outcome_shrink campaign failing state
  refine ⟨accepted, stop, questions, last, hrounds, hending, ?_, hrounds.isChain_size, ?_,
    hrounds.questions_le⟩
  · rw [hcalls, hrounds.oracleCalls_eq]
  · have hle := hrounds.length_add_size_le
    omega

end GrammarFuzz.Campaign

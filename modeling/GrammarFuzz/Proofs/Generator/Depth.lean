import GrammarFuzz.Proofs.Exact
import GrammarFuzz.Proofs.Generator.Estimates

/-!
# Estimates of depths

In exact arithmetic the values that estimates come to are the depths of the rules
(`isEstimate_ofDepth`): each is what it is above the depths right below, and it is infinite for an
endless rule.  So every estimate that is made or kept is the depth of its rule, whatever was asked
before (`depths_eq`).
-/

namespace GrammarFuzz

/-! ## Estimates in exact arithmetic -/

namespace Generator

open Grammar

variable {decay : ℚ → ℚ} {grammar : Grammar}

/-- Every entry of the table of depths is the depth of the rule with its index. -/
def DepthsRight (grammar : Grammar) (session : Session (Exact decay)) : Prop :=
  session.depths.RightFor grammar fun rule depth => depth = Exact.ofDepth (grammar.depth rule)

/-- Depths that are right one by one are the depths of the rules. -/
theorem eq_map_ofDepth {members : List Rule} {depths : List (Exact decay)}
    (hdepths : List.Forall₂ (fun member depth => depth = Exact.ofDepth (grammar.depth member))
      members depths) :
    depths = (members.map grammar.depth).map Exact.ofDepth := by
  induction hdepths with
  | nil => rfl
  | cons hfirst _ ih => rw [hfirst, ih, List.map_cons, List.map_cons]

/-- **The depths of rules are what estimates come to.** -/
theorem isEstimate_ofDepth {fits : Rule → Prop} (hwell : grammar.WellFormed)
    (hleads : ∀ {rule next : Rule}, fits rule → grammar.Leads rule next → fits next)
    (hdefined : ∀ {rule : Rule}, rule ∈ grammar.rules → fits rule → rule.kind = .symbol →
      ∃ target, grammar.lookup rule.name = .ok target) :
    IsEstimate grammar fits fun rule (depth : Exact decay) =>
      depth = Exact.ofDepth (grammar.depth rule) where
  leads := hleads
  defined := hdefined
  endless _ _ hendless := by
    rw [depth_of_endless hendless]
    rfl
  above := by
    intro rule depth hrule hfits habove
    have hshaped := hwell.arena.shaped hrule
    rw [depth_eq hshaped]
    cases habove with
    | terminal hkind => rw [Depth.above_terminal hkind, Exact.ofDepth_one]
    | symbol hkind hlookup hdepth =>
        rw [hdepth, Exact.deeper_ofDepth, Depth.above_symbol hkind hlookup]
    | @sequence first rest hkind hdepths =>
        cases hmembers : rule.members with
        | nil =>
            rw [hmembers] at hdepths
            cases hdepths
        | cons member members =>
            rw [hmembers] at hdepths
            have hpositive : 0 ≤ grammar.depth member :=
              zero_le_one.trans (one_le_depth grammar member)
            obtain ⟨rfl, rfl⟩ := List.cons.inj (eq_map_ofDepth hdepths)
            rw [Depth.above_sequence hkind, hmembers, List.map_cons, ← Exact.foldl_max_eq _ hpositive,
              ← Exact.deeper_ofDepth, ← Exact.foldl_max_ofDepth]
    | choice hkind hne hdepths =>
        have hcount : rule.members.length ≠ 0 := (List.length_pos_iff.mpr hne).ne'
        rw [Depth.above_choice hkind, ← Exact.deeper_ofDepth, Depth.mean, List.length_map,
          ← Exact.div_ofDepth _ hcount, ← Exact.sum_ofDepth, ← eq_map_ofDepth hdepths,
          hdepths.length_eq]
    | content hkind hcontent hdepth =>
        rw [hdepth, Exact.deeper_ofDepth, Depth.above_content hkind hcontent]

theorem isEstimate_of_symbolsDefined (hwell : grammar.WellFormed)
    (hdefined : grammar.SymbolsDefined) :
    IsEstimate grammar (fun _ => True) fun rule (depth : Exact decay) =>
      depth = Exact.ofDepth (grammar.depth rule) :=
  isEstimate_ofDepth hwell (fun _ _ => trivial) fun {rule} hrule _ => hdefined rule hrule

/-! ## Sessions -/

/-- The estimate that a generator makes for a rule is its depth. -/
theorem expectedDepth_eq {generator : Generator (Exact decay)}
    (hwell : generator.grammar.WellFormed) (hdefined : generator.grammar.SymbolsDefined)
    {rule : Rule} (hrule : rule ∈ generator.grammar.rules) :
    Meets (DepthsRight generator.grammar) (generator.expectedDepth rule [])
      (· = Exact.ofDepth (generator.grammar.depth rule)) fun _ => False := by
  have hremembers : Remembers generator.grammar
      (fun rule depth => True → depth = Exact.ofDepth (generator.grammar.depth rule))
      (DepthsRight generator.grammar : Session (Exact decay) → Prop) :=
    { get? := fun hright hrule hentry _ => hright.get? hwell hrule hentry
      set := fun hright hrule hdepth => hright.set hwell hrule (hdepth trivial) }
  exact (expectedDepth_right hwell (isEstimate_of_symbolsDefined hwell hdefined) hremembers
    hrule).mono (fun _ hdepth => hdepth trivial) fun _ hnot => hnot trivial

/-- Weights are computed from depths, and computing them keeps the table right. -/
theorem sampleWeights_keeps_depths {generator : Generator (Exact decay)}
    (hwell : generator.grammar.WellFormed) (hdefined : generator.grammar.SymbolsDefined)
    {rule : Rule} (hrule : rule ∈ generator.grammar.rules) :
    Meets (DepthsRight generator.grammar) (generator.sampleWeights rule) (fun _ => True)
      fun _ => True :=
  sampleWeights_meets
    (fun _ hmember => (expectedDepth_eq hwell hdefined
      (hwell.arena.part_mem hrule (Or.inl hmember))).mono (fun _ => id) fun _ => False.elim)
    (fun _ _ => trivial) (fun _ _ _ _ => trivial) fun _ _ hright _ => hright

/-- Every plain call keeps the table of depths right. -/
theorem step_keeps_depths {generator : Generator (Exact decay)}
    (hwell : generator.grammar.WellFormed) (hdefined : generator.grammar.SymbolsDefined)
    {call : Call} (habout : call.About generator.grammar) (hplain : call.Plain) :
    Meets (DepthsRight generator.grammar) (call.step generator) (fun _ => True) fun _ => True := by
  refine step_keeps hwell habout (fun rule stack hcall => ?_)
    (fun rule hrule => sampleWeights_keeps_depths hwell hdefined hrule)
    (fun rule _ => ?_) fun _ _ _ hright => hright
  · subst hcall
    have hstack : stack = [] := hplain
    rw [hstack]
    exact (expectedDepth_eq hwell hdefined habout).mono (fun _ _ => trivial) fun _ => False.elim
  · exact patternSampler_meets (fun _ _ _ _ => trivial) (fun _ _ _ _ => trivial)
      (fun _ _ hright _ => hright) (fun _ _ _ => trivial) fun _ _ _ _ => trivial

/-- **Estimates do not depend on what was asked before.**  After any calls, every entry of the table
of depths is the depth of the rule with its index, and every rule is estimated at its depth. -/
theorem depths_eq (generator : Generator (Exact decay)) (hloaded : generator.grammar.IsLoaded)
    (hdefined : generator.grammar.SymbolsDefined) (source : Random.Source) (calls : List Call)
    (hcalls : ∀ call ∈ calls, call.About generator.grammar ∧ call.Plain) :
    DepthsRight generator.grammar (generator.after calls (.fresh source)) ∧
      ∀ rule ∈ generator.grammar.rules,
        (outcome (generator.expectedDepth rule []) (generator.after calls (.fresh source))).1 =
          .ok (Exact.ofDepth (generator.grammar.depth rule)) := by
  have hwell := hloaded.wellFormed
  have hright : DepthsRight generator.grammar (generator.after calls (.fresh source)) :=
    after_keeps (fun call hcall =>
      step_keeps_depths hwell hdefined (hcalls call hcall).1 (hcalls call hcall).2)
      (Table.RightFor.empty _ _)
  refine ⟨hright, fun rule hrule => ?_⟩
  obtain ⟨value, last, houtcome, -, hvalue⟩ :=
    (expectedDepth_eq hwell hdefined hrule).exists_ok hright
  rw [houtcome, hvalue]

/-- After a tree and some weights of the small grammar, a word still has infinite depth. -/
theorem depths_eq_chain :
    Grammar.chain.IsLoaded ∧ Grammar.chain.SymbolsDefined ∧
      (outcome ((chain : Generator (Exact fun _ => 0)).expectedDepth Chain.word [])
        (chain.after [.expand 9 Chain.word 1, .sampleWeights Chain.word]
          (.fresh (.ofWords [])))).1 = .ok (.infinite false) := by
  refine ⟨chain_isLoaded, chain_symbolsDefined, ?_⟩
  have hword : Chain.word ∈ Grammar.chain.rules := by simp [Grammar.chain]
  have hcalls : ∀ call ∈ [Call.expand 9 Chain.word 1, .sampleWeights Chain.word],
      call.About Grammar.chain ∧ call.Plain := by
    simp [Call.About, Call.Plain, hword]
  have heq := (depths_eq (chain : Generator (Exact fun _ => 0)) chain_isLoaded chain_symbolsDefined
    (.ofWords []) [.expand 9 Chain.word 1, .sampleWeights Chain.word] hcalls).2 Chain.word hword
  rw [heq, chain, depth_chain_word, Exact.ofDepth_top]

end Generator

end GrammarFuzz

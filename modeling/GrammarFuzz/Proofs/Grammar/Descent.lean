import GrammarFuzz.Proofs.Grammar.Depth
import GrammarFuzz.Proofs.Grammar.Derivation
import Mathlib.Data.Prod.Lex

/-!
# Going down from a rule

A rule that is not endless never comes back to itself (`not_transGen_self`), because the measure
that `Grammar.depth` recurses on goes down with every rule that is led to.  So each such rule
reaches fewer rules of the arena than the one before it (`rulesWithin_lt`), and a path down a
derivation meets no rule twice: the tree has at most as many levels as rules are within reach
(`Derives.depth_le`).

The measure itself bounds nothing.  It compares pairs, and the height that a symbol leads to may be
anything; the number of rules within reach is one number, and the arena bounds it.
-/

namespace GrammarFuzz

namespace Grammar

variable {grammar : Grammar} {rule next : Rule}

/-! ## No way back -/

/-- Below a rule that is not endless the measure of `depth` is smaller. -/
theorem measure_lt_of_transGen (hendless : ¬ grammar.Endless rule)
    (hreaches : Relation.TransGen grammar.Leads rule next) :
    Prod.Lex (· < ·) (· < ·) (grammar.namesWithin next, next.height)
      (grammar.namesWithin rule, rule.height) := by
  induction hreaches using Relation.TransGen.head_induction_on with
  | single hleads => exact measure_lt hendless hleads
  | head hleads _ ih =>
      have hbelow := ih fun hnext => hendless (hnext.of_leads hleads)
      exact IsTrans.trans _ _ _ hbelow (measure_lt hendless hleads)

/-- **A rule that is not endless never comes back to itself.** -/
theorem not_transGen_self (hendless : ¬ grammar.Endless rule) :
    ¬ Relation.TransGen grammar.Leads rule rule := fun hreaches =>
  irrefl _ (measure_lt_of_transGen hendless hreaches)

/-! ## Rules within reach -/

open scoped Classical in
/-- The number of rules of the arena that a rule reaches, with the rule itself. -/
noncomputable def rulesWithin (grammar : Grammar) (rule : Rule) : Nat :=
  (grammar.rules.toList.toFinset.filter (grammar.Reaches rule)).card

theorem rulesWithin_le_size (grammar : Grammar) (rule : Rule) :
    grammar.rulesWithin rule ≤ grammar.rules.size := by
  classical
  calc grammar.rulesWithin rule ≤ grammar.rules.toList.toFinset.card :=
        Finset.card_filter_le _ _
    _ ≤ grammar.rules.toList.length := List.toFinset_card_le _
    _ = grammar.rules.size := Array.length_toList

theorem rulesWithin_pos (hrule : rule ∈ grammar.rules) : 0 < grammar.rulesWithin rule := by
  classical
  refine Finset.card_pos.mpr ⟨rule, Finset.mem_filter.mpr ⟨?_, .refl⟩⟩
  rwa [List.mem_toFinset, Array.mem_toList_iff]

/-- What a rule that is not endless leads to does not reach the rule any more. -/
theorem rulesWithin_lt (hrule : rule ∈ grammar.rules) (hendless : ¬ grammar.Endless rule)
    (hleads : grammar.Leads rule next) : grammar.rulesWithin next < grammar.rulesWithin rule := by
  classical
  have hlost : ¬ grammar.Reaches next rule := fun hback =>
    not_transGen_self hendless (.head' hleads hback)
  refine Finset.card_lt_card (Finset.ssubset_iff_of_subset ?_ |>.mpr ⟨rule, ?_, ?_⟩)
  · exact Finset.monotone_filter_right _ fun _ _ hreaches => .head hleads hreaches
  · rw [Finset.mem_filter, List.mem_toFinset, Array.mem_toList_iff]
    exact ⟨hrule, .refl⟩
  · rw [Finset.mem_filter]
    exact fun hmem => hlost hmem.2

end Grammar

/-! ## Derivations -/

theorem Tree.depthOfAll_le {children : List Tree} {bound : Nat}
    (hchildren : ∀ child ∈ children, child.depth ≤ bound) : Tree.depthOfAll children ≤ bound := by
  induction children with
  | nil => exact Nat.zero_le _
  | cons first rest ih =>
      obtain ⟨hfirst, hrest⟩ := List.forall_mem_cons.mp hchildren
      rw [Tree.depthOfAll]
      exact max_le hfirst (ih hrest)

/-- **A derivation has at most as many levels as rules are within reach**, if the rule is not
endless. -/
theorem Derives.depth_le {grammar : Grammar} {texts : Rule → String → Prop} {rule : Rule}
    {tree : Tree} (hwell : grammar.WellFormed) (hrule : rule ∈ grammar.rules)
    (hendless : ¬ grammar.Endless rule) (hderives : Derives grammar texts rule tree) :
    tree.depth ≤ grammar.rulesWithin rule := by
  -- the induction is on the rules within reach: one less for each level down
  induction hcount : grammar.rulesWithin rule using Nat.strong_induction_on
    generalizing rule tree with
  | _ count ih =>
      subst hcount
      cases tree with
      | leaf kind text => exact Grammar.rulesWithin_pos hrule
      | branch kind children =>
          have hchildren : ∀ child ∈ children, child.depth ≤ grammar.rulesWithin rule - 1 := by
            intro child hchild
            obtain ⟨part, hleads, hpart⟩ := hderives.exists_leads hchild
            have hlt := Grammar.rulesWithin_lt hrule hendless hleads
            have hle := ih _ hlt (hwell.leads_mem hrule hleads)
              (fun hnext => hendless (hnext.of_leads hleads)) hpart rfl
            omega
          have hall := Tree.depthOfAll_le hchildren
          have hpositive := Grammar.rulesWithin_pos hrule
          rw [Tree.depth]
          omega

end GrammarFuzz

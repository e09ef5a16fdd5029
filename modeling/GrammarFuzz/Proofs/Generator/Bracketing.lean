import GrammarFuzz.Proofs.Generator.Depth
import GrammarFuzz.Proofs.Generator.Failures

/-!
# Trees on both sides of an estimate

The expected depth of a rule is no bound on its trees: a choice has the mean of the depths of its
alternatives, and a repetition counts as if it had a child.  What an estimate does promise is that
it lies between the depths of two trees of the rule, if it is finite (`expectedDepth_between`).

The shallower tree and the deeper one are built in the same way, only that the comparison is read in
the other direction.  `IsSide` lists what is asked of a comparison: it passes through one more level
and through maxima, and some value of a list stands on that side of the mean.  With it a single
induction along the rules that are not endless gives both trees (`exists_derives_of_isSide`).

A pattern that cannot be read has no texts, and a rule that leads to such a pattern may have no tree
at all.  It has an estimate nevertheless, since patterns are read only when a text is needed
(`unreadable_estimated`).
-/

namespace GrammarFuzz

namespace Grammar

/-! ## Sides of a depth -/

namespace Depth

/-- Values compare in this way through one more level, through maxima and with some value of a
mean. -/
structure IsSide (side : Depth → Depth → Prop) : Prop where
  refl : ∀ depth, side depth depth
  deeper : ∀ {depth depth'}, side depth depth' → side (1 + depth) (1 + depth')
  max : ∀ {first first' second second'}, side first first' → side second second' →
    side (max first second) (max first' second')
  mean : ∀ {depths}, depths ≠ [] → ∃ depth ∈ depths, ∀ value, side value depth →
    side value (mean depths)

theorem mean_coe (values : List ℚ) :
    mean (values.map (↑)) = ((values.sum / values.length : ℚ) : Depth) := by
  have hsum : (values.map ((↑) : ℚ → Depth)).sum = (values.sum : ℚ) := by
    induction values with
    | nil => rfl
    | cons value rest ih => rw [List.map_cons, List.sum_cons, List.sum_cons, ih, WithTop.coe_add]
  rw [mean, hsum, List.length_map]
  rfl

theorem sum_map_mean {values : List ℚ} (hne : values ≠ []) :
    (values.map fun _ => values.sum / values.length).sum = values.sum := by
  have hlength : (values.length : ℚ) ≠ 0 := Nat.cast_ne_zero.mpr (List.length_pos_iff.mpr hne).ne'
  rw [List.map_const', List.sum_replicate, nsmul_eq_mul, mul_div_cancel₀ _ hlength]

/-- Not all depths are above their mean, and not all are below it. -/
theorem exists_around_mean {depths : List Depth} (hne : depths ≠ []) :
    (∃ depth ∈ depths, depth ≤ mean depths) ∧ ∃ depth ∈ depths, mean depths ≤ depth := by
  by_cases htop : ⊤ ∈ depths
  · obtain ⟨depth, hdepth⟩ := List.exists_mem_of_ne_nil depths hne
    rw [mean_eq_top htop]
    exact ⟨⟨depth, hdepth, le_top⟩, ⊤, htop, le_rfl⟩
  · -- all depths are finite, so some of the amounts are on either side of the mean amount
    have hfinite : ∀ depth ∈ depths, depth ≠ ⊤ := fun depth hdepth heq => htop (heq ▸ hdepth)
    lift depths to List ℚ using hfinite with values
    have hvalues : values ≠ [] := fun heq => hne (heq ▸ rfl)
    have hmap : (values.map id).sum = values.sum := by rw [List.map_id]
    obtain ⟨low, hlow, hbelow⟩ := List.exists_le_of_sum_le hvalues id
      (fun _ => values.sum / values.length) (by rw [hmap, sum_map_mean hvalues])
    obtain ⟨high, hhigh, habove⟩ := List.exists_le_of_sum_le hvalues
      (fun _ => values.sum / values.length) id (by rw [hmap, sum_map_mean hvalues])
    rw [mean_coe]
    exact ⟨⟨low, List.mem_map_of_mem hlow, WithTop.coe_le_coe.mpr hbelow⟩,
      high, List.mem_map_of_mem hhigh, WithTop.coe_le_coe.mpr habove⟩

theorem isSide_le : IsSide (· ≤ ·) where
  refl _ := le_rfl
  deeper hle := add_le_add_right hle 1
  max := max_le_max
  mean hne := by
    obtain ⟨depth, hdepth, hle⟩ := (exists_around_mean hne).1
    exact ⟨depth, hdepth, fun _ hvalue => hvalue.trans hle⟩

theorem isSide_ge : IsSide (· ≥ ·) where
  refl _ := le_rfl
  deeper hge := add_le_add_right hge 1
  max := max_le_max
  mean hne := by
    obtain ⟨depth, hdepth, hle⟩ := (exists_around_mean hne).2
    exact ⟨depth, hdepth, fun _ hvalue => hle.trans hvalue⟩

end Depth

/-! ## Trees on a side -/

section Trees

variable {grammar : Grammar} {texts : Rule → String → Prop} {side : Depth → Depth → Prop}
  {rule next : Rule}

/-- A tree of the rule has a depth on this side of the depth of the rule. -/
def HasTree (grammar : Grammar) (texts : Rule → String → Prop) (side : Depth → Depth → Prop)
    (rule : Rule) : Prop :=
  ∃ tree, Derives grammar texts rule tree ∧ side tree.depth (grammar.depth rule)

theorem depth_branch (kind : RuleKind) (children : List Tree) :
    ((Tree.branch kind children).depth : Depth) = 1 + (Tree.depthOfAll children : Depth) := by
  rw [Tree.depth, Nat.cast_add, Nat.cast_one]

theorem depthOfAll_cons (tree : Tree) (rest : List Tree) :
    (Tree.depthOfAll (tree :: rest) : Depth) = max (tree.depth : Depth) (Tree.depthOfAll rest) := by
  rw [Tree.depthOfAll]
  exact Nat.mono_cast.map_max

theorem depthOfAll_singleton (tree : Tree) : Tree.depthOfAll [tree] = tree.depth := by
  rw [Tree.depthOfAll, Tree.depthOfAll, Nat.max_zero]

/-- A node with one child is one deeper than the child. -/
theorem HasTree.branch (hside : Depth.IsSide side) (htree : HasTree grammar texts side next)
    {kind : RuleKind} (hderives : ∀ {child}, Derives grammar texts next child →
      Derives grammar texts rule (.branch kind [child]))
    (hdepth : grammar.depth rule = 1 + grammar.depth next) : HasTree grammar texts side rule := by
  obtain ⟨child, hchild, hbeside⟩ := htree
  refine ⟨.branch kind [child], hderives hchild, ?_⟩
  rw [depth_branch, depthOfAll_singleton, hdepth]
  exact hside.deeper hbeside

/-- The children of a sequence, one for each member. -/
theorem exists_children (hside : Depth.IsSide side) {members : List Rule}
    (hmembers : ∀ member ∈ members, HasTree grammar texts side member) :
    ∃ children, List.Forall₂ (Derives grammar texts) members children ∧
      side (Tree.depthOfAll children : Depth) (Depth.greatest (members.map grammar.depth)) := by
  induction members with
  | nil => exact ⟨[], .nil, hside.refl 0⟩
  | cons member rest ih =>
      obtain ⟨⟨child, hchild, hbeside⟩, hrest⟩ := List.forall_mem_cons.mp hmembers
      obtain ⟨children, hchildren, hall⟩ := ih hrest
      refine ⟨child :: children, .cons hchild hchildren, ?_⟩
      rw [depthOfAll_cons]
      exact hside.max hbeside hall

theorem hasTree_terminal (hside : Depth.IsSide side) (hshaped : rule.Shaped)
    (hterminal : rule.isTerminal = true)
    (htexts : rule.kind = .pattern → ∃ text, texts rule text) :
    HasTree grammar texts side rule := by
  have hdepth : grammar.depth rule = 1 := by
    rw [depth_eq hshaped, Depth.above_terminal hterminal]
  -- a leaf is one level, whichever text it carries
  have hleaf : ∀ {kind text}, Derives grammar texts rule (.leaf kind text) →
      HasTree grammar texts side rule := by
    intro kind text hderives
    refine ⟨_, hderives, ?_⟩
    rw [Tree.depth, Nat.cast_one, hdepth]
    exact hside.refl 1
  unfold Rule.Shaped at hshaped
  unfold Rule.isTerminal at hterminal
  cases hkind : rule.kind with
  | blank => exact hleaf (.blank hkind)
  | literal =>
      rw [hkind] at hshaped
      obtain ⟨⟨text, hvalue⟩, -⟩ := hshaped
      exact hleaf (.literal hkind hvalue)
  | pattern =>
      obtain ⟨text, htext⟩ := htexts hkind
      exact hleaf (.pattern hkind htext)
  | _ => simp [hkind, RuleKind.isTerminal] at hterminal

/-- **A rule that is not endless has a tree on each side of its depth**, if every pattern that it
reaches has a text. -/
theorem exists_derives_of_isSide (hside : Depth.IsSide side) (hwell : grammar.WellFormed)
    (hdefined : grammar.SymbolsDefined) (hrule : rule ∈ grammar.rules)
    (htexts : ∀ pattern, grammar.Reaches rule pattern → pattern.kind = .pattern →
      ∃ text, texts pattern text)
    (hendless : ¬ grammar.Endless rule) : HasTree grammar texts side rule := by
  induction rule using depth.induct grammar with
  | case1 rule hback => exact absurd hback hendless
  | case2 rule _ ih =>
      have hbelow : ∀ next, grammar.Leads rule next → HasTree grammar texts side next := by
        intro next hleads
        apply ih next hleads (hwell.leads_mem hrule hleads)
        · intro pattern hreaches hkind
          exact htexts pattern (.head hleads hreaches) hkind
        · intro hback
          exact hendless (hback.of_leads hleads)
      have hshaped := hwell.arena.shaped hrule
      have hdepth : grammar.depth rule = Depth.above grammar rule grammar.depth := depth_eq hshaped
      rcases hshaped.cases with hterminal | hsymbol | ⟨hsequence, -⟩ | ⟨hchoice, hne⟩ |
        ⟨hkind, content, hcontent⟩
      · exact hasTree_terminal hside hshaped hterminal (htexts rule .refl)
      · obtain ⟨target, hlookup⟩ := hdefined rule hrule hsymbol
        rw [Depth.above_symbol hsymbol hlookup] at hdepth
        have hleads : grammar.Leads rule target := Or.inr ⟨hsymbol, hlookup⟩
        exact (hbelow target hleads).branch hside (.symbol hsymbol hlookup) hdepth
      · have hmembers : ∀ member ∈ rule.members, HasTree grammar texts side member :=
          fun member hmember => hbelow member (Or.inl (Or.inl hmember))
        obtain ⟨children, hchildren, hall⟩ := exists_children hside hmembers
        refine ⟨.branch .sequence children, .of_members hsequence hchildren, ?_⟩
        rw [depth_branch, hdepth, Depth.above_sequence hsequence]
        exact hside.deeper hall
      · -- the alternative that stands on this side of the mean
        have hdepths : rule.members.map grammar.depth ≠ [] := List.map_eq_nil_iff.not.mpr hne
        obtain ⟨depth, hmem, hmean⟩ := hside.mean hdepths
        obtain ⟨member, hmember, rfl⟩ := List.mem_map.mp hmem
        obtain ⟨child, hchild, hbeside⟩ := hbelow member (Or.inl (Or.inl hmember))
        refine ⟨.branch .choice [child], .choice hchoice hmember hchild, ?_⟩
        rw [depth_branch, depthOfAll_singleton, hdepth, Depth.above_choice hchoice]
        exact hside.deeper (hmean _ hbeside)
      · rw [Depth.above_content hkind hcontent] at hdepth
        have hchild := hbelow content (Or.inl (Or.inr hcontent))
        rcases hkind with hrepetition | hwrapper
        · -- one child will do for a repetition, whether it may be empty or not
          have hone : ∀ {child}, Derives grammar texts content child →
              Derives grammar texts rule (.branch rule.kind [child]) := by
            intro child hderives
            apply Derives.of_content hrepetition hcontent fun _ => List.cons_ne_nil _ _
            intro other hother
            rwa [List.mem_singleton.mp hother]
          exact hchild.branch hside hone hdepth
        · exact hchild.branch hside (.wrapper hwrapper hcontent) hdepth

end Trees

end Grammar

/-! ## Estimates -/

namespace Generator

open Grammar

section Estimates

variable {decay : ℚ → ℚ}

/-- **A finite estimate lies between the depths of two trees of its rule**, if every pattern that
the rule reaches has a text.  This is so after any plain calls. -/
theorem expectedDepth_between (generator : Generator (Exact decay))
    (hloaded : generator.grammar.IsLoaded) (hdefined : generator.grammar.SymbolsDefined)
    (source : Random.Source) (calls : List Call)
    (hcalls : ∀ call ∈ calls, call.About generator.grammar ∧ call.Plain) (rule : Rule)
    (hrule : rule ∈ generator.grammar.rules)
    (htexts : ∀ pattern, generator.grammar.Reaches rule pattern → pattern.kind = .pattern →
      ∃ text, generator.IsPatternText pattern text)
    (amount : ℚ)
    (hamount : (outcome (generator.expectedDepth rule [])
      (generator.after calls (.fresh source))).1 = .ok (.finite amount)) :
    ∃ shallow deep, Derives generator.grammar generator.IsPatternText rule shallow ∧
      Derives generator.grammar generator.IsPatternText rule deep ∧
      (shallow.depth : ℚ) ≤ amount ∧ amount ≤ deep.depth := by
  have hwell := hloaded.wellFormed
  have hdepth : generator.grammar.depth rule = (amount : Depth) := by
    have hestimate := expectedDepth_of_weighed hwell hdefined hrule
      (learned_after hwell (isEstimate_of_symbolsDefined hwell hdefined) source hcalls)
    exact Exact.ofDepth_injective (Except.ok.inj (hestimate.symm.trans hamount))
  have hendless : ¬ generator.grammar.Endless rule := by
    intro hback
    rw [depth_of_endless hback] at hdepth
    exact WithTop.top_ne_coe hdepth
  obtain ⟨shallow, hshallow, hbelow⟩ :=
    exists_derives_of_isSide Depth.isSide_le hwell hdefined hrule htexts hendless
  obtain ⟨deep, hdeep, habove⟩ :=
    exists_derives_of_isSide Depth.isSide_ge hwell hdefined hrule htexts hendless
  rw [hdepth] at hbelow habove
  refine ⟨shallow, deep, hshallow, hdeep, ?_, ?_⟩
  · exact_mod_cast hbelow
  · exact_mod_cast habove

/-- In the grammar of items the list of one letter has depth 3, which is also the estimate. -/
theorem expectedDepth_between_items :
    Grammar.items.IsLoaded ∧ Grammar.items.SymbolsDefined ∧ Items.list ∈ Grammar.items.rules ∧
      ∃ shallow deep,
        Derives Grammar.items (items : Generator (Exact fun _ => 0)).IsPatternText Items.list
          shallow ∧
        Derives Grammar.items (items : Generator (Exact fun _ => 0)).IsPatternText Items.list
          deep ∧
        (shallow.depth : ℚ) ≤ 3 ∧ (3 : ℚ) ≤ deep.depth := by
  have hlist : Items.list ∈ Grammar.items.rules := by simp [Grammar.items]
  have htext : (items : Generator (Exact fun _ => 0)).IsPatternText Items.digit "1" := by
    refine ⟨_, items_isSamplerOf_digit, ⟨.ofWords [1073741824], []⟩, ?_⟩
    with_unfolding_all rfl
  refine ⟨items_isLoaded, items_symbolsDefined, hlist, ?_⟩
  refine expectedDepth_between items items_isLoaded items_symbolsDefined (.ofWords []) [] (by simp)
    Items.list hlist (fun pattern hreaches hkind => ?_) 3 (by with_unfolding_all rfl)
  have hpattern := items_isLoaded.wellFormed.reaches_mem hlist hreaches
  rcases mem_items hpattern with rfl | rfl | rfl | rfl
  · cases hkind
  · exact ⟨"1", htext⟩
  · cases hkind
  · cases hkind

end Estimates

end Generator

/-! ## A pattern that cannot be read -/

namespace Generator

open Grammar

/-- **A rule without any tree has an estimate.**  The pattern is a rule of a grammar that was read
and is estimated at depth one, but no text belongs to it and so no tree derives from it. -/
theorem unreadable_estimated :
    unreadable.IsLoaded ∧ unreadable.SymbolsDefined ∧ Unreadable.pattern ∈ unreadable.rules ∧
      ∀ interpreter source, (outcome
          ((⟨unreadable, 10, .finite 5, 5, interpreter⟩ : Generator (Exact fun _ => 0)).expectedDepth
            Unreadable.pattern []) (.fresh source)).1 = .ok (.finite 1) ∧
        ∀ tree, ¬ Derives unreadable
          (⟨unreadable, 10, .finite 5, 5, interpreter⟩ : Generator (Exact fun _ => 0)).IsPatternText
          Unreadable.pattern tree := by
  have hpattern : Unreadable.pattern ∈ unreadable.rules := by simp [unreadable]
  refine ⟨.document ofDocument_unreadable, unreadable_symbolsDefined, hpattern,
    fun interpreter source => ⟨?_, ?_⟩⟩
  · with_unfolding_all rfl
  · intro tree hderives
    obtain ⟨failure, hparse⟩ : ∃ failure, Pattern.parse interpreter "(" = .error failure := ⟨_, rfl⟩
    cases hderives with
    | pattern _ htext =>
        obtain ⟨sampler, ⟨text, hvalue, hsampler⟩, -⟩ := htext
        cases hvalue
        rw [readPattern, Pattern.Sampler.ofPattern, hparse] at hsampler
        cases hsampler
    | blank hkind | literal hkind | symbol hkind | sequence hkind | choice hkind | many hkind
    | many1 hkind | wrapper hkind => cases hkind

end Generator

end GrammarFuzz

import GrammarFuzz.Proofs.Grammar.Arena
import Mathlib.Algebra.Order.BigOperators.Group.List
import Mathlib.Algebra.Order.Field.Basic
import Mathlib.Algebra.Order.Monoid.WithTop
import Mathlib.Algebra.Order.Field.Rat
import Mathlib.Data.Finset.Card
import Mathlib.Data.Finset.Filter
import Mathlib.Logic.Relation

/-!
# The depth of a rule

The depth of a rule is a fact about the grammar alone: no table, no stack and no history enters
it.  It is infinite if the rule leads into a cycle of symbols (`Endless`) and only then
(`depth_eq_top_iff`), and otherwise one more than the depths right below, the greatest of them for a
sequence and their mean for a choice.

## Why the recursion ends

A rule that is not endless never comes back to a name it has left: following a symbol loses its
name for good, and taking a rule apart loses height.  The number of names within reach,
then the height, is therefore a measure (`namesWithin`, `measure_lt`).

The equations hold for endless rules as well (`depth_eq`), because a rule that is endless has
an endless rule right below it and infinity spreads through sums, means and maxima.
-/

namespace GrammarFuzz

/-! ## Heights -/

namespace Rule

theorem height_pos (rule : Rule) : 0 < rule.height := by
  obtain ⟨index, kind, value, name, members, content⟩ := rule
  rw [height]
  omega

theorem height_le_heightOfMembers {member : Rule} {members : List Rule}
    (hmember : member ∈ members) :
    member.height ≤ heightOfMembers members := by
  induction members with
  | nil => simp at hmember
  | cons first rest ih =>
      rw [heightOfMembers]
      rcases List.mem_cons.mp hmember with rfl | hmember
      · exact Nat.le_max_left _ _
      · exact (ih hmember).trans (Nat.le_max_right _ _)

theorem height_lt_of_hasPart {rule part : Rule} (hpart : rule.HasPart part) :
    part.height < rule.height := by
  obtain ⟨index, kind, value, name, members, content⟩ := rule
  rw [height]
  rcases hpart with hmember | hcontent
  · have hle : part.height ≤ heightOfMembers members := height_le_heightOfMembers hmember
    omega
  · have hcontent : content = some part := hcontent
    rw [hcontent, heightOfContent]
    omega

/-- The rule is a symbol for a name. -/
def IsSymbol (rule : Rule) (name : String) : Prop :=
  rule.kind = .symbol ∧ rule.name = .text name

end Rule

namespace Grammar

/-! ## Reaching -/

variable {grammar : Grammar} {rule next : Rule} {name : String}

/-- A rule reaches another one through parts and symbols. -/
def Reaches (grammar : Grammar) : Rule → Rule → Prop :=
  Relation.ReflTransGen grammar.Leads

/-- A rule reaches a symbol for a name. -/
def ReachesName (grammar : Grammar) (rule : Rule) (name : String) : Prop :=
  ∃ symbol, grammar.Reaches rule symbol ∧ symbol.IsSymbol name

/-- A rule reaches a symbol for a name that its own definition reaches again. -/
def Endless (grammar : Grammar) (rule : Rule) : Prop :=
  ∃ name target, grammar.ReachesName rule name ∧ grammar.resolve? name = some target ∧
    grammar.ReachesName target name

/-- Every symbol of the grammar has a definition. -/
def SymbolsDefined (grammar : Grammar) : Prop :=
  ∀ rule ∈ grammar.rules, rule.kind = .symbol → ∃ target, grammar.lookup rule.name = .ok target

theorem ReachesName.of_leads (hleads : grammar.Leads rule next)
    (hreaches : grammar.ReachesName next name) : grammar.ReachesName rule name := by
  obtain ⟨symbol, hsymbol, hname⟩ := hreaches
  exact ⟨symbol, .head hleads hsymbol, hname⟩

theorem lookup_text (hresolve : grammar.resolve? name = some rule) :
    grammar.lookup (.text name) = .ok rule := by
  simp only [lookup, hresolve]

theorem Endless.of_leads (hleads : grammar.Leads rule next) (hendless : grammar.Endless next) :
    grammar.Endless rule := by
  obtain ⟨name, target, hreaches, hagain⟩ := hendless
  exact ⟨name, target, hreaches.of_leads hleads, hagain⟩

/-- An endless rule leads to an endless rule. -/
theorem Endless.exists_leads (hendless : grammar.Endless rule) :
    ∃ next, grammar.Leads rule next ∧ grammar.Endless next := by
  obtain ⟨name, target, ⟨symbol, hreaches, hname⟩, hresolve, hagain⟩ := hendless
  rcases Relation.ReflTransGen.cases_head hreaches with rfl | ⟨next, hleads, hreaches⟩
  · -- the rule is the symbol itself, and its definition comes back to it
    refine ⟨target, Or.inr ⟨hname.1, ?_⟩, name, target, hagain, hresolve, hagain⟩
    rw [hname.2]
    exact lookup_text hresolve
  · exact ⟨next, hleads, name, target, ⟨symbol, hreaches, hname⟩, hresolve, hagain⟩

/-! ## The measure -/

open scoped Classical in
/-- The number of defined names that a rule reaches. -/
noncomputable def namesWithin (grammar : Grammar) (rule : Rule) : Nat :=
  ((grammar.definitions.map (·.1)).toFinset.filter (grammar.ReachesName rule)).card

theorem mem_definitions_of_resolve? (hresolve : grammar.resolve? name = some rule) :
    name ∈ grammar.definitions.map (·.1) :=
  List.mem_map.mpr ⟨(name, rule), mem_of_definition? hresolve, rfl⟩

theorem namesWithin_le (hleads : grammar.Leads rule next) :
    grammar.namesWithin next ≤ grammar.namesWithin rule := by
  classical
  exact Finset.card_le_card (Finset.monotone_filter_right _ fun _ _ hreaches =>
    hreaches.of_leads hleads)

/-- A symbol that is not endless leads to a rule that does not reach its name. -/
theorem namesWithin_lt (hendless : ¬ grammar.Endless rule) (hkind : rule.kind = .symbol)
    (hlookup : grammar.lookup rule.name = .ok next) :
    grammar.namesWithin next < grammar.namesWithin rule := by
  classical
  obtain ⟨name, hname, hresolve⟩ := resolve?_of_lookup hlookup
  have hreaches : grammar.ReachesName rule name := ⟨rule, .refl, hkind, hname⟩
  -- reaching the name again would make the symbol endless
  have hlost : ¬ grammar.ReachesName next name := fun hagain =>
    hendless ⟨name, next, hreaches, hresolve, hagain⟩
  refine Finset.card_lt_card (Finset.ssubset_iff_of_subset ?_ |>.mpr ⟨name, ?_, ?_⟩)
  · exact Finset.monotone_filter_right _ fun _ _ hname =>
      hname.of_leads (Or.inr ⟨hkind, hlookup⟩)
  · rw [Finset.mem_filter, List.mem_toFinset]
    exact ⟨mem_definitions_of_resolve? hresolve, hreaches⟩
  · rw [Finset.mem_filter]
    exact fun hmem => hlost hmem.2

/-- Below a rule that is not endless there are fewer names, or as many and less height. -/
theorem measure_lt (hendless : ¬ grammar.Endless rule) (hleads : grammar.Leads rule next) :
    Prod.Lex (· < ·) (· < ·) (grammar.namesWithin next, next.height)
      (grammar.namesWithin rule, rule.height) := by
  rcases hleads with hpart | ⟨hkind, hlookup⟩
  · -- a part may reach the same names, but it is not as high
    rcases (namesWithin_le (Or.inl hpart : grammar.Leads rule next)).lt_or_eq with hlt | heq
    · exact Prod.Lex.left _ _ hlt
    · rw [heq]
      exact Prod.Lex.right _ (Rule.height_lt_of_hasPart hpart)
  · exact Prod.Lex.left _ _ (namesWithin_lt hendless hkind hlookup)

/-! ## Depths -/

/-- A number of levels, or infinitely many. -/
abbrev Depth := WithTop ℚ

namespace Depth

/-- The greatest of some depths. -/
def greatest (depths : List Depth) : Depth := depths.foldr max 0

/-- The mean of some depths. -/
def mean (depths : List Depth) : Depth := depths.sum.map (· / depths.length)

variable {depths : List Depth}

theorem le_greatest {depth : Depth} (hdepth : depth ∈ depths) : depth ≤ greatest depths := by
  induction depths with
  | nil => simp at hdepth
  | cons first rest ih =>
      rcases List.mem_cons.mp hdepth with rfl | hdepth
      · exact le_max_left _ _
      · exact (ih hdepth).trans (le_max_right _ _)

theorem zero_le_greatest (depths : List Depth) : 0 ≤ greatest depths := by
  induction depths with
  | nil => exact le_rfl
  | cons first rest ih => exact ih.trans (le_max_right _ _)

theorem zero_le_mean (hdepths : ∀ depth ∈ depths, 0 ≤ depth) : 0 ≤ mean depths := by
  have hsum : 0 ≤ depths.sum := List.sum_nonneg hdepths
  unfold mean
  cases heq : depths.sum using WithTop.recTopCoe with
  | top => exact le_top
  | coe value =>
      rw [heq] at hsum
      exact WithTop.coe_nonneg.mpr (div_nonneg (WithTop.coe_nonneg.mp hsum) (Nat.cast_nonneg _))

theorem greatest_eq_top (htop : ⊤ ∈ depths) : greatest depths = ⊤ :=
  top_le_iff.mp (le_greatest htop)

theorem sum_eq_top (htop : ⊤ ∈ depths) : depths.sum = ⊤ := by
  induction depths with
  | nil => simp at htop
  | cons first rest ih =>
      rw [List.sum_cons]
      rcases List.mem_cons.mp htop with heq | htop
      · rw [← heq, WithTop.top_add]
      · rw [ih htop, WithTop.add_top]

theorem mean_eq_top (htop : ⊤ ∈ depths) : mean depths = ⊤ := by
  rw [mean, sum_eq_top htop]
  rfl

theorem greatest_ne_top (hdepths : ∀ depth ∈ depths, depth ≠ ⊤) : greatest depths ≠ ⊤ := by
  induction depths with
  | nil => exact WithTop.zero_ne_top
  | cons first rest ih =>
      obtain ⟨hfirst, hrest⟩ := List.forall_mem_cons.mp hdepths
      exact (max_lt (WithTop.lt_top_iff_ne_top.mpr hfirst)
        (WithTop.lt_top_iff_ne_top.mpr (ih hrest))).ne

theorem mean_ne_top (hdepths : ∀ depth ∈ depths, depth ≠ ⊤) : mean depths ≠ ⊤ := by
  have hsum : depths.sum ≠ ⊤ := by
    induction depths with
    | nil => exact WithTop.zero_ne_top
    | cons first rest ih =>
        obtain ⟨hfirst, hrest⟩ := List.forall_mem_cons.mp hdepths
        rw [List.sum_cons]
        exact WithTop.add_ne_top.mpr ⟨hfirst, ih hrest⟩
  rw [mean]
  exact fun htop => hsum (WithTop.map_eq_top_iff.mp htop)

/-- The depth of a rule, given the depths of the rules right below it.  A symbol without a
definition and an annotation without a content count like terminals. -/
def above (grammar : Grammar) (rule : Rule) (below : Rule → Depth) : Depth :=
  match rule.kind with
  | .blank | .literal | .pattern => 1
  | .symbol =>
    match grammar.lookup rule.name with
    | .ok target => 1 + below target
    | .error _ => 1
  | .sequence => 1 + greatest (rule.members.map below)
  | .choice => 1 + mean (rule.members.map below)
  | _ =>
    match rule.content with
    | some content => 1 + below content
    | none => 1

variable {below : Rule → Depth}

theorem above_terminal (hkind : rule.isTerminal = true) : above grammar rule below = 1 := by
  unfold Rule.isTerminal RuleKind.isTerminal at hkind
  unfold above
  split at hkind <;> simp_all

theorem above_symbol (hkind : rule.kind = .symbol) (hlookup : grammar.lookup rule.name = .ok next) :
    above grammar rule below = 1 + below next := by
  simp only [above, hkind, hlookup]

theorem above_sequence (hkind : rule.kind = .sequence) :
    above grammar rule below = 1 + greatest (rule.members.map below) := by
  simp only [above, hkind]

theorem above_choice (hkind : rule.kind = .choice) :
    above grammar rule below = 1 + mean (rule.members.map below) := by
  simp only [above, hkind]

theorem above_content (hkind : rule.kind.isRepetition = true ∨ rule.kind.isWrapper = true)
    (hcontent : rule.content = some next) : above grammar rule below = 1 + below next := by
  unfold above
  split <;> simp_all [RuleKind.isRepetition, RuleKind.isWrapper]

theorem above_ne_top (hbelow : ∀ next, grammar.Leads rule next → below next ≠ ⊤) :
    above grammar rule below ≠ ⊤ := by
  have hnext : ∀ next, grammar.Leads rule next → 1 + below next ≠ ⊤ := fun next hleads =>
    WithTop.add_ne_top.mpr ⟨WithTop.one_ne_top, hbelow next hleads⟩
  have hmembers : ∀ depth ∈ rule.members.map below, depth ≠ ⊤ := by
    intro depth hdepth
    obtain ⟨member, hmember, rfl⟩ := List.mem_map.mp hdepth
    exact hbelow member (Or.inl (Or.inl hmember))
  unfold above
  split
  · exact WithTop.one_ne_top
  · exact WithTop.one_ne_top
  · exact WithTop.one_ne_top
  · rename_i hkind
    split
    · rename_i target hlookup
      exact hnext target (Or.inr ⟨hkind, hlookup⟩)
    · exact WithTop.one_ne_top
  · exact WithTop.add_ne_top.mpr ⟨WithTop.one_ne_top, greatest_ne_top hmembers⟩
  · exact WithTop.add_ne_top.mpr ⟨WithTop.one_ne_top, mean_ne_top hmembers⟩
  · split
    · rename_i content hcontent
      exact hnext content (Or.inl (Or.inr hcontent))
    · exact WithTop.one_ne_top

theorem above_congr {first second : Rule → Depth}
    (hbelow : ∀ next, grammar.Leads rule next → first next = second next) :
    above grammar rule first = above grammar rule second := by
  have hmembers : rule.members.map first = rule.members.map second :=
    List.map_congr_left fun member hmember => hbelow member (Or.inl (Or.inl hmember))
  unfold above
  split
  · rfl
  · rfl
  · rfl
  · rename_i hkind
    split
    · rename_i target hlookup
      rw [hbelow target (Or.inr ⟨hkind, hlookup⟩)]
    · rfl
  · rw [hmembers]
  · rw [hmembers]
  · split
    · rename_i content hcontent
      rw [hbelow content (Or.inl (Or.inr hcontent))]
    · rfl

end Depth

open scoped Classical in
/-- The depth of a rule: infinite if the rule is endless, and otherwise what it is above the depths
of the rules that the rule leads to. -/
noncomputable def depth (grammar : Grammar) (rule : Rule) : Depth :=
  if _hendless : grammar.Endless rule then ⊤
  else
    Depth.above grammar rule fun next =>
      if _hleads : grammar.Leads rule next then depth grammar next else 1
  termination_by (grammar.namesWithin rule, rule.height)
  decreasing_by exact measure_lt _hendless _hleads

theorem depth_of_endless (hendless : grammar.Endless rule) : grammar.depth rule = ⊤ := by
  rw [depth, dif_pos hendless]

theorem depth_of_not_endless (hendless : ¬ grammar.Endless rule) :
    grammar.depth rule = Depth.above grammar rule grammar.depth := by
  rw [depth, dif_neg hendless]
  exact Depth.above_congr fun next hleads => dif_pos hleads

/-- The depth of a rule is infinite only if the rule is endless. -/
theorem depth_eq_top_iff : grammar.depth rule = ⊤ ↔ grammar.Endless rule := by
  refine ⟨fun htop => ?_, depth_of_endless⟩
  by_contra hendless
  induction rule using depth.induct grammar with
  | case1 rule hrule => exact hendless hrule
  | case2 rule _ ih =>
      rw [depth_of_not_endless hendless] at htop
      exact Depth.above_ne_top (fun next hleads hnext =>
        ih next hleads hnext fun hback => hendless (hback.of_leads hleads)) htop

theorem one_le_depth (grammar : Grammar) (rule : Rule) : 1 ≤ grammar.depth rule := by
  induction rule using depth.induct grammar with
  | case1 rule hendless =>
      rw [depth_of_endless hendless]
      exact le_top
  | case2 rule hendless ih =>
      have hbelow : ∀ next, grammar.Leads rule next → 0 ≤ grammar.depth next :=
        fun next hleads => zero_le_one.trans (ih next hleads)
      rw [depth_of_not_endless hendless]
      -- in every case something that is not negative is added to one
      unfold Depth.above
      split
      · exact le_rfl
      · exact le_rfl
      · exact le_rfl
      · rename_i hkind
        split
        · rename_i target hlookup
          exact le_add_of_nonneg_right (hbelow target (Or.inr ⟨hkind, hlookup⟩))
        · exact le_rfl
      · exact le_add_of_nonneg_right (Depth.zero_le_greatest _)
      · refine le_add_of_nonneg_right (Depth.zero_le_mean fun depth hdepth => ?_)
        obtain ⟨member, hmember, rfl⟩ := List.mem_map.mp hdepth
        exact hbelow member (Or.inl (Or.inl hmember))
      · split
        · rename_i content hcontent
          exact le_add_of_nonneg_right (hbelow content (Or.inl (Or.inr hcontent)))
        · exact le_rfl

/-! ## The equations -/

/-- What a rule leads to, as its kind tells. -/
theorem Leads.cases_of_shaped (hshaped : rule.Shaped) (hleads : grammar.Leads rule next) :
    rule.kind = .symbol ∧ grammar.lookup rule.name = .ok next ∨
      (rule.kind = .sequence ∨ rule.kind = .choice) ∧ next ∈ rule.members ∨
      rule.content = some next := by
  rcases hleads with (hmember | hcontent) | hsymbol
  · refine Or.inr (Or.inl ⟨?_, hmember⟩)
    unfold Rule.Shaped at hshaped
    split at hshaped <;> simp_all
  · exact Or.inr (Or.inr hcontent)
  · exact Or.inl hsymbol

/-- **The depth of a rule is what it is above the depths right below it**, whether the rule is
endless or not: infinity comes up from an endless rule below. -/
theorem depth_eq (hshaped : rule.Shaped) :
    grammar.depth rule = Depth.above grammar rule grammar.depth := by
  by_cases hendless : grammar.Endless rule
  · -- some rule right below is endless, and every way to build a rule passes infinity on
    rw [depth_of_endless hendless]
    obtain ⟨next, hleads, hnext⟩ := hendless.exists_leads
    have htop := depth_of_endless hnext
    unfold Depth.above
    rcases hleads.cases_of_shaped hshaped with ⟨hkind, hlookup⟩ | ⟨hkind, hmember⟩ | hcontent
    · simp only [hkind, hlookup, htop, WithTop.add_top]
    · have hmem : ⊤ ∈ rule.members.map grammar.depth := List.mem_map.mpr ⟨next, hmember, htop⟩
      rcases hkind with hkind | hkind
      · simp only [hkind, Depth.greatest_eq_top hmem, WithTop.add_top]
      · simp only [hkind, Depth.mean_eq_top hmem, WithTop.add_top]
    · unfold Rule.Shaped at hshaped
      split <;> simp_all
  · exact depth_of_not_endless hendless

/-! ### The small grammars -/

theorem mem_items {rule : Rule} (hrule : rule ∈ items.rules) :
    rule = Items.letter ∨ rule = Items.digit ∨ rule = Items.item ∨ rule = Items.list := by
  simpa [items] using hrule

theorem items_symbolsDefined : items.SymbolsDefined := by
  intro rule hrule hkind
  rcases mem_items hrule with rfl | rfl | rfl | rfl <;> cases hkind

theorem chain_symbolsDefined : chain.SymbolsDefined := by
  intro rule hrule hkind
  have hcases : rule = Chain.letter ∨ rule = Chain.again ∨ rule = Chain.word := by
    simpa [chain] using hrule
  rcases hcases with rfl | rfl | rfl
  · cases hkind
  · exact ⟨Chain.word, rfl⟩
  · cases hkind

/-- A word may be a word again. -/
theorem depth_chain_word : chain.depth Chain.word = ⊤ := by
  have hreaches : chain.ReachesName Chain.word "word" := by
    refine ⟨Chain.again, .single (Or.inl (Or.inl ?_)), rfl, rfl⟩
    simp [Chain.word]
  exact depth_of_endless ⟨"word", Chain.word, hreaches, rfl, hreaches⟩

end Grammar

end GrammarFuzz

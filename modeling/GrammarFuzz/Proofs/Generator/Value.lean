import GrammarFuzz.Proofs.Generator.Estimates
import GrammarFuzz.Proofs.Number

/-!
# The value of an estimate

Rounded arithmetic has no depths of its own for estimates to meet, but each rule has one value that
it is estimated at all the same (`estimate`): infinity if it is endless, and otherwise what comes of
the values right below.  Estimates come upon an endless rule in two ways, through the symbol that is
a cycle at the time or through the rules below it, and the ways have to agree.  They do, because
infinity absorbs the depths it is computed with (`Absorbs`); this is where an arithmetic could let
the order of questions be seen.

The numbers that programs run on absorb (`number_absorbs`), as long as counts can be told from
infinity.
-/

namespace GrammarFuzz

/-- A machine word counts the members of every rule, as it counts the items of every list in
memory. -/
def Grammar.MembersCounted (grammar : Grammar) : Prop :=
  ∀ rule ∈ grammar.rules, rule.members.length < 2 ^ 63

namespace Generator

open Grammar

variable {S : Type} [Scalar S]

/-- The tame values are closed under the arithmetic of estimates, and infinity absorbs them. -/
structure Absorbs (tame : S → Prop) : Prop where
  zero : tame (Scalar.ofNat 0)
  one : tame (Scalar.ofNat 1)
  infinity : tame Scalar.infinity
  add : ∀ {a b : S}, tame a → tame b → tame (Scalar.add a b)
  div : ∀ {a : S} {count : Nat}, tame a → 0 < count → count < 2 ^ 63 →
    tame (Scalar.div a (Scalar.ofNat count))
  infinity_add : ∀ {a : S}, tame a → Scalar.add Scalar.infinity a = Scalar.infinity
  add_infinity : ∀ {a : S}, tame a → Scalar.add a Scalar.infinity = Scalar.infinity
  infinity_max : ∀ {a : S}, tame a → Scalar.max Scalar.infinity a = Scalar.infinity
  max_infinity : ∀ {a : S}, tame a → Scalar.max a Scalar.infinity = Scalar.infinity
  infinity_div : ∀ {count : Nat}, 0 < count → count < 2 ^ 63 →
    Scalar.div Scalar.infinity (Scalar.ofNat count) = (Scalar.infinity : S)

theorem max_tame {tame : S → Prop} {a b : S} (ha : tame a) (hb : tame b) :
    tame (Scalar.max a b) := by
  unfold Scalar.max
  split
  · exact hb
  · exact ha

theorem number_absorbs : Absorbs Number.IsDepth where
  zero := Int.le_refl 0
  one := Int.zero_le_ofNat 1
  infinity := Or.inl rfl
  add := Number.IsDepth.add
  div hdepth := hdepth.div
  infinity_add := Number.IsDepth.infinity_add
  add_infinity := Number.IsDepth.add_infinity
  infinity_max := Number.IsDepth.infinity_max
  max_infinity := Number.IsDepth.max_infinity
  infinity_div := Number.infinity_div

/-- Depths that are folded with an operation that is closed on them give a depth. -/
theorem foldl_tame {α : Type} {tame : α → Prop} {operation : α → α → α} {first : α}
    {depths : List α} (hclosed : ∀ {a b : α}, tame a → tame b → tame (operation a b))
    (hfirst : tame first) (hdepths : ∀ depth ∈ depths, tame depth) :
    tame (depths.foldl operation first) := by
  induction depths generalizing first with
  | nil => exact hfirst
  | cons depth rest ih =>
      have hdepth := hdepths depth (List.mem_cons_self ..)
      exact ih (hclosed hfirst hdepth) fun other hother =>
        hdepths other (List.mem_cons_of_mem _ hother)

/-- One infinity among depths that are folded is enough if the operation lets it absorb them. -/
theorem foldl_eq_infinity {tame : S → Prop} {operation : S → S → S} {first : S} {depths : List S}
    (hclosed : ∀ {a b : S}, tame a → tame b → tame (operation a b))
    (hleft : ∀ {a : S}, tame a → operation Scalar.infinity a = Scalar.infinity)
    (hright : ∀ {a : S}, tame a → operation a Scalar.infinity = Scalar.infinity)
    (hfirst : tame first) (hdepths : ∀ depth ∈ depths, tame depth)
    (hinfinity : Scalar.infinity ∈ first :: depths) :
    depths.foldl operation first = Scalar.infinity := by
  induction depths generalizing first with
  | nil => exact (List.mem_singleton.mp hinfinity).symm
  | cons depth rest ih =>
      have hdepth := hdepths depth (List.mem_cons_self ..)
      refine ih (hclosed hfirst hdepth) (fun other hother =>
        hdepths other (List.mem_cons_of_mem _ hother)) ?_
      rcases List.mem_cons.mp hinfinity with heq | hmem
      · rw [← heq, hleft hdepth]
        exact List.mem_cons_self ..
      · rcases List.mem_cons.mp hmem with heq | hmem
        · rw [← heq, hright hfirst]
          exact List.mem_cons_self ..
        · exact List.mem_cons_of_mem _ hmem

/-! ## What comes of depths below -/

section Above

variable {grammar : Grammar} {right right' : Rule → S → Prop} {tame : S → Prop} {rule : Rule}
  {depth : S}

/-- Only the rules right below matter to what comes of right depths. -/
theorem EstimatedAbove.mono (habove : EstimatedAbove grammar right rule depth)
    (hright : ∀ next depth, grammar.Leads rule next → right next depth → right' next depth) :
    EstimatedAbove grammar right' rule depth := by
  have hmembers : ∀ {depths : List S}, List.Forall₂ right rule.members depths →
      List.Forall₂ right' rule.members depths := by
    intro depths hdepths
    have hleads : ∀ member ∈ rule.members, grammar.Leads rule member :=
      fun member hmember => Or.inl (Or.inl hmember)
    exact ((List.forall₂_and_left _ _).mpr ⟨hleads, hdepths⟩).imp
      fun member depth hdepth => hright member depth hdepth.1 hdepth.2
  cases habove with
  | terminal hkind => exact .terminal hkind
  | symbol hkind hlookup hdepth =>
      exact .symbol hkind hlookup (hright _ _ (Or.inr ⟨hkind, hlookup⟩) hdepth)
  | sequence hkind hdepths => exact .sequence hkind (hmembers hdepths)
  | choice hkind hne hdepths => exact .choice hkind hne (hmembers hdepths)
  | content hkind hcontent hdepth =>
      exact .content hkind hcontent (hright _ _ (Or.inl (Or.inr hcontent)) hdepth)

/-- A terminal is not built around a content. -/
theorem not_isTerminal_of_content
    (hkind : rule.kind.isRepetition = true ∨ rule.kind.isWrapper = true) :
    rule.isTerminal = false := by
  unfold Rule.isTerminal
  cases hrule : rule.kind <;>
    simp_all [RuleKind.isTerminal, RuleKind.isRepetition, RuleKind.isWrapper]

/-- If there is one right depth for each rule, then one thing comes of them. -/
theorem EstimatedAbove.unique (hright : Relator.RightUnique right) {other : S}
    (habove : EstimatedAbove grammar right rule depth)
    (hother : EstimatedAbove grammar right rule other) : depth = other := by
  -- the kind of the rule tells which of the cases it is, so it is the same one twice
  cases habove with
  | terminal hkind =>
      cases hother with
      | terminal => rfl
      | content hkind' => simp [not_isTerminal_of_content hkind'] at hkind
      | symbol hkind' | sequence hkind' | choice hkind' =>
          simp [Rule.isTerminal, hkind', RuleKind.isTerminal] at hkind
  | symbol hkind hlookup hdepth =>
      cases hother with
      | symbol _ hlookup' hdepth' =>
          cases hlookup.symm.trans hlookup'
          rw [hright hdepth hdepth']
      | terminal hkind' => simp [Rule.isTerminal, hkind, RuleKind.isTerminal] at hkind'
      | sequence hkind' | choice hkind' => simp [hkind] at hkind'
      | content hkind' => simp [hkind, RuleKind.isRepetition, RuleKind.isWrapper] at hkind'
  | sequence hkind hdepths =>
      cases hother with
      | sequence _ hdepths' =>
          cases List.right_unique_forall₂' hright hdepths hdepths'
          rfl
      | terminal hkind' => simp [Rule.isTerminal, hkind, RuleKind.isTerminal] at hkind'
      | symbol hkind' | choice hkind' => simp [hkind] at hkind'
      | content hkind' => simp [hkind, RuleKind.isRepetition, RuleKind.isWrapper] at hkind'
  | choice hkind hne hdepths =>
      cases hother with
      | choice _ _ hdepths' =>
          cases List.right_unique_forall₂' hright hdepths hdepths'
          rfl
      | terminal hkind' => simp [Rule.isTerminal, hkind, RuleKind.isTerminal] at hkind'
      | symbol hkind' | sequence hkind' => simp [hkind] at hkind'
      | content hkind' => simp [hkind, RuleKind.isRepetition, RuleKind.isWrapper] at hkind'
  | content hkind hcontent hdepth =>
      cases hother with
      | content _ hcontent' hdepth' =>
          cases hcontent.symm.trans hcontent'
          rw [hright hdepth hdepth']
      | terminal hkind' => simp [not_isTerminal_of_content hkind] at hkind'
      | symbol hkind' | sequence hkind' | choice hkind' =>
          simp [hkind', RuleKind.isRepetition, RuleKind.isWrapper] at hkind

theorem not_leads_of_terminal (hshaped : rule.Shaped) (hkind : rule.isTerminal = true)
    {next : Rule} : ¬ grammar.Leads rule next := by
  unfold Rule.isTerminal at hkind
  intro hleads
  rcases hleads.cases_of_shaped hshaped with ⟨hsymbol, -⟩ | ⟨hlist | hlist, -⟩ | hcontent
  · simp [hsymbol, RuleKind.isTerminal] at hkind
  · simp [hlist, RuleKind.isTerminal] at hkind
  · simp [hlist, RuleKind.isTerminal] at hkind
  · unfold Rule.Shaped at hshaped
    cases hrule : rule.kind <;> simp_all [RuleKind.isTerminal]

theorem lookup_of_leads (hshaped : rule.Shaped) (hkind : rule.kind = .symbol) {next : Rule}
    (hleads : grammar.Leads rule next) : grammar.lookup rule.name = .ok next := by
  rcases hleads.cases_of_shaped hshaped with ⟨-, hlookup⟩ | ⟨hlist, -⟩ | hcontent
  · exact hlookup
  · simp [hkind] at hlist
  · simp [Rule.Shaped, hkind, hcontent] at hshaped

theorem mem_of_leads (hshaped : rule.Shaped) (hkind : rule.kind = .sequence ∨ rule.kind = .choice)
    {next : Rule} (hleads : grammar.Leads rule next) : next ∈ rule.members := by
  rcases hleads.cases_of_shaped hshaped with ⟨hsymbol, -⟩ | ⟨-, hmember⟩ | hcontent
  · simp [hsymbol] at hkind
  · exact hmember
  · rcases hkind with hkind | hkind <;> simp [Rule.Shaped, hkind, hcontent] at hshaped

theorem content_of_leads (hshaped : rule.Shaped)
    (hkind : rule.kind.isRepetition = true ∨ rule.kind.isWrapper = true) {next : Rule}
    (hleads : grammar.Leads rule next) : rule.content = some next := by
  rcases hleads.cases_of_shaped hshaped with ⟨hsymbol, -⟩ | ⟨hlist | hlist, -⟩ | hcontent
  · simp [hsymbol, RuleKind.isRepetition, RuleKind.isWrapper] at hkind
  · simp [hlist, RuleKind.isRepetition, RuleKind.isWrapper] at hkind
  · simp [hlist, RuleKind.isRepetition, RuleKind.isWrapper] at hkind
  · exact hcontent

section Tame

variable (hright : ∀ next depth, right next depth → tame depth)
  (hendless : ∀ next depth, right next depth → grammar.Endless next → depth = Scalar.infinity)

omit [Scalar S] in
include hright in
theorem tame_of_mem {members : List Rule} {depths : List S}
    (hdepths : List.Forall₂ right members depths) : ∀ depth ∈ depths, tame depth := by
  induction hdepths with
  | nil => simp
  | cons hfirst _ ih => exact List.forall_mem_cons.mpr ⟨hright _ _ hfirst, ih⟩

include hendless in
/-- An endless member makes one of the depths of the members infinite. -/
theorem infinity_mem {members : List Rule} {depths : List S}
    (hdepths : List.Forall₂ right members depths) {member : Rule} (hmember : member ∈ members)
    (hmember' : grammar.Endless member) : Scalar.infinity ∈ depths := by
  induction hdepths with
  | nil => exact absurd hmember List.not_mem_nil
  | cons hfirst _ ih =>
      rcases List.mem_cons.mp hmember with rfl | hmember
      · rw [hendless _ _ hfirst hmember']
        exact List.mem_cons_self ..
      · exact List.mem_cons_of_mem _ (ih hmember)

include hright in
theorem EstimatedAbove.of_tame (habsorbs : Absorbs tame) (hcount : rule.members.length < 2 ^ 63)
    (habove : EstimatedAbove grammar right rule depth) : tame depth := by
  have hdeeper : ∀ {depth : S}, tame depth → tame (deeper depth) :=
    fun hdepth => habsorbs.add habsorbs.one hdepth
  cases habove with
  | terminal => exact habsorbs.one
  | symbol hkind hlookup hdepth => exact hdeeper (hright _ _ hdepth)
  | sequence hkind hdepths =>
      obtain ⟨hfirst, hrest⟩ := List.forall_mem_cons.mp (tame_of_mem hright hdepths)
      exact hdeeper (foldl_tame max_tame hfirst hrest)
  | @choice depths hkind hne hdepths =>
      have hpositive := List.length_pos_iff.mpr hne
      have hsum : tame (Scalar.sum depths) :=
        foldl_tame habsorbs.add habsorbs.zero (tame_of_mem hright hdepths)
      rw [hdepths.length_eq] at hcount hpositive
      exact hdeeper (habsorbs.div hsum hpositive hcount)
  | content hkind hcontent hdepth => exact hdeeper (hright _ _ hdepth)

include hright hendless in
/-- What comes of depths below an endless rule is infinite. -/
theorem EstimatedAbove.eq_infinity (habsorbs : Absorbs tame) (hshaped : rule.Shaped)
    (hcount : rule.members.length < 2 ^ 63) (habove : EstimatedAbove grammar right rule depth)
    (hrule : grammar.Endless rule) : depth = Scalar.infinity := by
  have hdeeper : deeper Scalar.infinity = (Scalar.infinity : S) :=
    habsorbs.add_infinity habsorbs.one
  obtain ⟨next, hleads, hnext⟩ := hrule.exists_leads
  cases habove with
  | terminal hkind => exact absurd hleads (not_leads_of_terminal hshaped hkind)
  | symbol hkind hlookup hdepth =>
      cases hlookup.symm.trans (lookup_of_leads hshaped hkind hleads)
      rw [hendless _ _ hdepth hnext, hdeeper]
  | sequence hkind hdepths =>
      have hmember := mem_of_leads hshaped (Or.inl hkind) hleads
      have hinfinity := infinity_mem hendless hdepths hmember hnext
      obtain ⟨hfirst, hrest⟩ := List.forall_mem_cons.mp (tame_of_mem hright hdepths)
      rw [foldl_eq_infinity max_tame habsorbs.infinity_max habsorbs.max_infinity hfirst hrest
        hinfinity, hdeeper]
  | choice hkind hne hdepths =>
      have hmember := mem_of_leads hshaped (Or.inr hkind) hleads
      have hinfinity := infinity_mem hendless hdepths hmember hnext
      have hpositive := List.length_pos_iff.mpr hne
      rw [hdepths.length_eq] at hcount hpositive
      rw [Scalar.sum, foldl_eq_infinity habsorbs.add habsorbs.infinity_add habsorbs.add_infinity
        habsorbs.zero (tame_of_mem hright hdepths) (List.mem_cons_of_mem _ hinfinity),
        habsorbs.infinity_div hpositive hcount, hdeeper]
  | content hkind hcontent hdepth =>
      cases hcontent.symm.trans (content_of_leads hshaped hkind hleads)
      rw [hendless _ _ hdepth hnext, hdeeper]

end Tame

end Above

/-! ## The value of a rule -/

section Value

variable {grammar : Grammar} {tame : S → Prop} {rule : Rule}

open scoped Classical in
/-- The value that a rule is estimated at: infinity if the rule is endless, and otherwise what comes
of the values of the rules that the rule leads to. -/
noncomputable def estimate (grammar : Grammar) (rule : Rule) : S :=
  if _hendless : grammar.Endless rule then Scalar.infinity
  else if habove : ∃ depth, EstimatedAbove grammar
      (fun next depth => ∃ _hleads : grammar.Leads rule next, depth = estimate grammar next) rule
      depth then habove.choose
  else Scalar.infinity
  termination_by (grammar.namesWithin rule, rule.height)
  decreasing_by all_goals exact measure_lt _hendless _hleads

theorem estimate_of_endless (hendless : grammar.Endless rule) :
    (estimate grammar rule : S) = Scalar.infinity := by
  rw [estimate, dif_pos hendless]

theorem estimate_of_above {depth : S} (hendless : ¬ grammar.Endless rule)
    (habove : EstimatedAbove grammar (fun next depth => depth = estimate grammar next) rule depth) :
    depth = estimate grammar rule := by
  have habove' : EstimatedAbove grammar
      (fun next depth => ∃ _ : grammar.Leads rule next, depth = estimate grammar next) rule depth :=
    habove.mono fun next depth hleads hdepth => ⟨hleads, hdepth⟩
  have hexists : ∃ depth, EstimatedAbove grammar
      (fun next depth => ∃ _ : grammar.Leads rule next, depth = estimate grammar next) rule depth :=
    ⟨depth, habove'⟩
  rw [estimate, dif_neg hendless, dif_pos hexists]
  refine habove'.unique ?_ hexists.choose_spec
  rintro next first second ⟨-, rfl⟩ ⟨-, rfl⟩
  rfl

/-- **The values of rules are what estimates come to.** -/
theorem isEstimate_estimate (habsorbs : Absorbs tame) (hwell : grammar.WellFormed)
    (hdefined : grammar.SymbolsDefined)
    (hcounted : grammar.MembersCounted) :
    IsEstimate grammar (fun _ => True) fun rule depth =>
      depth = estimate grammar rule ∧ tame depth where
  leads _ _ := trivial
  defined hrule _ := hdefined _ hrule
  endless _ _ hendless := ⟨(estimate_of_endless hendless).symm, habsorbs.infinity⟩
  above := by
    intro rule depth hrule _ habove
    have hcount := hcounted rule hrule
    have htame : ∀ (next : Rule) (depth : S), depth = estimate grammar next ∧ tame depth →
        tame depth := fun _ _ => And.right
    refine ⟨?_, habove.of_tame htame habsorbs hcount⟩
    by_cases hendless : grammar.Endless rule
    · have hbelow : ∀ (next : Rule) (depth : S), depth = estimate grammar next ∧ tame depth →
          grammar.Endless next → depth = Scalar.infinity := by
        rintro next depth ⟨hdepth, -⟩ hnext
        rw [hdepth, estimate_of_endless hnext]
      rw [estimate_of_endless hendless]
      exact habove.eq_infinity htame hbelow habsorbs (hwell.arena.shaped hrule) hcount hendless
    · exact estimate_of_above hendless (habove.mono fun _ _ _ => And.left)

end Value

end Generator

end GrammarFuzz

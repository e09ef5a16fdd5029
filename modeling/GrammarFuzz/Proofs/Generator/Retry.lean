import GrammarFuzz.Proofs.Generator.Entries
import GrammarFuzz.Proofs.Grammar.Descent

/-!
# Estimates that fail once and again

An estimate that fails leaves what its parts have learned, and nothing about the rules that it has
failed for, or so it should be.  There is one exception.  A rule may be computed again while its own
computation is open, and the inner computation may succeed, because a symbol is infinite below its
own name, before the outer one comes to the symbol that stands for no rule.  Then the rule is left
at infinity, and the next call returns that.  The main result is that there is no other way
(`expectedDepth_again`): a rule that is not left at infinity is not left at all, and the next
estimate fails with the same error and changes nothing.

## Strategy

The second estimate follows the first one down to the symbol that stands for no rule.  What comes
before on the way is kept by now.  What might lead it astray is a rule on the way that has been
stored all the same, by an inner computation.  Here the shape of a document is needed: each rule is
a part of one rule at most, and it is a part of none if a name stands for it.  So an inner
computation of a part is within an inner computation of its rule (`Estimation.exists_inner`).  That
one has failed as well, for otherwise the rule were stored, and by induction on the levels that
remain it fails in the same way from where the first estimate has ended.
-/

namespace GrammarFuzz.Generator

open Grammar

/-! ## Estimates as they are run -/

section Run

variable {S : Type} [Scalar S] {grammar : Grammar} {rule : Rule} {stack : List String}
  {session : Session S}

/-- What an estimation tells is what is done, if as many levels are allowed as remain. -/
theorem Estimation.outcome_eq {ending : Ending S S} {opened levels : Nat}
    (hestimation : Estimation grammar rule stack session ending opened)
    (hlevels : grammar.remainingLevels rule stack ≤ levels) :
    outcome (expectedDepthWithin grammar levels rule stack) session = ending := by
  refine @Estimation.rec S _ grammar
    (fun rule stack session ending _ _ => ∀ levels, grammar.remainingLevels rule stack ≤ levels →
      outcome (expectedDepthWithin grammar levels rule stack) session = ending)
    (fun rule stack session ending _ _ => ∀ levels,
      grammar.remainingLevels rule stack ≤ levels + 1 → ∃ compute : Gen S S,
        expectedDepthWithin grammar (levels + 1) rule stack = keepDepth rule compute ∧
          outcome compute session = ending)
    (fun rules stack session ending _ _ => ∀ levels,
      (∀ rule ∈ rules, grammar.remainingLevels rule stack ≤ levels) →
        outcome (rules.mapM (expectedDepthWithin grammar levels · stack)) session = ending)
    ?kept ?computed ?terminal ?cycle ?undefined ?symbol ?sequence ?choice ?content ?nil ?cons
    ?failed rule stack session ending opened hestimation levels hlevels
  case kept =>
    intro rule stack session depth hentry levels hlevels
    have hpositive := grammar.remainingLevels_pos rule stack
    obtain ⟨levels, rfl⟩ := Nat.exists_eq_add_one_of_ne_zero (by omega : levels ≠ 0)
    rw [expectedDepthWithin, outcome_keepDepth, hentry]
  case computed =>
    intro rule stack session ending opened hentry _ hcompute levels hlevels
    have hpositive := grammar.remainingLevels_pos rule stack
    obtain ⟨levels, rfl⟩ := Nat.exists_eq_add_one_of_ne_zero (by omega : levels ≠ 0)
    obtain ⟨compute, hstep, houtcome⟩ := hcompute levels hlevels
    rw [hstep, outcome_keepDepth, hentry]
    show outcome (compute >>= keep rule) session = _
    rw [outcome_bind_eq_andThen, houtcome]
  case terminal => exact fun hkind levels _ => ⟨_, expectedDepthWithin_terminal hkind levels _, rfl⟩
  case cycle =>
    intro rule stack session name hsymbol hname levels _
    refine ⟨_, expectedDepthWithin_symbol hsymbol.1 hsymbol.2 levels _, ?_⟩
    rw [if_pos (List.contains_iff_mem.mpr hname)]
    rfl
  case undefined =>
    exact fun hkind hname hlookup levels _ =>
      ⟨_, expectedDepthWithin_undefined hkind hname hlookup levels, rfl⟩
  case symbol =>
    intro rule target stack session name _ _ hsymbol hname hresolve _ hbelow levels hlevels
    refine ⟨_, expectedDepthWithin_symbol hsymbol.1 hsymbol.2 levels _, ?_⟩
    have hlt := remainingLevels_lt_of_push hname hresolve rule
    rw [if_neg (fun hmem => hname (List.contains_iff_mem.mp hmem)),
      resolve_eq_pure (lookup_text hresolve), pure_bind, outcome_bind_eq_andThen,
      hbelow levels (by omega)]
  case sequence =>
    intro rule stack session _ _ hkind _ hmembers levels hlevels
    refine ⟨_, expectedDepthWithin_sequence hkind levels _, ?_⟩
    rw [outcome_bind_eq_andThen, hmembers levels fun member hmember => ?_]
    have hlt := grammar.remainingLevels_lt_of_hasPart (Or.inl hmember : rule.HasPart member) stack
    omega
  case choice =>
    intro rule stack session _ _ hkind _ hmembers levels hlevels
    refine ⟨_, expectedDepthWithin_choice hkind levels _, ?_⟩
    rw [outcome_bind_eq_andThen, hmembers levels fun member hmember => ?_]
    have hlt := grammar.remainingLevels_lt_of_hasPart (Or.inl hmember : rule.HasPart member) stack
    omega
  case content =>
    intro rule content stack session _ _ hkind hcontent _ hbelow levels hlevels
    refine ⟨_, expectedDepthWithin_content hkind hcontent levels _, ?_⟩
    have hlt := grammar.remainingLevels_lt_of_hasPart (Or.inr hcontent : rule.HasPart content) stack
    rw [outcome_bind_eq_andThen, hbelow levels (by omega)]
  case nil => exact fun _ _ => rfl
  case cons =>
    intro first rest stack session middle depth _ _ _ _ _ hfirst hrest levels hlevels
    obtain ⟨hhead, htail⟩ := List.forall_mem_cons.mp hlevels
    rw [List.mapM_cons, outcome_bind_ok (hfirst levels hhead), outcome_bind_eq_andThen,
      hrest levels htail]
  case failed =>
    intro first rest stack session middle error _ _ hfirst levels hlevels
    rw [List.mapM_cons, outcome_bind_error (hfirst levels (hlevels first List.mem_cons_self))]

omit [Scalar S] in
theorem andThen_eq_error {α β : Type} {ending : Ending S α} {next : α → Gen S β}
    {error : GenerationError} {last : Session S}
    (hending : andThen ending next = (.error error, last)) :
    ending = (.error error, last) ∨ ∃ value middle, ending = (.ok value, middle) ∧
      outcome (next value) middle = (.error error, last) := by
  obtain ⟨answer, middle⟩ := ending
  cases answer with
  | ok value => exact Or.inr ⟨value, middle, rfl, hending⟩
  | error failed =>
      cases hending
      exact Or.inl rfl

end Run

variable {decay : ℚ → ℚ} {grammar : Grammar} {rule target : Rule} {stack : List String}
  {session : Session (Exact decay)}

/-! ## Where an entry comes from -/

section Gains

variable {α β : Type}

/-- What succeeds is stored. -/
theorem Estimation.stored {depth : Exact decay} {last : Session (Exact decay)} {opened : Nat}
    (hestimation : Estimation grammar rule stack session (.ok depth, last) opened) :
    last.depths.get? rule.index = some depth := by
  generalize hending : (Except.ok depth, last) = ending at hestimation
  cases hestimation with
  | kept hentry =>
      cases hending
      exact hentry
  | @computed _ _ _ ending _ _ hcompute =>
      obtain ⟨answer, middle⟩ := ending
      cases answer with
      | error failed => cases hending
      | ok value =>
          cases hending
          exact Table.get?_set ..

/-- On the way of an estimate of `rule`, a rule that leads to the target was estimated, from the
session `begun` and with no fewer symbols on the stack.  If that one failed, then so did all, at
once; if not, then its depth was stored. -/
structure EntersBy (grammar : Grammar) (target source : Rule) (below : List String)
    (begun : Session (Exact decay)) (result : Ending (Exact decay) (Exact decay)) (rule : Rule)
    (stack : List String) (ending : Ending (Exact decay) α) : Prop where
  leads : grammar.Leads source target
  reaches : grammar.Reaches rule source
  fresh : ∀ name, source.IsSymbol name → name ∉ below
  stack_subset : stack ⊆ below
  levels_le : grammar.remainingLevels source below ≤ grammar.remainingLevels rule stack
  source_mem : source ∈ grammar.rules
  holds : Holds ∅ begun
  estimation : ∃ opened, Estimation grammar source below begun result opened
  failed : ∀ error, result.1 = .error error → ending.1 = .error error ∧ ending.2 = result.2
  stored : ∀ depth, result.1 = .ok depth → ending.2.depths.get? source.index ≠ none

/-- On the way of an estimate of `rule` the target was entered from a rule that leads to it. -/
def Enters (grammar : Grammar) (target rule : Rule) (stack : List String)
    (ending : Ending (Exact decay) α) : Prop :=
  ∃ source below begun result,
    EntersBy grammar target source below begun result rule stack ending

/-- The rule itself enters what it leads to. -/
theorem Enters.of_estimation {ending : Ending (Exact decay) (Exact decay)} {opened : Nat}
    (hleads : grammar.Leads rule target) (hfresh : ∀ name, rule.IsSymbol name → name ∉ stack)
    (hrule : rule ∈ grammar.rules) (hholds : Holds ∅ session)
    (hestimation : Estimation grammar rule stack session ending opened) :
    Enters grammar target rule stack ending :=
  ⟨rule, stack, session, ending,
    { leads := hleads
      reaches := .refl
      fresh := hfresh
      stack_subset := List.Subset.refl _
      levels_le := le_rfl
      source_mem := hrule
      holds := hholds
      estimation := ⟨_, hestimation⟩
      failed := fun _ herror => ⟨herror, rfl⟩
      stored := by
        intro depth hdepth
        obtain ⟨answer, last⟩ := ending
        cases hdepth
        rw [hestimation.stored]
        exact nofun }⟩

/-- What goes on has the same way behind it. -/
theorem Enters.mono {ending : Ending (Exact decay) α} {ending' : Ending (Exact decay) β}
    {next : Rule} {names : List String} (henters : Enters grammar target next names ending)
    (hreaches : grammar.Reaches rule next) (hstack : stack ⊆ names)
    (hlevels : grammar.remainingLevels next names ≤ grammar.remainingLevels rule stack)
    (hfailed : ∀ error, ending.1 = .error error → ending'.1 = .error error ∧ ending'.2 = ending.2)
    (hstored : ∀ index, ending.2.depths.get? index ≠ none → ending'.2.depths.get? index ≠ none) :
    Enters grammar target rule stack ending' := by
  obtain ⟨source, below, begun, result, henters⟩ := henters
  exact ⟨source, below, begun, result,
    { leads := henters.leads
      reaches := hreaches.trans henters.reaches
      fresh := henters.fresh
      stack_subset := List.Subset.trans hstack henters.stack_subset
      levels_le := henters.levels_le.trans hlevels
      source_mem := henters.source_mem
      holds := henters.holds
      estimation := henters.estimation
      failed := by
        intro error herror
        obtain ⟨hanswer, hlast⟩ := henters.failed error herror
        obtain ⟨hanswer', hlast'⟩ := hfailed error hanswer
        exact ⟨hanswer', hlast'.trans hlast⟩
      stored := fun depth hdepth => hstored _ (henters.stored depth hdepth) }⟩

/-- The step changes nothing but the value. -/
def IsQuiet (next : α → Gen (Exact decay) β) : Prop :=
  ∀ value session, (outcome (next value) session).2 = session

theorem IsQuiet.andThen_snd {next : α → Gen (Exact decay) β} (hnext : IsQuiet next)
    (ending : Ending (Exact decay) α) : (andThen ending next).2 = ending.2 := by
  obtain ⟨answer, after⟩ := ending
  cases answer with
  | ok value => exact hnext value after
  | error error => rfl

theorem isQuiet_deeper :
    IsQuiet fun depth => (pure (deeper depth) : Gen (Exact decay) (Exact decay)) :=
  fun _ _ => rfl

theorem isQuiet_deepest :
    IsQuiet fun depths =>
      (do return deeper (← deepest depths) : Gen (Exact decay) (Exact decay)) := by
  intro depths session
  cases depths <;> rfl

theorem isQuiet_mean :
    IsQuiet fun depths =>
      (do return deeper (← meanDepth depths) : Gen (Exact decay) (Exact decay)) := by
  intro depths session
  cases depths <;> rfl

/-- A way behind what an estimate goes on from is one behind its ending. -/
theorem Enters.andThen {ending : Ending (Exact decay) α} {next : Rule} {names : List String}
    (henters : Enters grammar target next names ending) (hreaches : grammar.Reaches rule next)
    (hstack : stack ⊆ names)
    (hlevels : grammar.remainingLevels next names ≤ grammar.remainingLevels rule stack)
    {step : α → Gen (Exact decay) β} (hstep : IsQuiet step) :
    Enters grammar target rule stack (andThen ending step) := by
  refine henters.mono hreaches hstack hlevels (fun error herror => ?_) fun index hindex => ?_
  · obtain ⟨answer, after⟩ := ending
    cases herror
    exact ⟨rfl, rfl⟩
  · rwa [hstep.andThen_snd]

/-- What has entered a part, or what goes on from the part, belongs to the rule. -/
theorem leads_or_enters_of_part {ending : Ending (Exact decay) α} {part : Rule}
    (hpart : rule.HasPart part) (hkind : rule.kind ≠ .symbol)
    (hcases : part = target ∨ Enters grammar target part stack ending)
    {step : α → Gen (Exact decay) β} (hstep : IsQuiet step) :
    (grammar.Leads rule target ∧ ∀ name, rule.IsSymbol name → name ∉ stack) ∨
      Enters grammar target rule stack (andThen ending step) := by
  refine hcases.imp ?_ fun henters => ?_
  · rintro rfl
    exact ⟨Or.inl hpart, fun name hsymbol => absurd hsymbol.1 hkind⟩
  · exact henters.andThen (.single (Or.inl hpart)) (List.Subset.refl _)
      (remainingLevels_lt_of_hasPart hpart stack).le hstep

/-- **Where an entry comes from.**  If an estimate gains an entry for the target, then it is the
estimate of the target and has succeeded, or it has entered the target from another rule. -/
theorem Estimation.enters (hwell : grammar.WellFormed) (htarget : target ∈ grammar.rules)
    {ending : Ending (Exact decay) (Exact decay)} {opened : Nat}
    (hestimation : Estimation grammar rule stack session ending opened)
    (hrule : rule ∈ grammar.rules) (hholds : Holds ∅ session)
    (hgains : Gains target session ending.2) :
    (rule = target ∧ ∃ depth, ending.1 = .ok depth) ∨ Enters grammar target rule stack ending := by
  -- below a computation it is the rule itself that has entered the target, or a rule further down
  refine @Estimation.rec (Exact decay) _ grammar
    (fun rule stack session ending _ _ => rule ∈ grammar.rules → Holds ∅ session →
      Gains target session ending.2 → (rule = target ∧ ∃ depth, ending.1 = .ok depth) ∨
        Enters grammar target rule stack ending)
    (fun rule stack session ending _ _ => rule ∈ grammar.rules → Holds ∅ session →
      Gains target session ending.2 →
        (grammar.Leads rule target ∧ ∀ name, rule.IsSymbol name → name ∉ stack) ∨
          Enters grammar target rule stack ending)
    (fun rules stack session ending _ _ => (∀ rule ∈ rules, rule ∈ grammar.rules) →
      Holds ∅ session → Gains target session ending.2 →
        ∃ rule ∈ rules, rule = target ∨ Enters grammar target rule stack ending)
    ?kept ?computed ?terminal ?cycle ?undefined ?symbol ?sequence ?choice ?content ?nil ?cons
    ?failed rule stack session ending opened hestimation hrule hholds hgains
  case kept => exact fun _ _ _ hgains => absurd hgains (not_gains _ _)
  case computed =>
    intro rule stack session ending opened hentry hcompute hbelow hrule hholds hgains
    have hself : (grammar.Leads rule target ∧ ∀ name, rule.IsSymbol name → name ∉ stack) →
        Enters grammar target rule stack (Generator.andThen ending (keep rule)) := fun hleads =>
      .of_estimation hleads.1 hleads.2 hrule hholds (.computed hentry hcompute)
    obtain ⟨answer, after⟩ := ending
    cases answer with
    | error error => exact Or.inr ((hbelow hrule hholds hgains).elim hself id)
    | ok depth =>
        rcases hgains.of_set hwell htarget hrule with rfl | hgains
        · exact Or.inl ⟨rfl, depth, rfl⟩
        · refine Or.inr ((hbelow hrule hholds hgains).elim hself fun henters => ?_)
          refine henters.mono .refl (List.Subset.refl _) le_rfl nofun fun index hindex => ?_
          change (after.depths.set rule.index depth).get? index ≠ none
          by_cases heq : index = rule.index
          · rw [heq, Table.get?_set]
            exact nofun
          · rwa [Table.get?_set_of_ne _ heq]
  case terminal => exact fun _ _ _ hgains => absurd hgains (not_gains _ _)
  case cycle => exact fun _ _ _ _ hgains => absurd hgains (not_gains _ _)
  case undefined => exact fun _ _ _ _ _ hgains => absurd hgains (not_gains _ _)
  case symbol =>
    intro rule next stack session name ending _ hsymbol hname hresolve _ hbelow hrule hholds hgains
    have hleads : grammar.Leads rule next := Or.inr ⟨hsymbol.1, by
      rw [hsymbol.2]
      exact lookup_text hresolve⟩
    rw [isQuiet_deeper.andThen_snd] at hgains
    refine (hbelow (hwell.leads_mem hrule hleads) hholds hgains).imp ?_ fun henters => ?_
    · rintro ⟨rfl, -⟩
      refine ⟨hleads, fun other hother => ?_⟩
      rwa [Json.text.inj (hother.2.symm.trans hsymbol.2)]
    · exact henters.andThen (.single hleads) (List.subset_cons_self _ _)
        (remainingLevels_lt_of_push hname hresolve rule).le isQuiet_deeper
  case sequence =>
    intro rule stack session ending _ hkind _ hmembers hrule hholds hgains
    rw [isQuiet_deepest.andThen_snd] at hgains
    obtain ⟨member, hmember, hcases⟩ := hmembers
      (fun member hmember => hwell.arena.part_mem hrule (Or.inl hmember)) hholds hgains
    exact leads_or_enters_of_part (Or.inl hmember) (by simp [hkind]) hcases isQuiet_deepest
  case choice =>
    intro rule stack session ending _ hkind _ hmembers hrule hholds hgains
    rw [isQuiet_mean.andThen_snd] at hgains
    obtain ⟨member, hmember, hcases⟩ := hmembers
      (fun member hmember => hwell.arena.part_mem hrule (Or.inl hmember)) hholds hgains
    exact leads_or_enters_of_part (Or.inl hmember) (by simp [hkind]) hcases isQuiet_mean
  case content =>
    intro rule content stack session ending _ hkind hcontent _ hbelow hrule hholds hgains
    rw [isQuiet_deeper.andThen_snd] at hgains
    have hcases := hbelow (hwell.arena.part_mem hrule (Or.inr hcontent)) hholds hgains
    refine leads_or_enters_of_part (Or.inr hcontent) (fun hsymbol => ?_) (hcases.imp_left And.left)
      isQuiet_deeper
    simp [hsymbol, RuleKind.isRepetition, RuleKind.isWrapper] at hkind
  case nil => exact fun _ _ hgains => absurd hgains (not_gains _ _)
  case cons =>
    intro first rest stack session middle depth ending _ _ hfirst hrest hhead htail hrules hholds
      hgains
    obtain ⟨hmem, hmems⟩ := List.forall_mem_cons.mp hrules
    have hquiet : IsQuiet fun depths : List (Exact decay) =>
        (pure (depth :: depths) : Gen (Exact decay) (List (Exact decay))) := fun _ _ => rfl
    rw [hquiet.andThen_snd] at hgains
    have hmiddle := (hfirst.settles hwell (.empty hmem stack) hholds).holds
    rcases hgains.of_trans middle with hgains | hgains
    · -- what the first rule has stored is not lost on the way through the others
      have hlasts := (hrest.settles hwell (fun rule hrule => .empty (hmems rule hrule) stack)
        hmiddle).lasts
      refine ⟨first, List.mem_cons_self, (hhead hmem hholds hgains).imp And.left fun henters => ?_⟩
      refine henters.mono .refl (List.Subset.refl _) le_rfl nofun fun index hindex => ?_
      obtain ⟨value, hvalue⟩ := Option.ne_none_iff_exists'.mp hindex
      rw [hquiet.andThen_snd, hlasts index value hvalue]
      exact nofun
    · obtain ⟨rule, hrule, hcases⟩ := htail hmems hmiddle hgains
      refine ⟨rule, List.mem_cons_of_mem _ hrule, hcases.imp_right fun henters => ?_⟩
      exact henters.andThen .refl (List.Subset.refl _) le_rfl hquiet
  case failed =>
    intro first rest stack session middle error _ _ hhead hrules hholds hgains
    have hcases := hhead (hrules first List.mem_cons_self) hholds hgains
    refine ⟨first, List.mem_cons_self, hcases.imp And.left fun henters => ?_⟩
    refine henters.mono .refl (List.Subset.refl _) le_rfl (fun _ herror => ?_) fun _ => id
    cases herror
    exact ⟨rfl, rfl⟩

end Gains

/-! ## Failing again -/

section Again

variable {last : Session (Exact decay)} {error : GenerationError} {opened : Nat}
  {names : List String}

/-- From the session that it has left, the estimate fails again and leaves the same. -/
def FailsFrom (grammar : Grammar) (error : GenerationError) (last : Session (Exact decay))
    (rule : Rule) (stack : List String) : Prop :=
  ∃ opened, Estimation grammar rule stack last (.error error, last) opened

theorem FailsFrom.of_computation (hentry : last.depths.get? rule.index = none)
    (hcompute : Computation grammar rule stack last (.error error, last) opened) :
    FailsFrom grammar error last rule stack :=
  ⟨_, .computed hentry hcompute⟩

/-- What fails has been computed. -/
theorem Estimation.exists_computation
    (hestimation : Estimation grammar rule stack session (.error error, last) opened) :
    session.depths.get? rule.index = none ∧
      ∃ below, Computation grammar rule stack session (.error error, last) below := by
  generalize hending : (Except.error error, last) = ending at hestimation
  cases hestimation with
  | kept => cases hending
  | computed hentry hcompute =>
      rcases andThen_eq_error hending.symm with rfl | ⟨depth, middle, -, houtcome⟩
      · exact ⟨hentry, _, hcompute⟩
      · cases houtcome

/-- The first of some estimates that fails, and those in front of it. -/
theorem Estimations.exists_failed {rules : List Rule}
    (hestimations : Estimations grammar rules stack session (.error error, last) opened) :
    ∃ front rule rest depths middle, rules = front ++ rule :: rest ∧
      (∃ opened, Estimations grammar front stack session (.ok depths, middle) opened) ∧
      ∃ opened, Estimation grammar rule stack middle (.error error, last) opened := by
  induction rules generalizing session opened with
  | nil => cases hestimations
  | cons first rest ih =>
      generalize hending : (Except.error error, last) = ending at hestimations
      cases hestimations with
      | failed hfirst =>
          cases hending
          exact ⟨[], first, rest, [], session, rfl, ⟨_, .nil⟩, _, hfirst⟩
      | @cons _ _ _ _ middle depth _ _ _ hfirst hrest =>
          rcases andThen_eq_error hending.symm with rfl | ⟨_, _, -, houtcome⟩
          · obtain ⟨front, rule, others, depths, after, rfl, ⟨_, hfront⟩, hrule⟩ := ih hrest
            exact ⟨first :: front, rule, others, depth :: depths, after, rfl,
              ⟨_, .cons hfirst hfront⟩, hrule⟩
          · cases houtcome

/-- Rules that were estimated are stored from then on. -/
theorem Estimations.stored (hwell : grammar.WellFormed) {rules : List Rule}
    {depths : List (Exact decay)} (hrules : ∀ rule ∈ rules, rule ∈ grammar.rules)
    (hholds : Holds ∅ session)
    (hestimations : Estimations grammar rules stack session (.ok depths, last) opened) :
    ∀ rule ∈ rules, ∃ depth, last.depths.get? rule.index = some depth := by
  induction rules generalizing session depths opened with
  | nil => simp
  | cons first rest ih =>
      obtain ⟨hmem, hmems⟩ := List.forall_mem_cons.mp hrules
      generalize hending : (Except.ok depths, last) = ending at hestimations
      cases hestimations with
      | failed => cases hending
      | @cons _ _ _ _ middle depth ending _ _ hfirst hrest =>
          obtain ⟨answer, after⟩ := ending
          cases answer with
          | error failed => cases hending
          | ok others =>
              cases hending
              have hmiddle := (hfirst.settles hwell (.empty hmem stack) hholds).holds
              have hlasts := (hrest.settles hwell
                (fun rule hrule => .empty (hmems rule hrule) stack) hmiddle).lasts
              exact List.forall_mem_cons.mpr
                ⟨⟨depth, hlasts _ _ hfirst.stored⟩, ih hmems hmiddle hrest⟩

/-- Behind rules that are stored the first one that fails comes at once. -/
theorem FailsFrom.members {front rest : List Rule}
    (hfront : ∀ member ∈ front, ∃ depth, last.depths.get? member.index = some depth)
    (hfails : FailsFrom grammar error last rule stack) :
    ∃ opened,
      Estimations grammar (front ++ rule :: rest) stack last (.error error, last) opened := by
  obtain ⟨opened, hfails⟩ := hfails
  induction front with
  | nil => exact ⟨_, .failed hfails⟩
  | cons first others ih =>
      obtain ⟨⟨depth, hdepth⟩, hothers⟩ := List.forall_mem_cons.mp hfront
      obtain ⟨_, hrest⟩ := ih hothers
      exact ⟨_, .cons (.kept hdepth) hrest⟩

/-- If the members of a rule fail, then one of them does, and the others in front of it are kept. -/
theorem Estimations.exists_failed_member (hwell : grammar.WellFormed)
    (hestimations : Estimations grammar rule.members stack session (.error error, last) opened)
    (hrule : rule ∈ grammar.rules) (hholds : Holds ∅ session) :
    ∃ member middle opened, rule.HasPart member ∧ Holds ∅ middle ∧
      Estimation grammar member stack middle (.error error, last) opened ∧
      ∀ names, FailsFrom grammar error last member names →
        ∃ opened, Estimations grammar rule.members names last (.error error, last) opened := by
  obtain ⟨front, member, rest, depths, middle, hsplit, ⟨_, hfront⟩, opened, hfails⟩ :=
    hestimations.exists_failed
  have hparts : ∀ part ∈ front ++ member :: rest, rule.HasPart part := fun part hmem =>
    Or.inl (hsplit ▸ hmem)
  have hfronts : ∀ part ∈ front, part ∈ grammar.rules := fun part hmem =>
    hwell.arena.part_mem hrule (hparts part (List.mem_append_left _ hmem))
  have hmember : rule.HasPart member := hparts member (by simp)
  have hmiddle := (hfront.settles hwell (fun part hmem => .empty (hfronts part hmem) stack)
    hholds).holds
  have hlasts := (hfails.settles hwell
    (.empty (hwell.arena.part_mem hrule hmember) stack) hmiddle).lasts
  refine ⟨member, middle, opened, hmember, hmiddle, hfails, fun names hagain => ?_⟩
  rw [hsplit]
  refine hagain.members fun part hmem => ?_
  obtain ⟨depth, hdepth⟩ := hfront.stored hwell hfronts hholds part hmem
  exact ⟨depth, hlasts _ _ hdepth⟩

/-- What a name stands for is not stored on the way while the name is on the stack. -/
theorem Estimation.not_stored (hloaded : grammar.IsLoaded) {name : String}
    (hresolve : grammar.resolve? name = some rule) (hname : name ∈ stack)
    (hestimation : Estimation grammar rule stack session (.error error, last) opened)
    (hholds : Holds ∅ session) : last.depths.get? rule.index = none := by
  have hrule := hloaded.wellFormed.lookup_mem (lookup_text hresolve)
  by_contra hstored
  rcases hestimation.enters hloaded.wellFormed hrule hrule hholds
    ⟨hestimation.exists_computation.1, hstored⟩ with
    ⟨-, _, hdepth⟩ | ⟨source, below, begun, result, henters⟩
  · cases hdepth
  · -- it is a part of no rule, and another symbol for it has the same name
    rcases henters.leads with hpart | ⟨hkind, hlookup⟩
    · exact hloaded.not_hasPart_of_resolve? hresolve henters.source_mem hpart
    · obtain ⟨other, hother, hresolve'⟩ := resolve?_of_lookup hlookup
      obtain rfl := hloaded.eq_of_resolve? hresolve hresolve'
      exact henters.fresh name ⟨hkind, hother⟩ (henters.stack_subset hname)

/-- If a part was stored on the way and its rule was not, then the rule was estimated on the way,
and that has failed. -/
theorem Estimation.exists_inner (hloaded : grammar.IsLoaded) {part : Rule}
    (hrule : rule ∈ grammar.rules) (hpart : rule.HasPart part)
    (hestimation : Estimation grammar part stack session (.error error, last) opened)
    (hholds : Holds ∅ session) (hentry : last.depths.get? rule.index = none)
    (hstored : last.depths.get? part.index ≠ none) :
    ∃ below begun, stack ⊆ below ∧ Holds ∅ begun ∧
      grammar.remainingLevels rule below ≤ grammar.remainingLevels part stack ∧
      ∃ opened, Estimation grammar rule below begun (.error error, last) opened := by
  have hmem := hloaded.wellFormed.arena.part_mem hrule hpart
  rcases hestimation.enters hloaded.wellFormed hmem hmem hholds
    ⟨hestimation.exists_computation.1, hstored⟩ with
    ⟨-, _, hdepth⟩ | ⟨source, below, begun, ⟨answer, after⟩, henters⟩
  · cases hdepth
  · obtain rfl : source = rule := by
      rcases henters.leads with hother | ⟨-, hlookup⟩
      · exact hloaded.eq_of_hasPart henters.source_mem hrule hother hpart
      · obtain ⟨name, -, hresolve⟩ := resolve?_of_lookup hlookup
        exact absurd hpart (hloaded.not_hasPart_of_resolve? hresolve hrule)
    cases answer with
    | ok depth => exact absurd hentry (henters.stored depth rfl)
    | error failed =>
        obtain ⟨herror, rfl⟩ := henters.failed failed rfl
        cases herror
        exact ⟨below, begun, henters.stack_subset, henters.holds, henters.levels_le,
          henters.estimation⟩

/-- **An estimate that has failed and left nothing for its rule fails again**, from the session
that it has left and also with fewer symbols on the stack. -/
theorem Estimation.fails_again (hloaded : grammar.IsLoaded) (haccess : IsAccess error)
    (hestimation : Estimation grammar rule stack session (.error error, last) opened)
    (hrule : rule ∈ grammar.rules) (hholds : Holds ∅ session) (hnames : names ⊆ stack)
    (hentry : last.depths.get? rule.index = none) : FailsFrom grammar error last rule names := by
  have hwell := hloaded.wellFormed
  -- the induction is on the levels that remain where the estimate, or one within it, was begun
  induction hlevels : grammar.remainingLevels rule stack using Nat.strong_induction_on
    generalizing rule stack session opened names with
  | _ levels ih =>
      subst hlevels
      obtain ⟨-, _, hcompute⟩ := hestimation.exists_computation
      -- a part fails again, unless it was stored; then an inner estimate of the rule tells
      have hpart : ∀ part middle opened, rule.HasPart part → Holds ∅ middle →
          Estimation grammar part stack middle (.error error, last) opened →
            FailsFrom grammar error last part names ∨ FailsFrom grammar error last rule names := by
        intro part middle opened hpart hmiddle hfails
        have hlt := grammar.remainingLevels_lt_of_hasPart hpart stack
        have hmem := hwell.arena.part_mem hrule hpart
        by_cases hstored : last.depths.get? part.index = none
        · exact Or.inl (ih _ hlt hfails hmem hmiddle hnames hstored rfl)
        · obtain ⟨below, begun, hsubset, hbegun, hle, _, hinner⟩ :=
            hfails.exists_inner hloaded hrule hpart hmiddle hentry hstored
          exact Or.inr (ih _ (hle.trans_lt hlt) hinner hrule hbegun
            (List.Subset.trans hnames hsubset) hentry rfl)
      have hmembers : ∀ opened,
          Estimations grammar rule.members stack session (.error error, last) opened →
            (∃ opened, Estimations grammar rule.members names last (.error error, last) opened) ∨
              FailsFrom grammar error last rule names := by
        intro opened hmembers
        obtain ⟨member, middle, _, hmember, hmiddle, hfails, hagain⟩ :=
          hmembers.exists_failed_member hwell hrule hholds
        exact (hpart member middle _ hmember hmiddle hfails).imp_left (hagain names)
      generalize hending : (Except.error error, last) = ending at hcompute
      cases hcompute with
      | terminal => cases hending
      | cycle => cases hending
      | undefined hkind hname hlookup =>
          cases hending
          exact .of_computation hentry
            (.undefined hkind (fun name hmem => hname name (hnames hmem)) hlookup)
      | symbol hsymbol hname hresolve hbelow =>
          rcases andThen_eq_error hending.symm with rfl | ⟨_, _, -, houtcome⟩
          · obtain ⟨_, hagain⟩ := ih _ (remainingLevels_lt_of_push hname hresolve rule) hbelow
              (hwell.lookup_mem (lookup_text hresolve)) hholds (List.cons_subset_cons _ hnames)
              (hbelow.not_stored hloaded hresolve List.mem_cons_self hholds) rfl
            exact .of_computation hentry
              (.symbol hsymbol (fun hmem => hname (hnames hmem)) hresolve hagain)
          · cases houtcome
      | sequence hkind hbelow =>
          rcases andThen_eq_error hending.symm with rfl | ⟨depths, _, -, houtcome⟩
          · exact (hmembers _ hbelow).elim
              (fun ⟨_, hagain⟩ => .of_computation hentry (.sequence hkind hagain)) id
          · obtain ⟨_, rfl⟩ := haccess
            cases depths <;> cases houtcome
      | choice hkind hbelow =>
          rcases andThen_eq_error hending.symm with rfl | ⟨depths, _, -, houtcome⟩
          · exact (hmembers _ hbelow).elim
              (fun ⟨_, hagain⟩ => .of_computation hentry (.choice hkind hagain)) id
          · obtain ⟨_, rfl⟩ := haccess
            cases depths <;> cases houtcome
      | content hkind hcontent hbelow =>
          rcases andThen_eq_error hending.symm with rfl | ⟨_, _, -, houtcome⟩
          · exact (hpart _ _ _ (Or.inr hcontent) hholds hbelow).elim
              (fun ⟨_, hagain⟩ => .of_computation hentry (.content hkind hcontent hagain)) id
          · cases houtcome

/-- A rule that is stored though its estimate has failed is endless, and stored at infinity. -/
theorem Estimation.left_infinite (hloaded : grammar.IsLoaded)
    (hestimation : Estimation grammar rule stack session (.error error, last) opened)
    (hrule : rule ∈ grammar.rules) (hholds : Holds ∅ session) {depth : Exact decay}
    (hentry : last.depths.get? rule.index = some depth) :
    grammar.Endless rule ∧ depth = Scalar.infinity := by
  have hwell := hloaded.wellFormed
  obtain ⟨hnone, _, hcompute⟩ := hestimation.exists_computation
  constructor
  · have hgains : Gains rule session last := ⟨hnone, by rw [hentry]; exact nofun⟩
    rcases hestimation.enters hwell hrule hrule hholds hgains with
      ⟨-, _, hdepth⟩ | ⟨source, below, begun, result, henters⟩
    · cases hdepth
    · by_contra hendless
      exact not_transGen_self hendless (.tail' henters.reaches henters.leads)
  · have hsettles := hcompute.settles hwell (Entered.empty hrule stack).computing
      (hholds.insert hnone)
    exact hsettles.holds.infinite rule (Set.mem_insert _ _) depth hentry

end Again

/-- **An estimate that has failed fails again, or its rule was left at infinity.**  After any calls,
if the depth of a rule cannot be estimated, then either nothing is left for the rule, and the next
estimate fails with the same error and changes nothing; or the rule is endless, infinity was left
for it, and the next estimate gives that. -/
theorem expectedDepth_again (generator : Generator (Exact decay))
    (hloaded : generator.grammar.IsLoaded) (source : Random.Source) (calls : List Call)
    (hcalls : ∀ call ∈ calls, call.About generator.grammar) (rule : Rule)
    (hrule : rule ∈ generator.grammar.rules) (error : GenerationError)
    (after : Session (Exact decay))
    (hfails : outcome (generator.expectedDepth rule []) (generator.after calls (.fresh source)) =
      (.error error, after)) :
    (after.depths.get? rule.index = none ∧
        outcome (generator.expectedDepth rule []) after = (.error error, after)) ∨
      (generator.grammar.Endless rule ∧
        after.depths.get? rule.index = some Scalar.infinity ∧
        outcome (generator.expectedDepth rule []) after = (.ok Scalar.infinity, after)) := by
  have hwell := hloaded.wellFormed
  have hholds := holds_after hwell hcalls source
  have hlevels := remainingLevels_le_estimateLevels generator.grammar rule []
  obtain ⟨ending, opened, hestimation, hmeets, houtcome⟩ :=
    estimateEnds_of_remainingLevels_le hwell hrule hlevels (generator.after calls (.fresh source))
  rw [expectedDepth, houtcome _ le_rfl] at hfails
  subst hfails
  cases hentry : after.depths.get? rule.index with
  | none =>
      obtain ⟨_, hagain⟩ := hestimation.fails_again hloaded hmeets.2 hrule hholds
        (List.Subset.refl _) hentry
      exact Or.inl ⟨rfl, hagain.outcome_eq hlevels⟩
  | some depth =>
      obtain ⟨hendless, rfl⟩ := hestimation.left_infinite hloaded hrule hholds hentry
      have hkept : Estimation generator.grammar rule [] after (.ok Scalar.infinity, after) 0 :=
        .kept hentry
      exact Or.inr ⟨hendless, rfl, hkept.outcome_eq hlevels⟩

end GrammarFuzz.Generator

/-! ### A word again, and then a name that nothing defines -/

namespace GrammarFuzz

namespace Grammar

namespace Lost

/-- The word again. -/
def again : Rule := ⟨0, .symbol, .null, .text "S", [], none⟩

/-- The name that nothing defines. -/
def missing : Rule := ⟨1, .symbol, .null, .text "T", [], none⟩

/-- The word. -/
def word : Rule := ⟨2, .sequence, .null, .null, [again, missing], none⟩

/-- The document of the word again. -/
def againDocument : Json := .object [("type", .text "SYMBOL"), ("name", .text "S")]

/-- The document of the name that nothing defines. -/
def missingDocument : Json := .object [("type", .text "SYMBOL"), ("name", .text "T")]

/-- The document of the word. -/
def wordDocument : Json :=
  .object [("type", .text "SEQ"), ("members", .list [againDocument, missingDocument])]

theorem rule_again (place : Place) :
    Reader.rule place againDocument = Reader.create .symbol .null (.text "S") [] none := by
  rw [againDocument, Reader.rule]
  rfl

theorem rule_missing (place : Place) :
    Reader.rule place missingDocument = Reader.create .symbol .null (.text "T") [] none := by
  rw [missingDocument, Reader.rule]
  rfl

theorem rule_word (place : Place) :
    Reader.rule place wordDocument = (do
      let again ← Reader.create .symbol .null (.text "S") [] none
      let missing ← Reader.create .symbol .null (.text "T") [] none
      Reader.create .sequence .null .null [again, missing] none) := by
  have hrules : Reader.rules place 0 [againDocument, missingDocument] = (do
      let again ← Reader.create .symbol .null (.text "S") [] none
      let missing ← Reader.create .symbol .null (.text "T") [] none
      return [again, missing]) := by
    rw [Reader.rules, Reader.rules, Reader.rules, rule_again, rule_missing]
    rfl
  rw [wordDocument, Reader.rule_list place rfl rfl (Or.inl rfl)]
  show (Reader.rules place 0 [againDocument, missingDocument] >>= fun members =>
    Reader.create .sequence .null .null members none) = _
  rw [hrules]
  rfl

end Lost

/-- A small grammar in which a word is a word and then something that nothing defines. -/
def lost : Grammar := ⟨.null, [], #[Lost.again, Lost.missing, Lost.word], [("S", Lost.word)]⟩

/-- The document of the small grammar. -/
def lostDocument : Json := .object [("rules", .object [("S", Lost.wordDocument)])]

theorem ofDocument_lost : ofDocument lostDocument = .ok lost := by
  have hdefinitions : Reader.definitions [("S", Lost.wordDocument)] =
      (do return [("S", ← Reader.rule ⟨"S", []⟩ Lost.wordDocument)]) := rfl
  rw [Lost.rule_word] at hdefinitions
  show ((Reader.definitions [("S", Lost.wordDocument)]).run #[] >>= fun pair =>
    Except.ok (⟨.null, [], pair.2, pair.1⟩ : Grammar)) = _
  rw [hdefinitions]
  rfl

end Grammar

namespace Generator

open Grammar

/-- Nothing is left for the word itself, which fails for the name both times. -/
theorem expectedDepth_again_lost :
    lost.IsLoaded ∧ Lost.word ∈ lost.rules ∧ ∃ after,
      outcome ((⟨lost, 10, .finite 5, 5, .plain⟩ : Generator (Exact fun _ => 0)).expectedDepth
          Lost.word []) (.fresh (.ofWords [])) =
          (.error (.access (.unknownSymbol (.text "T"))), after) ∧
        outcome ((⟨lost, 10, .finite 5, 5, .plain⟩ : Generator (Exact fun _ => 0)).expectedDepth
          Lost.word []) after = (.error (.access (.unknownSymbol (.text "T"))), after) := by
  have hloaded : lost.IsLoaded := .document ofDocument_lost
  have hword : Lost.word ∈ lost.rules := by simp [lost]
  obtain ⟨after, hfails, hentry⟩ : ∃ after,
      outcome ((⟨lost, 10, .finite 5, 5, .plain⟩ : Generator (Exact fun _ => 0)).expectedDepth
          Lost.word []) (.fresh (.ofWords [])) =
          (.error (.access (.unknownSymbol (.text "T"))), after) ∧
        after.depths.get? Lost.word.index = none :=
    ⟨_, by with_unfolding_all rfl, by with_unfolding_all rfl⟩
  refine ⟨hloaded, hword, after, hfails, ?_⟩
  rcases expectedDepth_again _ hloaded (.ofWords []) [] (by simp) Lost.word hword _ after hfails
    with ⟨-, hagain⟩ | ⟨-, hstored, -⟩
  · exact hagain
  · rw [hentry] at hstored
    cases hstored

/-- For the symbol that is the word again infinity is left by an estimate that fails, and the next
estimate gives it. -/
theorem lost_left_infinite :
    ∃ generator : Generator Number, Grammar.ofDocument lostDocument = .ok lost ∧
      Generator.make lost 10 (Number.float 5) 5 Interpreter.plain = .ok generator ∧
      Lost.again ∈ lost.rules ∧
      ∀ source, ∃ error after,
        outcome (generator.expectedDepth Lost.again []) (.fresh source) = (.error error, after) ∧
          error.message = "Unknown symbol: T" ∧
          after.depths.get? Lost.again.index = some Scalar.infinity ∧
          outcome (generator.expectedDepth Lost.again []) after = (.ok Scalar.infinity, after) := by
  refine ⟨⟨lost, 10, .float 5, 5, Interpreter.plain⟩, ofDocument_lost, rfl, by simp [lost],
    fun source => ?_⟩
  let after : Session Number :=
    { Session.fresh source with depths := ⟨[(Lost.again.index, Scalar.infinity)]⟩ }
  refine ⟨.access (.unknownSymbol (.text "T")), after, ?_, by decide, ?_, ?_⟩
  · with_unfolding_all rfl
  · with_unfolding_all rfl
  · with_unfolding_all rfl

end Generator

end GrammarFuzz

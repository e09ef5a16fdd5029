import GrammarFuzz.Proofs.Generator.Errors
import GrammarFuzz.Proofs.Generator.Levels
import Mathlib.Data.Set.Insert

/-!
# Entries last

What has once been learned about a rule is never replaced by anything else (`entries_last`).  For
weights and samplers this is plain, because they are computed from other tables and stored where
nothing stood.  A depth is stored without another look at the table, though, and while it was being
computed the same rule may have been computed and stored below, with more symbols on the stack.

## Why nothing is lost

Both store infinity.  Call a rule pending while its computation is open.  One that is pending and
no symbol waits for a part of its, and that part is pending as well; a pending symbol has its name
on the stack (`Linked`).  So when a pending rule is computed again, it comes to a part that is
pending, and in the end to a symbol whose name is on the stack, which is infinite.  Infinity comes
up through sums and maxima: the entry is infinite, and so is every pending computation that goes on
to succeed (`Settles`).  It does not matter what the stack held at first, nor what fails.
-/

namespace GrammarFuzz

/-! ## Tables that grow -/

/-- Every entry of the one table stands in the other. -/
def Table.Lasts {α : Type} (before after : Table α) : Prop :=
  ∀ index value, before.get? index = some value → after.get? index = some value

namespace Table.Lasts

variable {α : Type} {first second third : Table α}

theorem refl (table : Table α) : table.Lasts table := fun _ _ => id

theorem trans (hfirst : first.Lasts second) (hsecond : second.Lasts third) : first.Lasts third :=
  fun index value hentry => hsecond index value (hfirst index value hentry)

/-- A value may be stored where there is none, or where it stands already. -/
theorem set {index : Nat} (value : α)
    (hentry : first.get? index = none ∨ first.get? index = some value) :
    first.Lasts (first.set index value) := by
  intro other old hold
  by_cases heq : other = index
  · subst heq
    rw [Table.get?_set]
    rcases hentry with hnone | hsome
    · rw [hnone] at hold
      cases hold
    · rwa [hsome] at hold
  · rwa [Table.get?_set_of_ne _ heq]

end Table.Lasts

namespace Generator

open Grammar

variable {decay : ℚ → ℚ} {α β : Type}

/-! ## Infinity among depths -/

/-- Where infinity is among depths, it is among the values that they stand for. -/
theorem exists_map_ofDepth_top {depths : List (Exact decay)}
    (hdepths : ∀ depth ∈ depths, IsExactDepth depth) :
    ∃ values : List Depth, (∀ value ∈ values, 1 ≤ value) ∧ depths = values.map Exact.ofDepth ∧
      (Scalar.infinity ∈ depths → ⊤ ∈ values) := by
  obtain ⟨values, hvalues, rfl⟩ := exists_map_ofDepth hdepths
  refine ⟨values, hvalues, rfl, fun hinfinity => ?_⟩
  obtain ⟨value, hmem, hvalue⟩ := List.mem_map.mp hinfinity
  obtain rfl : value = ⊤ := Exact.ofDepth_injective hvalue
  exact hmem

/-- The step leaves the session as it is, makes good values of good ones and passes infinity on. -/
def PassesOn (good infinite : α → Prop) (good' infinite' : β → Prop)
    (next : α → Gen (Exact decay) β) : Prop :=
  ∀ value, good value → ∀ session,
    Meets (· = session) (next value) (fun last => good' last ∧ (infinite value → infinite' last))
      fun _ => True

/-- The depth is infinite. -/
def IsInfinity (depth : Exact decay) : Prop := depth = Scalar.infinity

/-- All of the depths are good. -/
def AreExactDepths (depths : List (Exact decay)) : Prop := ∀ depth ∈ depths, IsExactDepth depth

/-- Some of the depths is infinite. -/
def HasInfinity (depths : List (Exact decay)) : Prop := Scalar.infinity ∈ depths

theorem passesOn_deeper :
    PassesOn IsExactDepth IsInfinity IsExactDepth IsInfinity
      fun depth => (pure (deeper depth) : Gen (Exact decay) (Exact decay)) := by
  rintro depth ⟨value, hvalue, rfl⟩ session
  refine Meets.pure ⟨isExactDepth_deeper (zero_le_one.trans hvalue), fun hinfinity => ?_⟩
  rw [IsInfinity] at hinfinity ⊢
  rw [hinfinity]
  rfl

theorem passesOn_deepest :
    PassesOn AreExactDepths HasInfinity IsExactDepth IsInfinity
      fun depths => (do return deeper (← deepest depths) : Gen (Exact decay) (Exact decay)) := by
  intro depths hdepths session
  obtain ⟨values, hvalues, rfl, htop⟩ := exists_map_ofDepth_top hdepths
  cases values with
  | nil => exact Meets.throw trivial
  | cons first rest =>
      have hpositive : 0 ≤ first := zero_le_one.trans (hvalues first (List.mem_cons_self ..))
      have hdeepest : (deepest ((first :: rest).map Exact.ofDepth) : Gen (Exact decay) _) =
          pure (Exact.ofDepth (Depth.greatest (first :: rest))) := by
        rw [← Exact.foldl_max_eq rest hpositive, ← Exact.foldl_max_ofDepth]
        rfl
      simp only [hdeepest, pure_bind]
      refine Meets.pure ⟨isExactDepth_deeper (Depth.zero_le_greatest _), fun hinfinity => ?_⟩
      rw [Depth.greatest_eq_top (htop hinfinity)]
      rfl

theorem passesOn_mean :
    PassesOn AreExactDepths HasInfinity IsExactDepth IsInfinity
      fun depths => (do return deeper (← meanDepth depths) : Gen (Exact decay) (Exact decay)) := by
  intro depths hdepths session
  obtain ⟨values, hvalues, rfl, htop⟩ := exists_map_ofDepth_top hdepths
  by_cases hempty : values = []
  · rw [hempty]
    exact Meets.throw trivial
  · have hcount : values.length ≠ 0 := (List.length_pos_iff.mpr hempty).ne'
    have hmean : (meanDepth (values.map Exact.ofDepth) : Gen (Exact decay) _) =
        pure (Exact.ofDepth (Depth.mean values)) := by
      rw [meanDepth, if_neg (by simpa using hempty), List.length_map, Exact.sum_ofDepth,
        Exact.div_ofDepth _ hcount]
      rfl
    simp only [hmean, pure_bind]
    refine Meets.pure ⟨isExactDepth_deeper (Depth.zero_le_mean fun value hmem =>
      zero_le_one.trans (hvalues value hmem)), fun hinfinity => ?_⟩
    rw [Depth.mean_eq_top (htop hinfinity)]
    rfl

/-! ## Pending rules -/

variable {grammar : Grammar} {rule : Rule} {stack : List String} {pending : Set Rule}
  {session : Session (Exact decay)}

/-- The rule is a symbol whose name is on the stack, or one of its parts is pending. -/
def Linked (pending : Set Rule) (stack : List String) (rule : Rule) : Prop :=
  (∃ name ∈ stack, rule.IsSymbol name) ∨ ∃ part ∈ pending, rule.HasPart part

theorem Linked.mono {more : Set Rule} {names : List String} (hlinked : Linked pending stack rule)
    (hpending : pending ⊆ more) (hstack : stack ⊆ names) : Linked more names rule := by
  rcases hlinked with ⟨name, hname, hsymbol⟩ | ⟨part, hpart, hhas⟩
  · exact Or.inl ⟨name, hstack hname, hsymbol⟩
  · exact Or.inr ⟨part, hpending hpart, hhas⟩

/-- The rule is about to be estimated while others are pending. -/
structure Entered (grammar : Grammar) (pending : Set Rule) (stack : List String) (rule : Rule) :
    Prop where
  mem : rule ∈ grammar.rules
  pending_mem : ∀ other ∈ pending, other ∈ grammar.rules
  linked : ∀ other ∈ pending, Linked (insert rule pending) stack other

/-- The depth of the rule is being computed while others are pending as well. -/
structure Computing (grammar : Grammar) (pending : Set Rule) (stack : List String) (rule : Rule) :
    Prop where
  mem : rule ∈ pending
  pending_mem : ∀ other ∈ pending, other ∈ grammar.rules
  linked : ∀ other ∈ pending, other = rule ∨ Linked pending stack other

theorem Entered.empty (hrule : rule ∈ grammar.rules) (stack : List String) :
    Entered grammar ∅ stack rule where
  mem := hrule
  pending_mem := by simp
  linked := by simp

theorem Entered.computing (hentered : Entered grammar pending stack rule) :
    Computing grammar (insert rule pending) stack rule where
  mem := Set.mem_insert _ _
  pending_mem := Set.forall_mem_insert.mpr ⟨hentered.mem, hentered.pending_mem⟩
  linked := Set.forall_mem_insert.mpr
    ⟨Or.inl rfl, fun other hother => Or.inr (hentered.linked other hother)⟩

namespace Computing

variable (hcomputing : Computing grammar pending stack rule)

include hcomputing

theorem rule_mem : rule ∈ grammar.rules := hcomputing.pending_mem rule hcomputing.mem

/-- The computation waits for a part. -/
theorem part (hwell : grammar.WellFormed) {part : Rule} (hpart : rule.HasPart part) :
    Entered grammar pending stack part where
  mem := hwell.arena.part_mem hcomputing.rule_mem hpart
  pending_mem := hcomputing.pending_mem
  linked := by
    intro other hother
    rcases hcomputing.linked other hother with rfl | hlinked
    · exact Or.inr ⟨part, Set.mem_insert _ _, hpart⟩
    · exact hlinked.mono (Set.subset_insert _ _) (List.Subset.refl _)

/-- The computation of a symbol waits for its definition, with the name on the stack. -/
theorem symbol (hwell : grammar.WellFormed) {name : String} {target : Rule}
    (hsymbol : rule.IsSymbol name) (hresolve : grammar.resolve? name = some target) :
    Entered grammar pending (name :: stack) target where
  mem := hwell.lookup_mem (lookup_text hresolve)
  pending_mem := hcomputing.pending_mem
  linked := by
    intro other hother
    rcases hcomputing.linked other hother with rfl | hlinked
    · exact Or.inl ⟨name, List.mem_cons_self .., hsymbol⟩
    · exact hlinked.mono (Set.subset_insert _ _) (List.subset_cons_self _ _)

end Computing

/-! ## Sessions with pending rules -/

/-- All that is stored are depths, infinity for rules that are pending. -/
structure Holds (pending : Set Rule) (session : Session (Exact decay)) : Prop where
  good : ∀ index depth, session.depths.get? index = some depth → IsExactDepth depth
  infinite : ∀ rule ∈ pending, ∀ depth, session.depths.get? rule.index = some depth →
    IsInfinity depth

theorem Holds.mono {fewer : Set Rule} (hholds : Holds pending session) (hsubset : fewer ⊆ pending) :
    Holds fewer session :=
  ⟨hholds.good, fun rule hrule => hholds.infinite rule (hsubset hrule)⟩

/-- Only the table of depths matters. -/
theorem Holds.congr {other : Session (Exact decay)} (hholds : Holds pending session)
    (hdepths : other.depths = session.depths) : Holds pending other := by
  constructor
  · rw [hdepths]
    exact hholds.good
  · rw [hdepths]
    exact hholds.infinite

/-- A rule that is not stored may become pending. -/
theorem Holds.insert (hholds : Holds pending session)
    (hentry : session.depths.get? rule.index = none) : Holds (insert rule pending) session where
  good := hholds.good
  infinite := by
    refine Set.forall_mem_insert.mpr ⟨fun depth hdepth => ?_, hholds.infinite⟩
    rw [hentry] at hdepth
    cases hdepth

/-- A depth may be stored, infinity for a rule that is pending. -/
theorem Holds.set (hwell : grammar.WellFormed) (hholds : Holds pending session)
    (hpending : ∀ other ∈ pending, other ∈ grammar.rules) (hrule : rule ∈ grammar.rules)
    {depth : Exact decay} (hgood : IsExactDepth depth)
    (hinfinite : rule ∈ pending → IsInfinity depth) :
    Holds pending { session with depths := session.depths.set rule.index depth } where
  good := by
    intro index value hvalue
    rcases Table.get?_set_cases hvalue with ⟨-, rfl⟩ | hvalue
    · exact hgood
    · exact hholds.good index value hvalue
  infinite := by
    intro other hother value hvalue
    rcases Table.get?_set_cases hvalue with ⟨hindex, rfl⟩ | hvalue
    · obtain rfl := hwell.arena.eq_of_index_eq (hpending other hother) hrule hindex
      exact hinfinite hother
    · exact hholds.infinite other hother value hvalue

/-- The rule was not stored before, and it is stored now. -/
def Gains (rule : Rule) (before after : Session (Exact decay)) : Prop :=
  before.depths.get? rule.index = none ∧ after.depths.get? rule.index ≠ none

theorem not_gains (rule : Rule) (session : Session (Exact decay)) : ¬ Gains rule session session :=
  fun ⟨hnone, hsome⟩ => hsome hnone

theorem Gains.of_trans {first third : Session (Exact decay)} (hgains : Gains rule first third)
    (second : Session (Exact decay)) : Gains rule first second ∨ Gains rule second third := by
  by_cases hsecond : second.depths.get? rule.index = none
  · exact Or.inr ⟨hsecond, hgains.2⟩
  · exact Or.inl ⟨hgains.1, hsecond⟩

/-- If another rule is stored last, then the gain was made before. -/
theorem Gains.of_set (hwell : grammar.WellFormed) {target : Rule} {after : Session (Exact decay)}
    {depth : Exact decay} (htarget : target ∈ grammar.rules) (hrule : rule ∈ grammar.rules)
    (hgains : Gains target session { after with depths := after.depths.set rule.index depth }) :
    target = rule ∨ Gains target session after := by
  obtain ⟨hnone, hsome⟩ := hgains
  obtain ⟨value, hvalue⟩ := Option.ne_none_iff_exists'.mp hsome
  rcases Table.get?_set_cases hvalue with ⟨hindex, -⟩ | hvalue
  · exact Or.inl (hwell.arena.eq_of_index_eq htarget hrule hindex)
  · exact Or.inr ⟨hnone, by rw [hvalue]; exact nofun⟩

/-- A pending rule has been stored. -/
def Reentered (pending : Set Rule) (before after : Session (Exact decay)) : Prop :=
  ∃ rule ∈ pending, Gains rule before after

theorem not_reentered (pending : Set Rule) (session : Session (Exact decay)) :
    ¬ Reentered pending session session := fun ⟨rule, _, hgains⟩ => not_gains rule session hgains

theorem Reentered.of_trans {first third : Session (Exact decay)}
    (hreentered : Reentered pending first third) (second : Session (Exact decay)) :
    Reentered pending first second ∨ Reentered pending second third := by
  obtain ⟨rule, hrule, hgains⟩ := hreentered
  exact (hgains.of_trans second).imp (fun hgains => ⟨rule, hrule, hgains⟩)
    fun hgains => ⟨rule, hrule, hgains⟩

/-- The steps keep what is stored, they store depths, and infinity for pending rules.  Their value
is good; if they are about a rule that is linked, or have stored one that is pending, then it is
infinite. -/
structure Settles (pending : Set Rule) (linked : Prop) (good infinite : α → Prop)
    (before : Session (Exact decay)) (ending : Ending (Exact decay) α) : Prop where
  lasts : before.depths.Lasts ending.2.depths
  holds : Holds pending ending.2
  good : ∀ value, ending.1 = .ok value → good value
  infinite : ∀ value, ending.1 = .ok value → linked ∨ Reentered pending before ending.2 →
    infinite value

namespace Settles

variable {linked linked' : Prop} {good infinite : α → Prop} {good' infinite' : β → Prop}
  {ending : Ending (Exact decay) α}

/-- A value that is there without any more steps. -/
theorem of_ok {value : α} (hholds : Holds pending session) (hgood : good value)
    (hinfinite : linked → infinite value) :
    Settles pending linked good infinite session (.ok value, session) where
  lasts := .refl _
  holds := hholds
  good := fun _ heq => Except.ok.inj heq ▸ hgood
  infinite := fun _ heq hcases => Except.ok.inj heq ▸
    hinfinite (hcases.resolve_right (not_reentered _ _))

theorem of_error {error : GenerationError} (hholds : Holds pending session) :
    Settles pending linked good infinite session (.error error, session) where
  lasts := .refl _
  holds := hholds
  good := nofun
  infinite := nofun

theorem andThen (hsettles : Settles pending linked good infinite session ending)
    {next : α → Gen (Exact decay) β} (hnext : PassesOn good infinite good' infinite' next)
    (hlinked : linked' → linked) :
    Settles pending linked' good' infinite' session (andThen ending next) := by
  obtain ⟨answer, after⟩ := ending
  cases answer with
  | error error => exact ⟨hsettles.lasts, hsettles.holds, nofun, nofun⟩
  | ok value =>
      have hlast := hnext value (hsettles.good value rfl) after after rfl
      have hinfinite := hsettles.infinite value rfl
      have heq : Generator.andThen (.ok value, after) next = outcome (next value) after := rfl
      rw [heq]
      generalize outcome (next value) after = ending at hlast ⊢
      obtain ⟨answer, last⟩ := ending
      cases answer with
      | error error =>
          obtain ⟨rfl, -⟩ := hlast
          exact ⟨hsettles.lasts, hsettles.holds, nofun, nofun⟩
      | ok value' =>
          obtain ⟨rfl, hgood, hpass⟩ := hlast
          exact
            { lasts := hsettles.lasts
              holds := hsettles.holds
              good := fun _ heq => Except.ok.inj heq ▸ hgood
              infinite := fun _ heq hcases => Except.ok.inj heq ▸
                hpass (hinfinite (hcases.imp_left hlinked)) }

/-- A depth that is stored already. -/
theorem kept {depth : Exact decay} (hholds : Holds pending session)
    (hentry : session.depths.get? rule.index = some depth) :
    Settles pending (rule ∈ pending) IsExactDepth IsInfinity session (.ok depth, session) :=
  .of_ok hholds (hholds.good _ _ hentry) fun hpending => hholds.infinite rule hpending _ hentry

/-- **A depth that was computed is stored where there is none, or where it stands already.** -/
theorem stored_or_none {after : Session (Exact decay)} {depth : Exact decay}
    (hsettles : Settles pending linked IsExactDepth IsInfinity session (.ok depth, after))
    (hpending : rule ∈ pending) (hentry : session.depths.get? rule.index = none) :
    after.depths.get? rule.index = none ∨ after.depths.get? rule.index = some depth := by
  cases hafter : after.depths.get? rule.index with
  | none => exact Or.inl rfl
  | some other =>
      -- the rule was stored while it was pending, so both depths are infinite
      have hother : other = Scalar.infinity := hsettles.holds.infinite rule hpending other hafter
      have hreentered : Reentered pending session after :=
        ⟨rule, hpending, hentry, by rw [hafter]; exact nofun⟩
      have hdepth : depth = Scalar.infinity := hsettles.infinite depth rfl (Or.inr hreentered)
      exact Or.inr (by rw [hother, hdepth])

/-- A depth that is computed and stored. -/
theorem computed (hwell : grammar.WellFormed) {ending : Ending (Exact decay) (Exact decay)}
    (hentered : Entered grammar pending stack rule)
    (hentry : session.depths.get? rule.index = none)
    (hsettles : Settles (insert rule pending) (Linked (insert rule pending) stack rule)
      IsExactDepth IsInfinity session ending) :
    Settles pending (rule ∈ pending) IsExactDepth IsInfinity session
      (Generator.andThen ending (keep rule)) := by
  obtain ⟨answer, after⟩ := ending
  cases answer with
  | error error =>
      exact ⟨hsettles.lasts, hsettles.holds.mono (Set.subset_insert _ _), nofun, nofun⟩
  | ok depth =>
      have hgood : IsExactDepth depth := hsettles.good depth rfl
      have hinfinite : rule ∈ pending → IsInfinity depth := fun hpending =>
        hsettles.infinite depth rfl (Or.inl (hentered.linked rule hpending))
      refine
        { lasts := hsettles.lasts.trans
            (.set depth (hsettles.stored_or_none (Set.mem_insert _ _) hentry))
          holds := (hsettles.holds.mono (Set.subset_insert _ _)).set hwell hentered.pending_mem
            hentered.mem hgood hinfinite
          good := fun value heq => Except.ok.inj heq ▸ hgood
          infinite := fun value heq hcases => ?_ }
      obtain rfl : depth = value := Except.ok.inj heq
      rcases hcases with hpending | ⟨other, hother, hgains⟩
      · exact hinfinite hpending
      · rcases hgains.of_set hwell (hentered.pending_mem other hother) hentered.mem with
          rfl | hgains
        · exact hinfinite hother
        · exact hsettles.infinite depth rfl (Or.inr ⟨other, Set.mem_insert_of_mem _ hother, hgains⟩)

/-- The depths of some rules, the first one first. -/
theorem cons {first : Rule} {rest : List Rule} {middle : Session (Exact decay)}
    {depth : Exact decay} {ending : Ending (Exact decay) (List (Exact decay))}
    (hfirst : Settles pending (first ∈ pending) IsExactDepth IsInfinity session
      (.ok depth, middle))
    (hrest : Settles pending (∃ member ∈ rest, member ∈ pending) AreExactDepths HasInfinity middle
      ending) :
    Settles pending (∃ member ∈ first :: rest, member ∈ pending) AreExactDepths HasInfinity session
      (Generator.andThen ending fun depths => pure (depth :: depths)) := by
  have hboth : Settles pending (∃ member ∈ first :: rest, member ∈ pending)
      (fun depths => AreExactDepths (depth :: depths)) (fun depths => HasInfinity (depth :: depths))
      session ending := by
    refine ⟨hfirst.lasts.trans hrest.lasts, hrest.holds, fun depths heq => ?_,
      fun depths heq hcases => ?_⟩
    · exact List.forall_mem_cons.mpr ⟨hfirst.good depth rfl, hrest.good depths heq⟩
    · -- infinity is the first depth, or it comes later
      have hhead : first ∈ pending ∨ Reentered pending session middle →
          HasInfinity (depth :: depths) := fun hcases =>
        List.mem_cons.mpr (Or.inl (hfirst.infinite depth rfl hcases).symm)
      have htail : (∃ member ∈ rest, member ∈ pending) ∨ Reentered pending middle ending.2 →
          HasInfinity (depth :: depths) := fun hcases =>
        List.mem_cons_of_mem _ (hrest.infinite depths heq hcases)
      rcases hcases with ⟨member, hmember, hpending⟩ | hreentered
      · rcases List.mem_cons.mp hmember with rfl | hmember
        · exact hhead (Or.inl hpending)
        · exact htail (Or.inl ⟨member, hmember, hpending⟩)
      · rcases hreentered.of_trans middle with hreentered | hreentered
        · exact hhead (Or.inr hreentered)
        · exact htail (Or.inr hreentered)
  exact hboth.andThen (fun depths hgood _ => Meets.pure ⟨hgood, id⟩) id

end Settles

/-! ## Estimates -/

namespace Linked

variable (hlinked : Linked pending stack rule)

include hlinked

/-- A symbol has no parts to wait for, so its name is on the stack. -/
theorem mem_stack (hshaped : rule.Shaped) {name : String} (hsymbol : rule.IsSymbol name) :
    name ∈ stack := by
  rcases hlinked with ⟨other, hother, hname⟩ | ⟨part, -, hpart⟩
  · rwa [Json.text.inj (hname.2.symm.trans hsymbol.2)] at hother
  · have hnone : rule.members = [] ∧ rule.content = none := by
      simpa [Rule.Shaped, hsymbol.1] using hshaped
    simp [Rule.HasPart, hnone.1, hnone.2] at hpart

/-- What is no symbol waits for a part. -/
theorem exists_part (hkind : rule.kind ≠ .symbol) : ∃ part ∈ pending, rule.HasPart part :=
  hlinked.resolve_left fun ⟨_, _, hsymbol⟩ => hkind hsymbol.1

theorem not_isTerminal (hshaped : rule.Shaped) (grammar : Grammar) : ¬ rule.isTerminal = true := by
  intro hkind
  obtain ⟨part, -, hpart⟩ := hlinked.exists_part fun hsymbol => by
    simp [Rule.isTerminal, hsymbol, RuleKind.isTerminal] at hkind
  exact not_leads_of_terminal hshaped hkind (Or.inl hpart : grammar.Leads rule part)

theorem exists_member (hshaped : rule.Shaped) (grammar : Grammar)
    (hkind : rule.kind = .sequence ∨ rule.kind = .choice) :
    ∃ member ∈ rule.members, member ∈ pending := by
  obtain ⟨part, hmem, hpart⟩ := hlinked.exists_part fun hsymbol => by simp [hsymbol] at hkind
  exact ⟨part, mem_of_leads hshaped hkind (Or.inl hpart : grammar.Leads rule part), hmem⟩

theorem content_mem (hshaped : rule.Shaped) (grammar : Grammar)
    (hkind : rule.kind.isRepetition = true ∨ rule.kind.isWrapper = true) {content : Rule}
    (hcontent : rule.content = some content) : content ∈ pending := by
  obtain ⟨part, hmem, hpart⟩ := hlinked.exists_part fun hsymbol => by
    simp [hsymbol, RuleKind.isRepetition, RuleKind.isWrapper] at hkind
  have heq := content_of_leads hshaped hkind (Or.inl hpart : grammar.Leads rule part)
  rw [hcontent] at heq
  rwa [Option.some.inj heq]

end Linked

/-- **Computations settle**, whatever is pending. -/
theorem Computation.settles (hwell : grammar.WellFormed)
    {ending : Ending (Exact decay) (Exact decay)} {opened : Nat}
    (hcomputation : Computation grammar rule stack session ending opened)
    (hcomputing : Computing grammar pending stack rule) (hholds : Holds pending session) :
    Settles pending (Linked pending stack rule) IsExactDepth IsInfinity session ending := by
  -- the induction is on the estimates inside each other, for all sets of pending rules
  refine @Computation.rec (Exact decay) _ grammar
    (fun rule stack session ending _ _ => ∀ pending, Entered grammar pending stack rule →
      Holds pending session →
        Settles pending (rule ∈ pending) IsExactDepth IsInfinity session ending)
    (fun rule stack session ending _ _ => ∀ pending, Computing grammar pending stack rule →
      Holds pending session →
        Settles pending (Linked pending stack rule) IsExactDepth IsInfinity session ending)
    (fun rules stack session ending _ _ => ∀ pending,
      (∀ rule ∈ rules, Entered grammar pending stack rule) → Holds pending session →
        Settles pending (∃ rule ∈ rules, rule ∈ pending) AreExactDepths HasInfinity session ending)
    ?kept ?computed ?terminal ?cycle ?undefined ?symbol ?sequence ?choice ?content ?nil ?cons
    ?failed rule stack session ending opened hcomputation pending hcomputing hholds
  case kept => exact fun hentry pending _ hholds => .kept hholds hentry
  case computed =>
    exact fun hentry _ hcompute pending hentered hholds =>
      .computed hwell hentered hentry (hcompute _ hentered.computing (hholds.insert hentry))
  case terminal =>
    intro rule stack session hkind pending hcomputing hholds
    have hshaped := hwell.arena.shaped hcomputing.rule_mem
    exact .of_ok hholds ⟨1, le_rfl, Exact.ofDepth_one.symm⟩ fun hlinked =>
      absurd hkind (hlinked.not_isTerminal hshaped grammar)
  case cycle => exact fun _ _ pending _ hholds => .of_ok hholds ⟨⊤, le_top, rfl⟩ fun _ => rfl
  case undefined => exact fun _ _ _ pending _ hholds => .of_error hholds
  case symbol =>
    intro rule target stack session name _ _ hsymbol hname hresolve _ hbelow pending hcomputing
      hholds
    have hshaped := hwell.arena.shaped hcomputing.rule_mem
    -- the name is new on the stack, so the symbol is not linked
    exact (hbelow pending (hcomputing.symbol hwell hsymbol hresolve) hholds).andThen passesOn_deeper
      fun hlinked => absurd (hlinked.mem_stack hshaped hsymbol) hname
  case sequence =>
    intro rule stack session _ _ hkind _ hmembers pending hcomputing hholds
    have hshaped := hwell.arena.shaped hcomputing.rule_mem
    exact (hmembers pending (fun member hmember => hcomputing.part hwell (Or.inl hmember))
      hholds).andThen passesOn_deepest fun hlinked =>
        hlinked.exists_member hshaped grammar (Or.inl hkind)
  case choice =>
    intro rule stack session _ _ hkind _ hmembers pending hcomputing hholds
    have hshaped := hwell.arena.shaped hcomputing.rule_mem
    exact (hmembers pending (fun member hmember => hcomputing.part hwell (Or.inl hmember))
      hholds).andThen passesOn_mean fun hlinked =>
        hlinked.exists_member hshaped grammar (Or.inr hkind)
  case content =>
    intro rule content stack session _ _ hkind hcontent _ hbelow pending hcomputing hholds
    have hshaped := hwell.arena.shaped hcomputing.rule_mem
    exact (hbelow pending (hcomputing.part hwell (Or.inr hcontent)) hholds).andThen passesOn_deeper
      fun hlinked => hlinked.content_mem hshaped grammar hkind hcontent
  case nil => exact fun pending _ hholds => .of_ok hholds (by simp [AreExactDepths]) (by simp)
  case cons =>
    intro _ _ _ _ _ _ _ _ _ _ _ hfirst hrest pending hentered hholds
    obtain ⟨hhead, htail⟩ := List.forall_mem_cons.mp hentered
    have hsettles := hfirst pending hhead hholds
    exact hsettles.cons (hrest pending htail hsettles.holds)
  case failed =>
    intro _ _ _ _ _ _ _ _ hfirst pending hentered hholds
    have hsettles := hfirst pending (hentered _ List.mem_cons_self) hholds
    exact ⟨hsettles.lasts, hsettles.holds, nofun, nofun⟩

theorem Estimation.settles (hwell : grammar.WellFormed)
    {ending : Ending (Exact decay) (Exact decay)} {opened : Nat}
    (hestimation : Estimation grammar rule stack session ending opened)
    (hentered : Entered grammar pending stack rule) (hholds : Holds pending session) :
    Settles pending (rule ∈ pending) IsExactDepth IsInfinity session ending := by
  cases hestimation with
  | kept hentry => exact .kept hholds hentry
  | computed hentry hcompute =>
      exact .computed hwell hentered hentry
        (hcompute.settles hwell hentered.computing (hholds.insert hentry))

theorem Estimations.settles (hwell : grammar.WellFormed) {rules : List Rule}
    {ending : Ending (Exact decay) (List (Exact decay))} {opened : Nat}
    (hestimations : Estimations grammar rules stack session ending opened)
    (hentered : ∀ rule ∈ rules, Entered grammar pending stack rule)
    (hholds : Holds pending session) :
    Settles pending (∃ rule ∈ rules, rule ∈ pending) AreExactDepths HasInfinity session ending := by
  induction rules generalizing session ending opened with
  | nil =>
      cases hestimations
      exact .of_ok hholds (by simp [AreExactDepths]) (by simp)
  | cons first rest ih =>
      obtain ⟨hhead, htail⟩ := List.forall_mem_cons.mp hentered
      cases hestimations with
      | cons hfirst hrest =>
          have hsettles := hfirst.settles hwell hhead hholds
          exact hsettles.cons (ih hrest htail hsettles.holds)
      | failed hfirst =>
          have hsettles := hfirst.settles hwell hhead hholds
          exact ⟨hsettles.lasts, hsettles.holds, nofun, nofun⟩

/-! ## Every store -/

/-- While a rule is estimated, begun with a stack in a session, there is a moment at which the depth
is stored for the rule `stored`.  It is right before that, and the depth has just been computed. -/
inductive Stores (grammar : Grammar) (stored : Rule) (depth : Exact decay)
    (moment : Session (Exact decay)) : Rule → List String → Session (Exact decay) → Prop where
  /-- The rule itself, when its depth is known. -/
  | own {stack : List String} {session : Session (Exact decay)} {opened : Nat}
      (hentry : session.depths.get? stored.index = none)
      (hcompute : Computation grammar stored stack session (.ok depth, moment) opened) :
      Stores grammar stored depth moment stored stack session
  /-- Below the definition of a symbol. -/
  | symbol {rule target : Rule} {stack : List String} {session : Session (Exact decay)}
      {name : String} (hentry : session.depths.get? rule.index = none)
      (hsymbol : rule.IsSymbol name) (hname : name ∉ stack)
      (hresolve : grammar.resolve? name = some target)
      (hbelow : Stores grammar stored depth moment target (name :: stack) session) :
      Stores grammar stored depth moment rule stack session
  /-- Below a member, after those in front of it. -/
  | member {rule member : Rule} {front rest : List Rule} {stack : List String}
      {session middle : Session (Exact decay)} {depths : List (Exact decay)} {opened : Nat}
      (hentry : session.depths.get? rule.index = none)
      (hkind : rule.kind = .sequence ∨ rule.kind = .choice)
      (hmembers : rule.members = front ++ member :: rest)
      (hfront : Estimations grammar front stack session (.ok depths, middle) opened)
      (hbelow : Stores grammar stored depth moment member stack middle) :
      Stores grammar stored depth moment rule stack session
  /-- Below a content. -/
  | content {rule content : Rule} {stack : List String} {session : Session (Exact decay)}
      (hentry : session.depths.get? rule.index = none)
      (hkind : rule.kind.isRepetition = true ∨ rule.kind.isWrapper = true)
      (hcontent : rule.content = some content)
      (hbelow : Stores grammar stored depth moment content stack session) :
      Stores grammar stored depth moment rule stack session

/-- **At the moment at which a depth is stored the table holds none for the rule, or the same
one.** -/
theorem Stores.none_or_same (hwell : grammar.WellFormed) {stored : Rule} {depth : Exact decay}
    {moment : Session (Exact decay)}
    (hstores : Stores grammar stored depth moment rule stack session)
    (hrule : rule ∈ grammar.rules) (hholds : Holds ∅ session) :
    moment.depths.get? stored.index = none ∨ moment.depths.get? stored.index = some depth := by
  induction hstores with
  | own hentry hcompute =>
      have hsettles := hcompute.settles hwell (Entered.empty hrule _).computing
        (hholds.insert hentry)
      exact hsettles.stored_or_none (Set.mem_insert _ _) hentry
  | symbol hentry hsymbol hname hresolve hbelow ih =>
      exact ih (hwell.lookup_mem (lookup_text hresolve)) hholds
  | member hentry hkind hmembers hfront hbelow ih =>
      have hmem : ∀ {part}, part ∈ _ → part ∈ grammar.rules := fun {part} hpart =>
        hwell.arena.part_mem hrule (Or.inl (hmembers ▸ hpart))
      have hsettles := hfront.settles hwell
        (fun part hpart => .empty (hmem (List.mem_append_left _ hpart)) _) hholds
      exact ih (hmem (by simp)) hsettles.holds
  | content hentry hkind hcontent hbelow ih =>
      exact ih (hwell.arena.part_mem hrule (Or.inr hcontent)) hholds

/-! ## Calls -/

/-- All that the one session has learned about rules stands in the other. -/
structure Session.Lasts {S : Type} (before after : Session S) : Prop where
  depths : before.depths.Lasts after.depths
  weights : before.weights.Lasts after.weights
  samplers : before.samplers.Lasts after.samplers

theorem Session.Lasts.refl {S : Type} (session : Session S) : session.Lasts session :=
  ⟨.refl _, .refl _, .refl _⟩

/-- The session has only depths in its table, and all that another one has learned. -/
structure Continues (start session : Session (Exact decay)) : Prop where
  holds : Holds ∅ session
  lasts : start.Lasts session

variable {generator : Generator (Exact decay)} {start : Session (Exact decay)}

theorem expectedDepth_continues (hwell : generator.grammar.WellFormed)
    (hrule : rule ∈ generator.grammar.rules) (stack : List String) :
    Meets (Continues start) (generator.expectedDepth rule stack) (fun _ => True) fun _ => True := by
  intro session hcontinues
  obtain ⟨ending, opened, hestimation, -, houtcome⟩ :=
    estimateEnds_of_remainingLevels_le hwell hrule
      (remainingLevels_le_estimateLevels generator.grammar rule stack) session
  have hsettles := hestimation.settles hwell (.empty hrule stack) hcontinues.holds
  -- the other tables are not touched
  have hkeeps : Meets
      (fun after => session.weights = after.weights ∧ session.samplers = after.samplers)
      (generator.expectedDepth rule stack) (fun _ => True) fun _ => True :=
    expectedDepthWithin_keeps (fun _ _ => id) _ rule stack
  have hother := (hkeeps session ⟨rfl, rfl⟩).kept
  rw [expectedDepth, houtcome _ le_rfl] at hother ⊢
  have hafter : Continues start ending.2 :=
    { holds := hsettles.holds
      lasts := ⟨hcontinues.lasts.depths.trans hsettles.lasts, hother.1 ▸ hcontinues.lasts.weights,
        hother.2 ▸ hcontinues.lasts.samplers⟩ }
  obtain ⟨answer, after⟩ := ending
  cases answer <;> exact ⟨hafter, trivial⟩

/-- Weights are stored where there are none. -/
theorem sampleWeights_continues (hwell : generator.grammar.WellFormed)
    (hrule : rule ∈ generator.grammar.rules) :
    Meets (Continues start) (generator.sampleWeights rule) (fun _ => True) fun _ => True := by
  refine Meets.get_bind fun session hcontinues => ?_
  cases hentry : session.weights.get? rule.index with
  | some weights => exact ⟨hcontinues, trivial⟩
  | none =>
      have hmember : ∀ member ∈ rule.members, Meets
          (fun after => Continues start after ∧ after.weights.get? rule.index = none)
          (generator.expectedDepth member []) (fun _ => True) fun _ => True := fun member hmember =>
        ((expectedDepth_continues hwell (hwell.arena.part_mem hrule (Or.inl hmember)) []).and
          (expectedDepthWithin_keeps (fun _ _ => id) _ member [])).mono (fun _ _ => trivial)
          fun _ _ => trivial
      have hmembers : Meets
          (fun after => Continues start after ∧ after.weights.get? rule.index = none)
          (rule.members.mapM fun member => do
            return weightOfDepth (← generator.expectedDepth member []))
          (List.Forall₂ (fun _ _ => True) rule.members) fun _ => True :=
        Meets.mapM rule.members fun member hmem =>
          Meets.bind (hmember member hmem) fun _ _ => Meets.pure trivial
      have hending := hmembers session ⟨hcontinues, hentry⟩
      dsimp only
      rw [outcome_bind]
      cases houtcome : outcome (rule.members.mapM fun member => do
          return weightOfDepth (← generator.expectedDepth member [])) session with
      | mk answer after =>
          rw [houtcome] at hending
          obtain ⟨hafter, hnone⟩ := hending.kept
          cases answer with
          | error error => exact ⟨hafter, trivial⟩
          | ok weights =>
              have hlasts := hafter.lasts.weights.trans (.set weights (Or.inl hnone))
              exact ⟨⟨hafter.holds.congr rfl, hafter.lasts.depths, hlasts, hafter.lasts.samplers⟩,
                trivial⟩

/-- A sampler is stored where there is none. -/
theorem patternSampler_continues (generator : Generator (Exact decay)) (rule : Rule) :
    Meets (Continues start) (generator.patternSampler rule) (fun _ => True) fun _ => True := by
  refine Meets.get_bind fun session hcontinues => ?_
  obtain ⟨hholds, hdepths, hweights, hsamplers⟩ := hcontinues
  cases hentry : session.samplers.get? rule.index with
  | some sampler => exact ⟨⟨hholds, hdepths, hweights, hsamplers⟩, trivial⟩
  | none =>
      dsimp only
      split
      · split
        · rename_i sampler _
          have hlasts := hsamplers.trans (.set sampler (Or.inl hentry))
          exact ⟨⟨hholds.congr rfl, hdepths, hweights, hlasts⟩, trivial⟩
        · exact ⟨⟨hholds, hdepths, hweights, hsamplers⟩, trivial⟩
      · exact ⟨⟨hholds, hdepths, hweights, hsamplers⟩, trivial⟩

/-- **A call keeps all that has been learned about rules**, whether it fails or not. -/
theorem step_continues (hwell : generator.grammar.WellFormed) {call : Call}
    (habout : call.About generator.grammar) :
    Meets (Continues start) (call.step generator) (fun _ => True) fun _ => True := by
  refine step_keeps hwell habout (fun rule stack hcall => ?_)
    (fun rule hrule => sampleWeights_continues hwell hrule)
    (fun rule _ => patternSampler_continues generator rule)
    fun _ _ _ hcontinues => ⟨hcontinues.holds.congr rfl, hcontinues.lasts.depths,
      hcontinues.lasts.weights, hcontinues.lasts.samplers⟩
  subst hcall
  exact expectedDepth_continues hwell habout stack

theorem holds_fresh (source : Random.Source) :
    Holds ∅ (.fresh source : Session (Exact decay)) :=
  ⟨nofun, by simp⟩

/-- Only depths are in the table after any calls. -/
theorem holds_after (hwell : generator.grammar.WellFormed) {calls : List Call}
    (hcalls : ∀ call ∈ calls, call.About generator.grammar) (source : Random.Source) :
    Holds ∅ (generator.after calls (.fresh source)) :=
  (after_keeps (fun call hcall => step_continues hwell (hcalls call hcall))
    ⟨holds_fresh source, .refl _⟩).holds

/-- **What has been learned about a rule stays as it is.**  After any calls, with any stacks and
whether they fail or not, an entry of the tables of depths, weights and samplers stands there after
any further calls.  Nor is it replaced by another one in between.  The weights, samplers and
estimates that a tree asks for are calls themselves, from a session that holds depths only, and each
of them keeps what it finds.  At each moment at which the estimate of a rule stores a depth, the
table holds none for the rule that it is stored for, or the same. -/
theorem entries_last (generator : Generator (Exact decay)) (hloaded : generator.grammar.IsLoaded)
    (source : Random.Source) (calls more : List Call)
    (hcalls : ∀ call ∈ calls ++ more, call.About generator.grammar) :
    (generator.after calls (.fresh source)).Lasts (generator.after (calls ++ more) (.fresh source)) ∧
      Holds ∅ (generator.after calls (.fresh source)) ∧
      ∀ session : Session (Exact decay), Holds ∅ session →
        (∀ call : Call, call.About generator.grammar →
          Holds ∅ (outcome (call.step generator) session).2 ∧
            session.Lasts (outcome (call.step generator) session).2) ∧
        ∀ rule ∈ generator.grammar.rules, ∀ stack stored depth moment,
          Stores generator.grammar stored depth moment rule stack session →
            moment.depths.get? stored.index = none ∨
              moment.depths.get? stored.index = some depth := by
  have hwell := hloaded.wellFormed
  have hfirst := holds_after hwell
    (fun call hcall => hcalls call (List.mem_append_left more hcall)) source
  refine ⟨?_, hfirst, fun session hholds => ⟨fun call habout => ?_,
    fun rule hrule stack stored depth moment hstores => hstores.none_or_same hwell hrule hholds⟩⟩
  · have happend : generator.after (calls ++ more) (.fresh source) =
        generator.after more (generator.after calls (.fresh source)) := List.foldl_append ..
    rw [happend]
    exact (after_keeps (fun call hcall =>
      step_continues hwell (hcalls call (List.mem_append_right calls hcall)))
      ⟨hfirst, .refl _⟩).lasts
  · have hcontinues := (step_continues hwell habout session ⟨hholds, .refl session⟩).kept
    exact ⟨hcontinues.holds, hcontinues.lasts⟩

/-- The rule of a word is computed again while it is pending.  That it is infinite is what the table
says from then on, also after an estimate below the symbol `word` and a tree that does not come
about. -/
theorem entries_last_chain :
    Grammar.chain.IsLoaded ∧ Chain.word ∈ Grammar.chain.rules ∧
      ((chain : Generator (Exact fun _ => 0)).after
        ([.expectedDepth Chain.word []] ++ [.expectedDepth Chain.again ["word"], .expand 9 Chain.word 1])
        (.fresh (.ofWords []))).depths.get? Chain.word.index = some (.infinite false) := by
  have hagain : Chain.again ∈ Grammar.chain.rules := by simp [Grammar.chain]
  have hword : Chain.word ∈ Grammar.chain.rules := by simp [Grammar.chain]
  have hcalls : ∀ call ∈ [Call.expectedDepth Chain.word []] ++
      [.expectedDepth Chain.again ["word"], .expand 9 Chain.word 1],
      call.About Grammar.chain := by
    simp [Call.About, hword, hagain]
  refine ⟨chain_isLoaded, hword, ?_⟩
  refine (entries_last (chain : Generator (Exact fun _ => 0)) chain_isLoaded (.ofWords []) _ _
    hcalls).1.depths _ _ ?_
  with_unfolding_all rfl

end Generator

end GrammarFuzz

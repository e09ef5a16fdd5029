import GrammarFuzz.Proofs.Tree.Cuts
import Mathlib.Data.List.Forall2
import Mathlib.Logic.Relation

/-!
# Reductions of trees

A reduction of a tree keeps some of the children of every repetition and all children of every
other node, and reduces what it keeps.  The main result is that cuts, one after the other, lead to
the reductions of a tree and to nothing else (`reflTransGen_cut_iff_reduces`).

## Strategy

Every step out of a tree leads to a tree whose reductions are reductions of the first one
(`Reduces.of_cutsTo`).  For the other direction a schedule of cuts is needed that never empties a
repetition on the way.  Dropping first is such a schedule: a repetition loses the children that are
not kept, one at a time, and as one child at least is kept there are always two as long as one is
still to be dropped (`drops_of_sublist`).  The children that are left are then reduced one by one.
-/

namespace GrammarFuzz.Tree

/-- A tree is a reduction of another one. -/
inductive Reduces : Tree → Tree → Prop where
  | leaf (kind : RuleKind) (text : String) : Reduces (leaf kind text) (leaf kind text)
  /-- A repetition keeps some of its children, in their order. -/
  | many {children kept reduced : List Tree} (hkept : kept.Sublist children)
      (hreduced : List.Forall₂ Reduces kept reduced) :
      Reduces (branch .many children) (branch .many reduced)
  /-- A repetition that may not be empty keeps a child, if it has one. -/
  | many1 {children kept reduced : List Tree} (hkept : kept.Sublist children)
      (hne : children ≠ [] → kept ≠ []) (hreduced : List.Forall₂ Reduces kept reduced) :
      Reduces (branch .many1 children) (branch .many1 reduced)
  /-- Every other node keeps all children. -/
  | other {kind : RuleKind} {children reduced : List Tree} (hkind : kind.isRepetition = false)
      (hreduced : List.Forall₂ Reduces children reduced) :
      Reduces (branch kind children) (branch kind reduced)

/-- A node of this kind may keep these of its children. -/
structure Keeps (kind : RuleKind) (children kept : List Tree) : Prop where
  sublist : kept.Sublist children
  ne_nil : kind = .many1 → children ≠ [] → kept ≠ []
  eq_of_other : kind.isRepetition = false → kept = children

theorem Keeps.refl (kind : RuleKind) (children : List Tree) : Keeps kind children children :=
  ⟨List.Sublist.refl children, fun _ hne => hne, fun _ => rfl⟩

/-- The reductions of a node, whatever its kind. -/
theorem reduces_branch_iff {kind : RuleKind} {children : List Tree} {small : Tree} :
    Reduces (branch kind children) small ↔
      ∃ kept reduced, Keeps kind children kept ∧ List.Forall₂ Reduces kept reduced ∧
        small = branch kind reduced := by
  constructor
  · intro hreduces
    cases hreduces with
    | many hkept hreduced => exact ⟨_, _, ⟨hkept, nofun, nofun⟩, hreduced, rfl⟩
    | many1 hkept hne hreduced => exact ⟨_, _, ⟨hkept, fun _ => hne, nofun⟩, hreduced, rfl⟩
    | other hkind hreduced => exact ⟨_, _, Keeps.refl kind children, hreduced, rfl⟩
  · rintro ⟨kept, reduced, hkeeps, hreduced, rfl⟩
    cases hkind : kind with
    | many => exact .many hkeeps.sublist hreduced
    | many1 => exact .many1 hkeeps.sublist (hkeeps.ne_nil hkind) hreduced
    | _ =>
        have hother : kind.isRepetition = false := by rw [hkind]; rfl
        rw [hkeeps.eq_of_other hother] at hreduced
        rw [← hkind]
        exact .other hother hreduced

theorem losesChild_eq_false {kind : RuleKind} (hkind : kind.isRepetition = false) (count : Nat) :
    losesChild kind count = false := by
  cases kind <;> simp_all [losesChild, RuleKind.isRepetition]

/-! ## Cuts stay within reductions -/

mutual

theorem Reduces.refl : ∀ tree : Tree, Reduces tree tree
  | .leaf kind text => .leaf kind text
  | .branch kind children =>
    reduces_branch_iff.mpr ⟨children, children, Keeps.refl kind children, reduces_all children, rfl⟩

theorem reduces_all : ∀ children : List Tree, List.Forall₂ Reduces children children
  | [] => .nil
  | tree :: rest => .cons (Reduces.refl tree) (reduces_all rest)

end

theorem forall₂_reduces_replace {front rest reduced : List Tree} {child smaller : Tree}
    (hreduced : List.Forall₂ Reduces (front ++ smaller :: rest) reduced)
    (hchild : ∀ small, Reduces smaller small → Reduces child small) :
    List.Forall₂ Reduces (front ++ child :: rest) reduced := by
  induction front generalizing reduced with
  | nil =>
      cases hreduced with
      | cons hfirst hrest => exact .cons (hchild _ hfirst) hrest
  | cons first front ih =>
      cases hreduced with
      | cons hfirst hrest => exact .cons hfirst (ih hrest)

/-- What may be kept after a cut inside of a child may be kept before it, with that child in the
place of the smaller one. -/
theorem Keeps.of_inside {kind : RuleKind} {front rest kept reduced : List Tree}
    {child smaller : Tree} (hkeeps : Keeps kind (front ++ smaller :: rest) kept)
    (hreduced : List.Forall₂ Reduces kept reduced)
    (hchild : ∀ small, Reduces smaller small → Reduces child small) :
    ∃ kept', Keeps kind (front ++ child :: rest) kept' ∧ List.Forall₂ Reduces kept' reduced := by
  by_cases hkind : kind.isRepetition = false
  · -- all children are kept
    rw [hkeeps.eq_of_other hkind] at hreduced
    exact ⟨_, Keeps.refl kind _, forall₂_reduces_replace hreduced hchild⟩
  · obtain ⟨first, second, rfl, hfirst, hsecond⟩ := List.sublist_append_iff.mp hkeeps.sublist
    rcases List.sublist_cons_iff.mp hsecond with hsecond | ⟨others, rfl, hothers⟩
    · -- the child that was cut is not kept
      refine ⟨first ++ second, ⟨hfirst.append (hsecond.cons child), fun hmany _ => ?_,
        fun hother => absurd hother hkind⟩, hreduced⟩
      exact hkeeps.ne_nil hmany (by simp)
    · refine ⟨first ++ child :: others, ⟨hfirst.append (hothers.cons_cons child), fun _ _ => by simp,
        fun hother => absurd hother hkind⟩, ?_⟩
      exact forall₂_reduces_replace hreduced hchild

theorem Reduces.of_cutsTo {tree variant small : Tree} (hcut : CutsTo tree variant)
    (hreduces : Reduces variant small) : Reduces tree small := by
  induction hcut generalizing small with
  | @drop kind front rest child hloses =>
      obtain ⟨kept, reduced, hkeeps, hreduced, rfl⟩ := reduces_branch_iff.mp hreduces
      refine reduces_branch_iff.mpr ⟨kept, reduced, ⟨?_, ?_, ?_⟩, hreduced, rfl⟩
      · exact hkeeps.sublist.trans (List.Sublist.append_left (List.sublist_cons_self _ _) _)
      · intro hkind _
        -- a child is left, because there were two of them before
        refine hkeeps.ne_nil hkind fun hnil => ?_
        rw [hkind] at hloses
        simp_all [losesChild]
      · intro hkind
        rw [losesChild_eq_false hkind] at hloses
        cases hloses
  | inside hcut ih =>
      obtain ⟨kept, reduced, hkeeps, hreduced, rfl⟩ := reduces_branch_iff.mp hreduces
      obtain ⟨kept', hkeeps', hreduced'⟩ := hkeeps.of_inside hreduced fun small => ih
      exact reduces_branch_iff.mpr ⟨kept', reduced, hkeeps', hreduced', rfl⟩

/-! ## Reductions are reached by cuts -/

/-- Some cuts lead from a tree to another one. -/
def ShrinksTo : Tree → Tree → Prop := Relation.ReflTransGen CutsTo

theorem ShrinksTo.inside {kind : RuleKind} {child small : Tree} (hshrinks : ShrinksTo child small)
    (front rest : List Tree) :
    ShrinksTo (branch kind (front ++ child :: rest)) (branch kind (front ++ small :: rest)) := by
  induction hshrinks with
  | refl => exact .refl
  | tail _ hcut ih => exact ih.tail (.inside hcut)

/-- The children after some others are shrunk one after the other. -/
theorem shrinksTo_of_forall₂ {kind : RuleKind} {children reduced : List Tree}
    (hchildren : List.Forall₂ ShrinksTo children reduced) (front : List Tree) :
    ShrinksTo (branch kind (front ++ children)) (branch kind (front ++ reduced)) := by
  induction hchildren generalizing front with
  | nil => exact .refl
  | @cons child small rest others hchild _ ih =>
      have hrest := ih (front ++ [small])
      rw [List.append_assoc, List.append_assoc] at hrest
      exact (hchild.inside front rest).trans hrest

/-- A repetition loses the children that are not kept, if it may become empty or keeps a child. -/
theorem drops_of_sublist {kind : RuleKind} (hkind : kind.isRepetition = true)
    {children kept : List Tree} (hkept : kept.Sublist children) (front : List Tree)
    (hne : kind = .many1 → front ++ kept ≠ []) :
    ShrinksTo (branch kind (front ++ children)) (branch kind (front ++ kept)) := by
  induction hkept generalizing front with
  | slnil => exact .refl
  | @cons kept rest child hkept ih =>
      have hrest := ih front hne
      refine .head (.drop ?_) hrest
      -- a child is kept besides the one that is dropped
      have hlength := (List.Sublist.append_left hkept front).length_le
      cases hkindeq : kind with
      | many =>
          simp only [losesChild, decide_eq_true_eq, List.length_append, List.length_cons]
          omega
      | many1 =>
          have hpos := List.length_pos_iff.mpr (hne hkindeq)
          simp only [losesChild, decide_eq_true_eq, List.length_append, List.length_cons] at *
          omega
      | _ => simp [hkindeq, RuleKind.isRepetition] at hkind
  | @cons_cons kept rest child _ ih =>
      have hrest := ih (front ++ [child]) fun _ => by simp
      rwa [List.append_assoc, List.append_assoc] at hrest

theorem shrinksTo_of_keeps {kind : RuleKind} {children kept : List Tree}
    (hkeeps : Keeps kind children kept) : ShrinksTo (branch kind children) (branch kind kept) := by
  by_cases hkind : kind.isRepetition = false
  · rw [hkeeps.eq_of_other hkind]
    exact .refl
  · by_cases hnil : children = []
    · have hkept : kept = [] := List.sublist_nil.mp (hnil ▸ hkeeps.sublist)
      rw [hnil, hkept]
      exact .refl
    · exact drops_of_sublist (by simpa using hkind) hkeeps.sublist []
        fun hmany => hkeeps.ne_nil hmany hnil

mutual

theorem Reduces.shrinksTo : ∀ {tree small : Tree}, Reduces tree small → ShrinksTo tree small
  | _, _, .leaf _ _ => .refl
  | _, _, .many hkept hreduced => by
    have hkeeps : Keeps .many _ _ := ⟨hkept, nofun, nofun⟩
    exact (shrinksTo_of_keeps hkeeps).trans (shrinksTo_of_forall₂ (forall₂_shrinksTo hreduced) [])
  | _, _, .many1 hkept hne hreduced => by
    have hkeeps : Keeps .many1 _ _ := ⟨hkept, fun _ => hne, nofun⟩
    exact (shrinksTo_of_keeps hkeeps).trans (shrinksTo_of_forall₂ (forall₂_shrinksTo hreduced) [])
  | _, _, .other _ hreduced => shrinksTo_of_forall₂ (forall₂_shrinksTo hreduced) []

theorem forall₂_shrinksTo : ∀ {children reduced : List Tree},
    List.Forall₂ Reduces children reduced → List.Forall₂ ShrinksTo children reduced
  | _, _, .nil => .nil
  | _, _, .cons hfirst hrest => .cons hfirst.shrinksTo (forall₂_shrinksTo hrest)

end

/-- **Cuts lead to the reductions of a tree and to nothing else.**  No combination of removals is
missed, and none is reached that is not one. -/
theorem reflTransGen_cut_iff_reduces (tree small : Tree) :
    Relation.ReflTransGen (fun tree variant => variant ∈ tree.variants) tree small ↔
      Reduces tree small := by
  have hcuts : (fun tree variant : Tree => variant ∈ tree.variants) = CutsTo := by
    funext tree variant
    exact propext mem_variants_iff
  rw [hcuts]
  constructor
  · intro hshrinks
    induction hshrinks using Relation.ReflTransGen.head_induction_on with
    | refl => exact Reduces.refl small
    | head hcut _ ih => exact ih.of_cutsTo hcut
  · exact Reduces.shrinksTo

end GrammarFuzz.Tree

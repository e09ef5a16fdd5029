import GrammarFuzz.Proofs.Tree.Cuts
import GrammarFuzz.Proofs.Tree.Tokens
import Mathlib.Data.List.Basic

/-!
# The variants of a tree, one for each child that can go

A removal names a child of a node by all that stands around it: the context of the node, and the
siblings on either side (`Removal`).  The tree before and the tree after it differ in that child and
in nothing else.  The main result says that the variants of a tree are what its removals lead to,
that no removal is missed or made twice, and in which order they come (`variants_eq_removals`).

## Strategy

A removal is known by the tree and its cut (`Removal.eq_of_cut_eq`), so it is enough to compare with
the list of cuts.  Every cut in the list belongs to a removal (`exists_removal_of_mem_cuts`), every
removal has its cut in the list (`Removal.cut_mem`), and the list is in order
(`pairwise_cuts`).  What a removal does to sizes, depths and tokens it does at the hole of a
context, and contexts pass it on.
-/

namespace GrammarFuzz.Tree

/-! ## Contexts -/

/-- A tree with a hole in it. -/
inductive Context where
  | hole
  /-- A node with the hole in one of its children. -/
  | inside (kind : RuleKind) (front : List Tree) (child : Context) (rest : List Tree)

namespace Context

/-- The tree with another tree in the hole. -/
def fill : Context → Tree → Tree
  | hole, tree => tree
  | inside kind front child rest, tree => branch kind (front ++ child.fill tree :: rest)

/-- The way from the root to the hole, as the places of children. -/
def path : Context → List Nat
  | hole => []
  | inside _ front child _ => front.length :: child.path

/-- The way to the hole tells what is around it and what is in it. -/
theorem eq_of_fill_eq {first second : Context} {tree tree' : Tree}
    (hfill : first.fill tree = second.fill tree') (hpath : first.path = second.path) :
    first = second ∧ tree = tree' := by
  induction first generalizing second with
  | hole =>
      cases second with
      | hole => exact ⟨rfl, hfill⟩
      | inside => cases hpath
  | inside kind front child rest ih =>
      cases second with
      | hole => cases hpath
      | inside kind' front' child' rest' =>
          obtain ⟨hlength, hinner⟩ := List.cons.inj hpath
          obtain ⟨rfl, hchildren⟩ := branch.inj hfill
          obtain ⟨rfl, hothers⟩ := List.append_inj hchildren hlength
          obtain ⟨hbelow, rfl⟩ := List.cons.inj hothers
          obtain ⟨rfl, rfl⟩ := ih hbelow hinner
          exact ⟨rfl, rfl⟩

theorem size_fill (context : Context) {small big : Tree} {extra : Nat}
    (hsize : small.size + extra = big.size) :
    (context.fill small).size + extra = (context.fill big).size := by
  induction context with
  | hole => exact hsize
  | inside kind front child rest ih =>
      simp only [fill, size, sizeOfAll_append, sizeOfAll]
      omega

theorem depthOfAll_append (first second : List Tree) :
    depthOfAll (first ++ second) = max (depthOfAll first) (depthOfAll second) := by
  induction first with
  | nil => rw [List.nil_append, depthOfAll, Nat.zero_max]
  | cons tree rest ih => rw [List.cons_append, depthOfAll, depthOfAll, ih, Nat.max_assoc]

theorem depth_fill_le (context : Context) {small big : Tree} (hdepth : small.depth ≤ big.depth) :
    (context.fill small).depth ≤ (context.fill big).depth := by
  induction context with
  | hole => exact hdepth
  | inside kind front child rest ih =>
      simp only [fill, depth, depthOfAll_append, depthOfAll]
      omega

/-- The tokens of what is in the hole stand together. -/
theorem exists_tokens_fill (context : Context) :
    ∃ left right, ∀ tree, (context.fill tree).tokens = left ++ tree.tokens ++ right := by
  induction context with
  | hole => exact ⟨[], [], fun tree => by rw [fill, List.nil_append, List.append_nil]⟩
  | inside kind front child rest ih =>
      obtain ⟨left, right, htokens⟩ := ih
      refine ⟨front.flatMap tokens ++ left, right ++ rest.flatMap tokens, fun tree => ?_⟩
      rw [fill, tokens_branch, List.flatMap_append, List.flatMap_cons, htokens tree]
      simp only [List.append_assoc]

end Context

/-! ## Removals -/

/-- A child of a node, with what stands around it. -/
structure Removal where
  /-- What stands around the node. -/
  context : Context
  /-- The kind of the node. -/
  kind : RuleKind
  front : List Tree
  child : Tree
  rest : List Tree

namespace Removal

instance : Inhabited Removal := ⟨⟨.hole, .blank, [], default, []⟩⟩

/-- The tree with the child. -/
def before (removal : Removal) : Tree :=
  removal.context.fill (branch removal.kind (removal.front ++ removal.child :: removal.rest))

/-- The tree without the child. -/
def after (removal : Removal) : Tree :=
  removal.context.fill (branch removal.kind (removal.front ++ removal.rest))

/-- The way to the node and the place of the child. -/
def cut (removal : Removal) : Cut := ⟨removal.context.path, removal.front.length⟩

/-- The number of children of the node. -/
def siblings (removal : Removal) : Nat := (removal.front ++ removal.child :: removal.rest).length

/-- The node is a repetition that can do without the child. -/
def Allowed (removal : Removal) : Prop :=
  removal.kind = .many ∧ 1 ≤ removal.siblings ∨ removal.kind = .many1 ∧ 2 ≤ removal.siblings

theorem allowed_iff_losesChild (removal : Removal) :
    removal.Allowed ↔ losesChild removal.kind removal.siblings = true := by
  unfold Allowed losesChild
  cases removal.kind <;> simp [Nat.lt_iff_add_one_le]

/-- The removal in a node further up. -/
def below (kind : RuleKind) (front rest : List Tree) (removal : Removal) : Removal :=
  { removal with context := .inside kind front removal.context rest }

theorem apply_cut (removal : Removal) : removal.before.apply removal.cut = removal.after := by
  obtain ⟨context, kind, front, child, rest⟩ := removal
  induction context with
  | hole =>
      show branch kind ((front ++ child :: rest).eraseIdx front.length) = _
      rw [List.eraseIdx_append_of_length_le (Nat.le_refl _), Nat.sub_self, List.eraseIdx_cons_zero]
      rfl
  | inside outer left inner right ih =>
      show (branch outer (left ++ inner.fill _ :: right)).apply
        (Cut.below left.length ⟨inner.path, front.length⟩) = _
      rw [apply_below]
      exact congrArg (fun tree => branch outer (left ++ tree :: right)) ih

/-- **A removal is known by its tree and its cut.** -/
theorem eq_of_cut_eq {first second : Removal} (hbefore : first.before = second.before)
    (hcut : first.cut = second.cut) : first = second := by
  obtain ⟨context, kind, front, child, rest⟩ := first
  obtain ⟨context', kind', front', child', rest'⟩ := second
  obtain ⟨hpath, hplace⟩ := Cut.mk.inj hcut
  obtain ⟨rfl, hnode⟩ := Context.eq_of_fill_eq hbefore hpath
  obtain ⟨rfl, hchildren⟩ := branch.inj hnode
  obtain ⟨rfl, hothers⟩ := List.append_inj hchildren hplace
  obtain ⟨rfl, rfl⟩ := List.cons.inj hothers
  rfl

theorem size_after (removal : Removal) :
    removal.after.size + removal.child.size = removal.before.size := by
  refine removal.context.size_fill ?_
  simp only [size, sizeOfAll_append, sizeOfAll]
  omega

theorem depth_after_le (removal : Removal) : removal.after.depth ≤ removal.before.depth := by
  refine removal.context.depth_fill_le ?_
  simp only [depth, Context.depthOfAll_append, depthOfAll]
  omega

/-- The tokens of the child stand together, and they are those that go. -/
theorem exists_tokens (removal : Removal) : ∃ left right,
    removal.before.tokens = left ++ removal.child.tokens ++ right ∧
      removal.after.tokens = left ++ right := by
  obtain ⟨left, right, hfill⟩ := removal.context.exists_tokens_fill
  refine ⟨left ++ removal.front.flatMap tokens, removal.rest.flatMap tokens ++ right, ?_, ?_⟩
  · rw [before, hfill, tokens_branch, List.flatMap_append, List.flatMap_cons]
    simp only [List.append_assoc]
  · rw [after, hfill, tokens_branch, List.flatMap_append]
    simp only [List.append_assoc]

end Removal

/-! ## Removals and cuts -/

theorem mem_cutsFrom_iff {children : List Tree} {place : Nat} {cut : Cut} :
    cut ∈ cutsFrom place children ↔ ∃ front child rest inner,
      children = front ++ child :: rest ∧ inner ∈ child.cuts ∧
        cut = Cut.below (place + front.length) inner := by
  induction children generalizing place with
  | nil => simp [cutsFrom]
  | cons tree others ih =>
      rw [cutsFrom, List.mem_append, List.mem_map, ih]
      constructor
      · rintro (⟨inner, hinner, rfl⟩ | ⟨front, child, rest, inner, rfl, hinner, rfl⟩)
        · exact ⟨[], tree, others, inner, rfl, hinner, rfl⟩
        · refine ⟨tree :: front, child, rest, inner, rfl, hinner, ?_⟩
          rw [List.length_cons, Nat.add_assoc, Nat.add_comm 1]
      · rintro ⟨front, child, rest, inner, hchildren, hinner, rfl⟩
        cases front with
        | nil =>
            obtain ⟨rfl, rfl⟩ := List.cons.inj hchildren
            exact Or.inl ⟨inner, hinner, rfl⟩
        | cons first front =>
            obtain ⟨rfl, rfl⟩ := List.cons.inj hchildren
            refine Or.inr ⟨front, child, rest, inner, rfl, hinner, ?_⟩
            rw [List.length_cons, Nat.add_assoc, Nat.add_comm 1]

/-- A cut belongs to a removal.  The induction is on the way down. -/
theorem exists_removal_of_mem_cuts {tree : Tree} {cut : Cut} (hcut : cut ∈ tree.cuts) :
    ∃ removal : Removal, removal.before = tree ∧ removal.Allowed ∧ removal.cut = cut := by
  obtain ⟨path, place⟩ := cut
  induction path generalizing tree with
  | nil =>
      cases tree with
      | leaf => simp [cuts] at hcut
      | branch kind children =>
          rw [cuts, List.mem_append] at hcut
          rcases hcut with hhere | hbelow
          · split at hhere
            next hloses =>
              obtain ⟨other, hother, heq⟩ := List.mem_map.mp hhere
              cases heq
              have hbound := List.mem_range.mp hother
              have hsplit : children.take place ++ children[place] :: children.drop (place + 1) =
                  children := by
                rw [List.getElem_cons_drop, List.take_append_drop]
              refine ⟨⟨.hole, kind, children.take place, children[place],
                children.drop (place + 1)⟩, congrArg (branch kind) hsplit, ?_, ?_⟩
              · rw [Removal.allowed_iff_losesChild, Removal.siblings, hsplit]
                exact hloses
              · rw [Removal.cut, List.length_take_of_le (Nat.le_of_lt hbound)]
                rfl
            next => cases hhere
          · obtain ⟨front, child, rest, inner, -, -, heq⟩ := mem_cutsFrom_iff.mp hbelow
            cases heq
  | cons step path ih =>
      cases tree with
      | leaf => simp [cuts] at hcut
      | branch kind children =>
          rw [cuts, List.mem_append] at hcut
          rcases hcut with hhere | hbelow
          · split at hhere
            · obtain ⟨other, -, heq⟩ := List.mem_map.mp hhere
              cases heq
            · cases hhere
          · obtain ⟨front, child, rest, inner, rfl, hinner, heq⟩ := mem_cutsFrom_iff.mp hbelow
            obtain ⟨path', place'⟩ := inner
            cases heq
            obtain ⟨removal, hbefore, hallowed, hcut⟩ := ih hinner
            refine ⟨removal.below kind front rest, ?_, hallowed, ?_⟩
            · show branch kind (front ++ removal.before :: rest) = _
              rw [hbefore]
            · show Cut.below front.length removal.cut = _
              rw [hcut, Nat.zero_add]
              rfl

theorem Removal.cut_mem {removal : Removal} (hallowed : removal.Allowed) :
    removal.cut ∈ removal.before.cuts := by
  obtain ⟨context, kind, front, child, rest⟩ := removal
  induction context with
  | hole =>
      have hloses : losesChild kind (front ++ child :: rest).length = true :=
        (allowed_iff_losesChild _).mp hallowed
      show _ ∈ (branch kind (front ++ child :: rest)).cuts
      rw [cuts]
      refine List.mem_append_left _ ?_
      rw [if_pos hloses]
      exact List.mem_map.mpr ⟨front.length, by simp, rfl⟩
  | inside outer left inner right ih =>
      show _ ∈ (branch outer (left ++ inner.fill _ :: right)).cuts
      rw [cuts]
      refine List.mem_append_right _ (mem_cutsFrom_iff.mpr ⟨left, _, right, _, rfl, ih hallowed, ?_⟩)
      rw [Nat.zero_add]
      rfl

/-! ## The order of the cuts -/

/-- One cut comes before another: its node comes first in pre-order, which is the order of the ways
to the nodes as words, or the node is the same and its child comes first. -/
def Cut.Before (first second : Cut) : Prop :=
  first.path < second.path ∨ first.path = second.path ∧ first.place < second.place

theorem Cut.Before.below {first second : Cut} (hbefore : first.Before second) (place : Nat) :
    (Cut.below place first).Before (Cut.below place second) := by
  rcases hbefore with hpath | ⟨hpath, hplace⟩
  · exact Or.inl (List.cons_lt_cons_iff.mpr (Or.inr ⟨rfl, hpath⟩))
  · exact Or.inr ⟨congrArg (place :: ·) hpath, hplace⟩

mutual

/-- **The cuts of a tree are in order.** -/
theorem pairwise_cuts : ∀ tree : Tree, tree.cuts.Pairwise Cut.Before
  | leaf _ _ => by
    rw [cuts]
    exact List.Pairwise.nil
  | branch kind children => by
    rw [cuts, List.pairwise_append]
    refine ⟨?_, pairwise_cutsFrom 0 children, fun first hfirst second hsecond => ?_⟩
    · split
      · rw [List.pairwise_map]
        exact List.pairwise_lt_range.imp fun hplace => Or.inr ⟨rfl, hplace⟩
      · exact List.Pairwise.nil
    · -- a node comes before all nodes below it
      obtain ⟨front, child, rest, inner, -, -, rfl⟩ := mem_cutsFrom_iff.mp hsecond
      split at hfirst
      · obtain ⟨place, -, rfl⟩ := List.mem_map.mp hfirst
        exact Or.inl (List.nil_lt_cons _ _)
      · cases hfirst

theorem pairwise_cutsFrom (place : Nat) : ∀ children : List Tree,
    (cutsFrom place children).Pairwise Cut.Before
  | [] => by
    rw [cutsFrom]
    exact List.Pairwise.nil
  | tree :: rest => by
    rw [cutsFrom, List.pairwise_append]
    refine ⟨?_, pairwise_cutsFrom (place + 1) rest, fun first hfirst second hsecond => ?_⟩
    · rw [List.pairwise_map]
      exact (pairwise_cuts tree).imp fun hbefore => hbefore.below place
    · -- a child comes before the children to its right
      obtain ⟨inner, -, rfl⟩ := List.mem_map.mp hfirst
      obtain ⟨front, child, others, other, -, -, rfl⟩ := mem_cutsFrom_iff.mp hsecond
      exact Or.inl (List.cons_lt_cons_iff.mpr (Or.inl (by omega)))

end

/-! ## The variants -/

/-- **The variants of a tree are what its removals lead to**, one for each child of a repetition
that can do without it, in the pre-order of the repetitions and then from left to right.  So there
are none exactly if no repetition can lose a child.  A variant has the nodes of the tree but for
those of the child, it is no deeper, and it has the tokens of the tree but for those of the child,
which stand together. -/
theorem variants_eq_removals (tree : Tree) :
    (∃ removals : List Removal,
      tree.variants = removals.map Removal.after ∧
      removals.Pairwise (fun first second => first.cut.Before second.cut) ∧
      ∀ removal, removal ∈ removals ↔ removal.before = tree ∧ removal.Allowed) ∧
    (tree.variants = [] ↔ ¬ ∃ removal : Removal, removal.before = tree ∧ removal.Allowed) ∧
    ∀ removal : Removal, removal.before = tree → removal.Allowed →
      removal.after.size + removal.child.size = tree.size ∧
      removal.after.depth ≤ tree.depth ∧
      ∃ left right, tree.tokens = left ++ removal.child.tokens ++ right ∧
        removal.after.tokens = left ++ right := by
  have hremoval : ∀ cut ∈ tree.cuts, ∃ removal : Removal,
      removal.before = tree ∧ removal.Allowed ∧ removal.cut = cut :=
    fun cut hcut => exists_removal_of_mem_cuts hcut
  choose! removalOf hbefore hallowed hcut using hremoval
  have hvariants : tree.variants = (tree.cuts.map removalOf).map Removal.after := by
    rw [← map_apply_cuts, List.map_map]
    refine List.map_congr_left fun cut hmem => ?_
    have happly := (removalOf cut).apply_cut
    rwa [hbefore cut hmem, hcut cut hmem] at happly
  have hmem : ∀ removal, removal ∈ tree.cuts.map removalOf ↔
      removal.before = tree ∧ removal.Allowed := by
    intro removal
    rw [List.mem_map]
    constructor
    · rintro ⟨cut, hmem, rfl⟩
      exact ⟨hbefore cut hmem, hallowed cut hmem⟩
    · rintro ⟨rfl, hremoval⟩
      have hmem := removal.cut_mem hremoval
      exact ⟨removal.cut, hmem, Removal.eq_of_cut_eq (hbefore _ hmem) (hcut _ hmem)⟩
  refine ⟨⟨tree.cuts.map removalOf, hvariants, ?_, hmem⟩, ?_, ?_⟩
  · rw [List.pairwise_map]
    exact (pairwise_cuts tree).imp_of_mem fun hfirst hsecond horder => by
      rwa [hcut _ hfirst, hcut _ hsecond]
  · rw [hvariants, List.map_eq_nil_iff, List.eq_nil_iff_forall_not_mem]
    simp only [hmem, not_exists]
  · rintro removal rfl -
    exact ⟨removal.size_after, removal.depth_after_le, removal.exists_tokens⟩

end GrammarFuzz.Tree

import GrammarFuzz.Tree
import Mathlib.Data.List.Basic

/-!
# Cuts and variants

The trees that one cut leads to are enumerated twice: `Tree.variants` lists the trees, and
`Tree.cuts` lists the cuts, one of which is applied at a time.  The two lists belong
together, entry by entry (`map_apply_cuts`), and each variant has fewer nodes than the
tree (`size_lt_of_mem_variants`).

There are fewer variants than nodes (`length_variants_lt_size`), since every cut removes a node other
than the root.

Where the order of the cuts does not matter, `CutsTo` says what one cut does, and the variants are
the trees that it leads to (`mem_variants_iff`).
-/

namespace GrammarFuzz.Tree

theorem modify_append_cons (front rest : List Tree) (tree : Tree) (change : Tree → Tree) :
    (front ++ tree :: rest).modify front.length change = front ++ change tree :: rest := by
  induction front with
  | nil => rfl
  | cons first front ih =>
      rw [List.cons_append, List.length_cons, List.modify_succ_cons, ih, List.cons_append]

/-- A cut below a child changes that child. -/
theorem apply_below (kind : RuleKind) (front rest : List Tree) (tree : Tree) (cut : Cut) :
    (branch kind (front ++ tree :: rest)).apply (Cut.below front.length cut) =
      branch kind (front ++ tree.apply cut :: rest) := by
  show branch kind ((front ++ tree :: rest).modify front.length (without cut.path cut.place)) = _
  rw [modify_append_cons]
  rfl

mutual

/-- **The cuts of a tree lead to its variants**, in the same order. -/
theorem map_apply_cuts : ∀ tree : Tree, tree.cuts.map tree.apply = tree.variants
  | leaf _ _ => by rw [cuts, variants, List.map_nil]
  | branch kind children => by
    have hbelow := map_apply_cutsFrom kind [] children
    rw [List.length_nil, List.nil_append] at hbelow
    rw [cuts, variants, List.map_append, hbelow]
    congr 1
    split
    · rw [List.map_map]
      rfl
    · rfl

/-- The cuts of the children after some others. -/
theorem map_apply_cutsFrom (kind : RuleKind) (front : List Tree) : ∀ children : List Tree,
    (cutsFrom front.length children).map (branch kind (front ++ children)).apply =
      (variantsOfOne children).map fun children => branch kind (front ++ children)
  | [] => by rw [cutsFrom, variantsOfOne, List.map_nil, List.map_nil]
  | tree :: rest => by
    have hfirst := map_apply_cuts tree
    -- the child moves over to the front, so that the places of the others stay right
    have hrest := map_apply_cutsFrom kind (front ++ [tree]) rest
    rw [List.length_append, List.length_singleton] at hrest
    simp only [List.append_assoc, List.singleton_append] at hrest
    rw [cutsFrom, variantsOfOne, List.map_append, List.map_append, hrest, ← hfirst]
    simp only [List.map_map]
    congr 1
    exact List.map_congr_left fun cut _ => apply_below kind front rest tree cut

end

/-! ## Single cuts -/

/-- One cut leads from a tree to another one: the root loses a child, or the cut is made inside of
a child. -/
inductive CutsTo : Tree → Tree → Prop where
  | drop {kind : RuleKind} {front rest : List Tree} {child : Tree}
      (hloses : losesChild kind (front ++ child :: rest).length = true) :
      CutsTo (branch kind (front ++ child :: rest)) (branch kind (front ++ rest))
  | inside {kind : RuleKind} {front rest : List Tree} {child smaller : Tree}
      (hcut : CutsTo child smaller) :
      CutsTo (branch kind (front ++ child :: rest)) (branch kind (front ++ smaller :: rest))

mutual

theorem cutsTo_of_mem_variants : ∀ tree : Tree, ∀ variant ∈ tree.variants, CutsTo tree variant
  | leaf _ _, variant, hvariant => by
    rw [variants] at hvariant
    cases hvariant
  | branch kind children, variant, hvariant => by
    rw [variants] at hvariant
    rcases List.mem_append.mp hvariant with hhere | hinside
    · split at hhere
      · rename_i hloses
        obtain ⟨place, hplace, rfl⟩ := List.mem_map.mp hhere
        have hbound := List.mem_range.mp hplace
        have hsplit : children =
            children.take place ++ children[place] :: children.drop (place + 1) := by
          rw [List.getElem_cons_drop, List.take_append_drop]
        rw [hsplit] at hloses
        rw [List.eraseIdx_eq_take_drop_succ]
        have hcut : CutsTo (branch kind _) _ := .drop hloses
        rwa [← hsplit] at hcut
      · cases hhere
    · obtain ⟨changed, hchanged, rfl⟩ := List.mem_map.mp hinside
      obtain ⟨front, child, smaller, rest, rfl, hcut, rfl⟩ :=
        cutsTo_of_mem_variantsOfOne children changed hchanged
      exact .inside hcut

/-- Children of which one is cut differ in that child. -/
theorem cutsTo_of_mem_variantsOfOne : ∀ children : List Tree,
    ∀ changed ∈ variantsOfOne children, ∃ front child smaller rest,
      children = front ++ child :: rest ∧ CutsTo child smaller ∧ changed = front ++ smaller :: rest
  | [], changed, hchanged => by
    rw [variantsOfOne] at hchanged
    cases hchanged
  | tree :: rest, changed, hchanged => by
    rw [variantsOfOne] at hchanged
    rcases List.mem_append.mp hchanged with hfirst | hrest
    · obtain ⟨smaller, hsmaller, rfl⟩ := List.mem_map.mp hfirst
      exact ⟨[], tree, smaller, rest, rfl, cutsTo_of_mem_variants tree smaller hsmaller, rfl⟩
    · obtain ⟨others, hothers, rfl⟩ := List.mem_map.mp hrest
      obtain ⟨front, child, smaller, rest, rfl, hcut, rfl⟩ :=
        cutsTo_of_mem_variantsOfOne rest others hothers
      exact ⟨tree :: front, child, smaller, rest, rfl, hcut, rfl⟩

end

theorem mem_variantsOfOne {child smaller : Tree} (hsmaller : smaller ∈ child.variants)
    (front rest : List Tree) :
    front ++ smaller :: rest ∈ variantsOfOne (front ++ child :: rest) := by
  induction front with
  | nil => exact List.mem_append_left _ (List.mem_map.mpr ⟨smaller, hsmaller, rfl⟩)
  | cons first front ih => exact List.mem_append_right _ (List.mem_map.mpr ⟨_, ih, rfl⟩)

/-- **The variants of a tree are the trees that one cut leads to.** -/
theorem mem_variants_iff {tree variant : Tree} : variant ∈ tree.variants ↔ CutsTo tree variant := by
  refine ⟨cutsTo_of_mem_variants tree variant, fun hcut => ?_⟩
  induction hcut with
  | @drop kind front rest child hloses =>
      rw [variants, if_pos hloses]
      refine List.mem_append_left _ (List.mem_map.mpr ⟨front.length, ?_, ?_⟩)
      · simp
      · rw [List.eraseIdx_append_of_length_le (Nat.le_refl _), Nat.sub_self, List.eraseIdx_cons_zero]
  | inside _ ih =>
      rw [variants]
      exact List.mem_append_right _ (List.mem_map.mpr ⟨_, mem_variantsOfOne ih _ _, rfl⟩)

/-! ## Sizes -/

theorem size_pos (tree : Tree) : 0 < tree.size := by
  cases tree with
  | leaf => exact Nat.one_pos
  | branch kind children =>
      rw [size]
      omega

theorem sizeOfAll_eraseIdx_lt {children : List Tree} {place : Nat}
    (hplace : place < children.length) :
    sizeOfAll (children.eraseIdx place) < sizeOfAll children := by
  induction children generalizing place with
  | nil => exact absurd hplace (Nat.not_lt_zero place)
  | cons tree rest ih =>
      cases place with
      | zero =>
          have hpos := size_pos tree
          rw [List.eraseIdx_zero, List.tail_cons, sizeOfAll]
          omega
      | succ place =>
          rw [List.length_cons] at hplace
          have hlt := ih (Nat.lt_of_succ_lt_succ hplace)
          rw [List.eraseIdx_cons_succ, sizeOfAll, sizeOfAll]
          omega

mutual

/-- **A variant has fewer nodes than the tree.** -/
theorem size_lt_of_mem_variants : ∀ tree : Tree, ∀ variant ∈ tree.variants,
    variant.size < tree.size
  | leaf _ _, variant, hvariant => by
    rw [variants] at hvariant
    cases hvariant
  | branch kind children, variant, hvariant => by
    rw [variants] at hvariant
    rcases List.mem_append.mp hvariant with hhere | hbelow
    · split at hhere
      · obtain ⟨place, hplace, rfl⟩ := List.mem_map.mp hhere
        have hlt := sizeOfAll_eraseIdx_lt (List.mem_range.mp hplace)
        rw [size, size]
        omega
      · cases hhere
    · obtain ⟨changed, hchanged, rfl⟩ := List.mem_map.mp hbelow
      have hlt := sizeOfAll_lt_of_mem_variantsOfOne children changed hchanged
      rw [size, size]
      omega

/-- Children of which one is cut have fewer nodes together. -/
theorem sizeOfAll_lt_of_mem_variantsOfOne : ∀ children : List Tree,
    ∀ changed ∈ variantsOfOne children, sizeOfAll changed < sizeOfAll children
  | [], changed, hchanged => by
    rw [variantsOfOne] at hchanged
    cases hchanged
  | tree :: rest, changed, hchanged => by
    rw [variantsOfOne] at hchanged
    rcases List.mem_append.mp hchanged with hfirst | hrest
    · obtain ⟨variant, hvariant, rfl⟩ := List.mem_map.mp hfirst
      have hlt := size_lt_of_mem_variants tree variant hvariant
      rw [sizeOfAll, sizeOfAll]
      omega
    · obtain ⟨others, hothers, rfl⟩ := List.mem_map.mp hrest
      have hlt := sizeOfAll_lt_of_mem_variantsOfOne rest others hothers
      rw [sizeOfAll, sizeOfAll]
      omega

end

mutual

/-- **There are fewer variants than nodes.** -/
theorem length_variants_lt_size : ∀ tree : Tree, tree.variants.length < tree.size
  | leaf _ _ => by
    rw [variants, size, List.length_nil]
    exact Nat.one_pos
  | branch kind children => by
    have hbelow := length_variantsOfOne_add_le children
    rw [variants, size, List.length_append, List.length_map]
    split
    · rw [List.length_map, List.length_range]
      omega
    · rw [List.length_nil]
      omega

/-- Some trees have fewer variants than nodes, and one less for each of them. -/
theorem length_variantsOfOne_add_le : ∀ children : List Tree,
    (variantsOfOne children).length + children.length ≤ sizeOfAll children
  | [] => by
    rw [variantsOfOne, sizeOfAll]
    exact Nat.le_refl 0
  | tree :: rest => by
    have hfirst := length_variants_lt_size tree
    have hrest := length_variantsOfOne_add_le rest
    rw [variantsOfOne, sizeOfAll, List.length_append, List.length_map, List.length_map,
      List.length_cons]
    omega

end

end GrammarFuzz.Tree

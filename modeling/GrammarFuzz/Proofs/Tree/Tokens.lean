import GrammarFuzz.Proofs.Tree.Cuts
import Mathlib.Logic.Function.Iterate

/-!
# Tokens by recursion

The tokens of a tree are collected by a loop that keeps the trees it has still to visit on a stack.
By recursion they are the texts at the leaves (`texts`), a branch without children having none.  The
main result is that the loop ends, after one turn for each node, and that the two agree, with each
other and with the nested lists of the tree (`tokens_eq_texts`).

## Strategy

A turn of the loop takes one node off the stack.  The texts that are done, followed by those of the
trees on the stack, stay the same (`allTexts_turn`), and the stack loses one node
(`sizeOfAll_turn`).  Both are carried through any number of turns; once no node is left, all texts
are done.
-/

namespace GrammarFuzz

mutual

/-- The texts in nested lists, from left to right. -/
def Json.texts : Json → List String
  | .text value => [value]
  | .list items => Json.textsOfItems items
  | _ => []

/-- The texts in some nested lists. -/
def Json.textsOfItems : List Json → List String
  | [] => []
  | item :: rest => item.texts ++ Json.textsOfItems rest

end

namespace Tree

mutual

/-- The texts at the leaves, from left to right. -/
def texts : Tree → List String
  | leaf _ text => [text]
  | branch _ children => textsOfAll children

/-- The texts at the leaves of some trees. -/
def textsOfAll : List Tree → List String
  | [] => []
  | tree :: rest => texts tree ++ textsOfAll rest

end

mutual

/-- The nodes, each one before those below it. -/
def nodes : Tree → List Tree
  | leaf kind text => [leaf kind text]
  | branch kind children => branch kind children :: nodesOfAll children

/-- The nodes of some trees. -/
def nodesOfAll : List Tree → List Tree
  | [] => []
  | tree :: rest => nodes tree ++ nodesOfAll rest

end

/-! ## Turns of the loop -/

/-- One turn of the loop on the texts that are done, the last ones first, and the stack: a text is
done, or the children of a node take its place. -/
def turn : List String × List Tree → List String × List Tree
  | (done, []) => (done, [])
  | (done, leaf _ text :: rest) => (text :: done, rest)
  | (done, branch _ children :: rest) => (done, children ++ rest)

/-- The texts that are done and those that are still to come. -/
def allTexts (loop : List String × List Tree) : List String :=
  loop.1.reverse ++ textsOfAll loop.2

theorem textsOfAll_append (first second : List Tree) :
    textsOfAll (first ++ second) = textsOfAll first ++ textsOfAll second := by
  induction first with
  | nil => rfl
  | cons tree rest ih => rw [List.cons_append, textsOfAll, textsOfAll, ih, List.append_assoc]

/-- A turn forgets no text and adds none. -/
theorem allTexts_turn (loop : List String × List Tree) : allTexts (turn loop) = allTexts loop := by
  obtain ⟨done, stack⟩ := loop
  match stack with
  | [] => rfl
  | leaf kind text :: rest =>
      simp only [turn, allTexts, textsOfAll, texts, List.reverse_cons, List.append_assoc]
  | branch kind children :: rest =>
      simp only [turn, allTexts, textsOfAll, texts, textsOfAll_append]

/-- A turn takes one node off the stack. -/
theorem sizeOfAll_turn (loop : List String × List Tree) :
    sizeOfAll (turn loop).2 = sizeOfAll loop.2 - 1 := by
  obtain ⟨done, stack⟩ := loop
  match stack with
  | [] => rfl
  | leaf kind text :: rest =>
      simp only [turn, sizeOfAll, size]
      omega
  | branch kind children :: rest =>
      simp only [turn, sizeOfAll, size, sizeOfAll_append]
      omega

/-- What any number of turns does. -/
theorem iterate_turn (turns : Nat) (loop : List String × List Tree) :
    allTexts (turn^[turns] loop) = allTexts loop ∧
      sizeOfAll (turn^[turns] loop).2 = sizeOfAll loop.2 - turns := by
  induction turns with
  | zero => exact ⟨rfl, rfl⟩
  | succ turns ih =>
      rw [Function.iterate_succ_apply', allTexts_turn, sizeOfAll_turn, ih.2]
      exact ⟨ih.1, by omega⟩

theorem sizeOfAll_eq_zero_iff {stack : List Tree} : sizeOfAll stack = 0 ↔ stack = [] := by
  cases stack with
  | nil => exact ⟨fun _ => rfl, fun _ => rfl⟩
  | cons tree rest =>
      have hpos := size_pos tree
      rw [sizeOfAll]
      exact ⟨fun hzero => by omega, nofun⟩

/-- **The loop ends after one turn for each node**, and not before. -/
theorem stack_iterate_turn_eq_nil_iff (turns : Nat) (loop : List String × List Tree) :
    (turn^[turns] loop).2 = [] ↔ sizeOfAll loop.2 ≤ turns := by
  rw [← sizeOfAll_eq_zero_iff, (iterate_turn turns loop).2, Nat.sub_eq_zero_iff_le]

/-! ## What the loop collects -/

/-- The loop does what is done first, and then the texts of the trees on the stack. -/
theorem collect_eq_allTexts (done : List String) (stack : List Tree) :
    collect done stack = allTexts (done, stack) := by
  fun_induction collect done stack with
  | case1 done => exact (List.append_nil _).symm
  | case2 done kind text rest ih => exact ih.trans (allTexts_turn (done, leaf kind text :: rest))
  | case3 done kind children rest ih =>
      exact ih.trans (allTexts_turn (done, branch kind children :: rest))

theorem tokens_eq (tree : Tree) : tree.tokens = tree.texts := by
  rw [tokens, collect_eq_allTexts]
  simp only [allTexts, textsOfAll, List.reverse_nil, List.nil_append, List.append_nil]

theorem textsOfAll_eq_flatMap (trees : List Tree) : textsOfAll trees = trees.flatMap tokens := by
  induction trees with
  | nil => rfl
  | cons tree rest ih => rw [textsOfAll, List.flatMap_cons, ih, tokens_eq]

/-- **The tokens of a node are those of its children**, from left to right. -/
theorem tokens_branch (kind : RuleKind) (children : List Tree) :
    (branch kind children).tokens = children.flatMap tokens := by
  rw [tokens_eq, texts, textsOfAll_eq_flatMap]

/-! ## Other views of the texts -/

mutual

theorem texts_nested : ∀ tree : Tree, tree.nested.texts = tree.texts
  | leaf _ _ => rfl
  | branch _ children => textsOfItems_nestedAll children

theorem textsOfItems_nestedAll : ∀ trees : List Tree,
    Json.textsOfItems (nestedAll trees) = textsOfAll trees
  | [] => rfl
  | tree :: rest => by
    rw [nestedAll, Json.textsOfItems, textsOfAll, texts_nested tree, textsOfItems_nestedAll rest]

end

mutual

theorem length_texts : ∀ tree : Tree, tree.texts.length = tree.nodes.countP isLeaf
  | leaf _ _ => rfl
  | branch kind children => by
    have hbranch : isLeaf (branch kind children) = false := rfl
    rw [texts, nodes, List.countP_cons_of_neg (by rw [hbranch]; exact Bool.false_ne_true),
      length_textsOfAll children]

theorem length_textsOfAll : ∀ trees : List Tree,
    (textsOfAll trees).length = (nodesOfAll trees).countP isLeaf
  | [] => rfl
  | tree :: rest => by
    rw [textsOfAll, nodesOfAll, List.length_append, List.countP_append, length_texts tree,
      length_textsOfAll rest]

end

/-- **The loop ends and collects the texts at the leaves**, from left to right.  The stack is empty
after as many turns as the tree has nodes and not before, and the texts that are done then are the
tokens.  They are the texts by recursion over the tree and those in its nested lists, and there are
as many as the tree has leaves. -/
theorem tokens_eq_texts (tree : Tree) :
    (∀ turns, (turn^[turns] ([], [tree])).2 = [] ↔ tree.size ≤ turns) ∧
      (turn^[tree.size] ([], [tree])).1.reverse = tree.tokens ∧
      tree.tokens = tree.texts ∧ tree.nested.texts = tree.texts ∧
      tree.tokens.length = tree.nodes.countP isLeaf := by
  have hsize : sizeOfAll [tree] = tree.size := by rw [sizeOfAll, sizeOfAll, Nat.add_zero]
  have hends : ∀ turns, (turn^[turns] ([], [tree])).2 = [] ↔ tree.size ≤ turns := by
    intro turns
    rw [stack_iterate_turn_eq_nil_iff, hsize]
  have hdone : (turn^[tree.size] ([], [tree])).1.reverse = tree.tokens := by
    have hall := (iterate_turn tree.size ([], [tree])).1
    rw [← collect_eq_allTexts [] [tree], allTexts, (hends tree.size).mpr (Nat.le_refl _), textsOfAll,
      List.append_nil] at hall
    exact hall
  exact ⟨hends, hdone, tokens_eq tree, texts_nested tree, by rw [tokens_eq, length_texts]⟩

end Tree

end GrammarFuzz

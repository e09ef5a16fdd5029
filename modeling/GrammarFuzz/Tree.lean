import GrammarFuzz.Grammar.Rule

/-!
# Syntax trees

A tree has texts at its leaves and carries at every node the kind of the rule that made
it.  Its tokens are the texts in order, and its source is the tokens joined by a
separator.

A tree shrinks by cuts.  A cut removes one child of a repetition: any child where the
repetition may be empty, and any but the last one left where it may not.  The cuts of
a tree come with those of a node before those of the nodes below it.
-/

namespace GrammarFuzz

/-- A syntax tree. -/
inductive Tree where
  | leaf (kind : RuleKind) (text : String)
  | branch (kind : RuleKind) (children : List Tree)

namespace Tree

instance : Inhabited Tree := ⟨leaf .blank ""⟩

/-- The kind of the rule that made the node. -/
def kind : Tree → RuleKind
  | leaf kind _ => kind
  | branch kind _ => kind

/-- Whether the node carries a text. -/
def isLeaf : Tree → Bool
  | leaf _ _ => true
  | branch _ _ => false

/-- The nodes right below. -/
def children : Tree → List Tree
  | leaf _ _ => []
  | branch _ children => children

mutual

/-- The number of nodes. -/
def size : Tree → Nat
  | leaf _ _ => 1
  | branch _ children => 1 + sizeOfAll children

/-- The number of nodes of some trees together. -/
def sizeOfAll : List Tree → Nat
  | [] => 0
  | tree :: rest => size tree + sizeOfAll rest

end

mutual

/-- The number of levels. -/
def depth : Tree → Nat
  | leaf _ _ => 1
  | branch _ children => 1 + depthOfAll children

/-- The greatest number of levels of some trees. -/
def depthOfAll : List Tree → Nat
  | [] => 0
  | tree :: rest => max (depth tree) (depthOfAll rest)

end

mutual

/-- Whether two trees are equal. -/
def same : Tree → Tree → Bool
  | leaf kind text, leaf kind' text' => kind == kind' && text == text'
  | branch kind children, branch kind' children' => kind == kind' && sameAll children children'
  | _, _ => false

/-- Whether two lists of trees are equal. -/
def sameAll : List Tree → List Tree → Bool
  | [], [] => true
  | tree :: rest, tree' :: rest' => same tree tree' && sameAll rest rest'
  | _, _ => false

end

/-! ## Tokens -/

theorem sizeOfAll_append (first second : List Tree) :
    sizeOfAll (first ++ second) = sizeOfAll first + sizeOfAll second := by
  induction first with
  | nil => simp [sizeOfAll]
  | cons tree rest ih => simp [sizeOfAll, ih, Nat.add_assoc]

/-- Moves the texts of the trees on a stack to the texts done, from left to right; the texts done
are in reverse. -/
def collect (done : List String) (stack : List Tree) : List String :=
  match stack with
  | [] => done.reverse
  | leaf _ text :: rest => collect (text :: done) rest
  | branch _ children :: rest => collect done (children ++ rest)
  termination_by sizeOfAll stack
  decreasing_by
  · simp [sizeOfAll, size]
  · simp [sizeOfAll, size, sizeOfAll_append]

/-- The texts at the leaves, from left to right; empty ones count. -/
def tokens (tree : Tree) : List String := collect [] [tree]

/-- The source text: the tokens with a separator between them. -/
def source (separator : String) (tree : Tree) : String := separator.intercalate tree.tokens

mutual

/-- The texts as lists nested like the tree. -/
def nested : Tree → Json
  | leaf _ text => .list [.text text]
  | branch _ children => .list (nestedAll children)

/-- The nested texts of some trees. -/
def nestedAll : List Tree → List Json
  | [] => []
  | tree :: rest => nested tree :: nestedAll rest

end

/-- A node as messages show it. -/
def shown : Tree → String
  | leaf kind text => "Node(" ++ kind.word ++ ", " ++ Text.quoted text ++ ")"
  | branch kind children =>
    "Node(" ++ kind.word ++ ", " ++ toString children.length ++ " children)"

/-! ## Cuts -/

/-- Whether a node of this kind with this many children can lose one of them. -/
def losesChild (kind : RuleKind) (count : Nat) : Bool :=
  match kind with
  | .many => 0 < count
  | .many1 => 1 < count
  | _ => false

mutual

/-- The trees that one cut leads to: those that miss a child of the root, then those that differ
in the first child, in the second child and so on. -/
def variants : Tree → List Tree
  | leaf _ _ => []
  | branch kind children =>
    let here :=
      if losesChild kind children.length then
        (List.range children.length).map fun place => branch kind (children.eraseIdx place)
      else []
    here ++ (variantsOfOne children).map (branch kind)

/-- The lists that differ from a list of trees by one cut in one of them. -/
def variantsOfOne : List Tree → List (List Tree)
  | [] => []
  | tree :: rest =>
    (variants tree).map (· :: rest) ++ (variantsOfOne rest).map (tree :: ·)

end

/-- A cut: the way from the root to a node, as the places of children, and the place of the child
that the node loses. -/
structure Cut where
  path : List Nat
  place : Nat
  deriving DecidableEq, Repr

/-- The cut as seen from a parent with the root at a place. -/
def Cut.below (place : Nat) (cut : Cut) : Cut := { cut with path := place :: cut.path }

mutual

/-- The cuts of a tree. -/
def cuts : Tree → List Cut
  | leaf _ _ => []
  | branch kind children =>
    let here :=
      if losesChild kind children.length then
        (List.range children.length).map fun place => ⟨[], place⟩
      else []
    here ++ cutsFrom 0 children

/-- The cuts of the children from a place on. -/
def cutsFrom (place : Nat) : List Tree → List Cut
  | [] => []
  | tree :: rest => (cuts tree).map (Cut.below place) ++ cutsFrom (place + 1) rest

end

/-- The tree without the child that a way leads to. -/
def without (path : List Nat) (place : Nat) : Tree → Tree :=
  match path with
  | [] => fun
    | leaf kind text => leaf kind text
    | branch kind children => branch kind (children.eraseIdx place)
  | step :: path => fun
    | leaf kind text => leaf kind text
    | branch kind children => branch kind (children.modify step (without path place))

/-- The tree after a cut. -/
def apply (tree : Tree) (cut : Cut) : Tree := tree.without cut.path cut.place

end Tree

end GrammarFuzz

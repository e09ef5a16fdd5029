import GrammarFuzz.Proofs.Grammar.Arena
import GrammarFuzz.Proofs.Tree.Cuts
import Mathlib.Data.List.Forall2

/-!
# Derivations

A tree is a derivation of a rule if it is built as the kind of the rule demands.  Which texts
belong to a pattern is left open: `texts rule text` says that `text` is one of the texts of the
pattern `rule`.

A cut knows nothing of the grammar, and still it leads from a derivation to a derivation of the
same rule (`Derives.of_cutsTo`): only repetitions lose children, and none of them loses its last
one where it may not.
-/

namespace GrammarFuzz

/-- A tree is a node of another one. -/
inductive Tree.Within (node : Tree) : Tree → Prop where
  | root : Within node node
  | child {kind : RuleKind} {children : List Tree} {child : Tree} (hchild : child ∈ children)
      (hnode : Within node child) : Within node (.branch kind children)

@[simp] theorem Tree.within_leaf {node : Tree} {kind : RuleKind} {text : String} :
    node.Within (.leaf kind text) ↔ node = .leaf kind text := by
  constructor
  · rintro ⟨⟩
    rfl
  · rintro rfl
    exact .root

@[simp] theorem Tree.within_branch {node : Tree} {kind : RuleKind} {children : List Tree} :
    node.Within (.branch kind children) ↔
      node = .branch kind children ∨ ∃ child ∈ children, node.Within child := by
  constructor
  · rintro (_ | ⟨hchild, hnode⟩)
    · exact Or.inl rfl
    · exact Or.inr ⟨_, hchild, hnode⟩
  · rintro (rfl | ⟨child, hchild, hnode⟩)
    · exact .root
    · exact .child hchild hnode

/-- The tree is a derivation of the rule. -/
inductive Derives (grammar : Grammar) (texts : Rule → String → Prop) : Rule → Tree → Prop where
  | blank {rule : Rule} (hkind : rule.kind = .blank) :
      Derives grammar texts rule (.leaf .blank "")
  | literal {rule : Rule} {value : String} (hkind : rule.kind = .literal)
      (hvalue : rule.value = .text value) :
      Derives grammar texts rule (.leaf .literal value)
  | pattern {rule : Rule} {text : String} (hkind : rule.kind = .pattern)
      (htext : texts rule text) :
      Derives grammar texts rule (.leaf .pattern text)
  /-- A symbol has one child, of the definition of its name. -/
  | symbol {rule target : Rule} {child : Tree} (hkind : rule.kind = .symbol)
      (hlookup : grammar.lookup rule.name = .ok target)
      (hchild : Derives grammar texts target child) :
      Derives grammar texts rule (.branch .symbol [child])
  /-- A sequence has one child for each member. -/
  | sequence {rule : Rule} {children : List Tree} (hkind : rule.kind = .sequence)
      (hlength : children.length = rule.members.length)
      (hchildren : ∀ (place : Nat) (member : Rule) (child : Tree),
        rule.members[place]? = some member → children[place]? = some child →
          Derives grammar texts member child) :
      Derives grammar texts rule (.branch .sequence children)
  /-- A choice has one child, of one of its members. -/
  | choice {rule member : Rule} {child : Tree} (hkind : rule.kind = .choice)
      (hmember : member ∈ rule.members) (hchild : Derives grammar texts member child) :
      Derives grammar texts rule (.branch .choice [child])
  /-- A repetition has any number of children of its content. -/
  | many {rule content : Rule} {children : List Tree} (hkind : rule.kind = .many)
      (hcontent : rule.content = some content)
      (hchildren : ∀ child ∈ children, Derives grammar texts content child) :
      Derives grammar texts rule (.branch .many children)
  /-- A repetition that may not be empty has a child. -/
  | many1 {rule content : Rule} {children : List Tree} (hkind : rule.kind = .many1)
      (hcontent : rule.content = some content) (hne : children ≠ [])
      (hchildren : ∀ child ∈ children, Derives grammar texts content child) :
      Derives grammar texts rule (.branch .many1 children)
  /-- An annotation has one child, of its content. -/
  | wrapper {rule content : Rule} {child : Tree} (hkind : rule.kind.isWrapper = true)
      (hcontent : rule.content = some content) (hchild : Derives grammar texts content child) :
      Derives grammar texts rule (.branch rule.kind [child])

namespace Derives

variable {grammar : Grammar} {texts : Rule → String → Prop} {rule : Rule} {tree : Tree}

/-- A node carries the kind of the rule that it was made from. -/
theorem kind_eq (hderives : Derives grammar texts rule tree) : tree.kind = rule.kind := by
  cases hderives with
  | blank hkind => exact hkind.symm
  | literal hkind => exact hkind.symm
  | pattern hkind => exact hkind.symm
  | symbol hkind => exact hkind.symm
  | sequence hkind => exact hkind.symm
  | choice hkind => exact hkind.symm
  | many hkind => exact hkind.symm
  | many1 hkind => exact hkind.symm
  | wrapper => rfl

/-- The nodes of terminals carry a text, and no others do. -/
theorem isLeaf_eq (hderives : Derives grammar texts rule tree) :
    tree.isLeaf = rule.isTerminal := by
  unfold Rule.isTerminal
  cases hderives with
  | blank hkind => rw [hkind]; rfl
  | literal hkind => rw [hkind]; rfl
  | pattern hkind => rw [hkind]; rfl
  | symbol hkind => rw [hkind]; rfl
  | sequence hkind => rw [hkind]; rfl
  | choice hkind => rw [hkind]; rfl
  | many hkind => rw [hkind]; rfl
  | many1 hkind => rw [hkind]; rfl
  | wrapper hkind =>
      revert hkind
      cases rule.kind <;> simp [Tree.isLeaf, RuleKind.isWrapper, RuleKind.isTerminal]

/-- The children of a sequence, listed along its members. -/
theorem of_members (hkind : rule.kind = .sequence) {children : List Tree}
    (hchildren : List.Forall₂ (Derives grammar texts) rule.members children) :
    Derives grammar texts rule (.branch .sequence children) := by
  refine sequence hkind hchildren.length_eq.symm fun place member child hmember hchild => ?_
  obtain ⟨hplace, rfl⟩ := List.getElem?_eq_some_iff.mp hmember
  obtain ⟨hplace', rfl⟩ := List.getElem?_eq_some_iff.mp hchild
  exact hchildren.get hplace hplace'

/-- The children of a repetition. -/
theorem of_content {content : Rule} (hkind : rule.kind.isRepetition = true)
    (hcontent : rule.content = some content) {children : List Tree}
    (hne : rule.kind = .many1 → children ≠ [])
    (hchildren : ∀ child ∈ children, Derives grammar texts content child) :
    Derives grammar texts rule (.branch rule.kind children) := by
  cases hrule : rule.kind with
  | many => exact many hrule hcontent hchildren
  | many1 => exact many1 hrule hcontent (hne hrule) hchildren
  | _ => simp [hrule, RuleKind.isRepetition] at hkind

/-- Each child is a derivation of a rule that the rule leads to. -/
theorem exists_leads {kind : RuleKind} {children : List Tree}
    (hderives : Derives grammar texts rule (.branch kind children)) {child : Tree}
    (hchild : child ∈ children) :
    ∃ part, grammar.Leads rule part ∧ Derives grammar texts part child := by
  cases hderives with
  | symbol hkind hlookup hderives =>
      rw [List.mem_singleton.mp hchild]
      exact ⟨_, Or.inr ⟨hkind, hlookup⟩, hderives⟩
  | sequence hkind hlength hchildren =>
      -- there are as many members as children, so a member stands at the place of the child
      obtain ⟨place, hplace⟩ := List.getElem?_of_mem hchild
      have hbound : place < rule.members.length := by
        rw [← hlength]
        exact (List.getElem?_eq_some_iff.mp hplace).1
      have hmember := List.getElem?_eq_getElem hbound
      exact ⟨_, Or.inl (Or.inl (List.getElem_mem hbound)), hchildren place _ child hmember hplace⟩
  | choice hkind hmember hderives =>
      rw [List.mem_singleton.mp hchild]
      exact ⟨_, Or.inl (Or.inl hmember), hderives⟩
  | many hkind hcontent hchildren =>
      exact ⟨_, Or.inl (Or.inr hcontent), hchildren child hchild⟩
  | many1 hkind hcontent hne hchildren =>
      exact ⟨_, Or.inl (Or.inr hcontent), hchildren child hchild⟩
  | wrapper hkind hcontent hderives =>
      rw [List.mem_singleton.mp hchild]
      exact ⟨_, Or.inl (Or.inr hcontent), hderives⟩

/-- Every node of a derivation is a derivation of some rule. -/
theorem within (hwell : grammar.WellFormed) (hrule : rule ∈ grammar.rules)
    (hderives : Derives grammar texts rule tree) {node : Tree} (hnode : node.Within tree) :
    ∃ part ∈ grammar.rules, Derives grammar texts part node := by
  induction hnode generalizing rule with
  | root => exact ⟨rule, hrule, hderives⟩
  | child hchild hnode ih =>
      obtain ⟨part, hleads, hpart⟩ := hderives.exists_leads hchild
      exact ih (hwell.leads_mem hrule hleads) hpart

/-! ## Cuts -/

/-- A child of a sequence may be replaced by another derivation of the same member. -/
theorem replace {front rest : List Tree} {child other : Tree}
    (hlength : (front ++ child :: rest).length = rule.members.length)
    (hchildren : ∀ (place : Nat) (member : Rule) (node : Tree),
      rule.members[place]? = some member → (front ++ child :: rest)[place]? = some node →
        Derives grammar texts member node)
    (hother : ∀ member, Derives grammar texts member child → Derives grammar texts member other)
    (hkind : rule.kind = .sequence) :
    Derives grammar texts rule (.branch .sequence (front ++ other :: rest)) := by
  have hset : front ++ other :: rest = (front ++ child :: rest).set front.length other := by simp
  refine sequence hkind (by rw [hset, List.length_set, hlength]) fun place member node hmember
    hnode => ?_
  by_cases hplace : place = front.length
  · have hchild : (front ++ child :: rest)[place]? = some child := by simp [hplace]
    have heq : node = other := by simpa [hplace] using hnode.symm
    rw [heq]
    exact hother member (hchildren place member child hmember hchild)
  · rw [hset, List.getElem?_set_ne (Ne.symm hplace)] at hnode
    exact hchildren place member node hmember hnode

/-- **A cut of a derivation leads to a derivation of the same rule.** -/
theorem of_cutsTo {variant : Tree} (hderives : Derives grammar texts rule tree)
    (hcut : tree.CutsTo variant) : Derives grammar texts rule variant := by
  induction hcut generalizing rule with
  | @drop kind front rest child hloses =>
      have hsubset : ∀ node ∈ front ++ rest, node ∈ front ++ child :: rest :=
        (List.Sublist.append_left (List.sublist_cons_self child rest) front).subset
      generalize hlist : front ++ child :: rest = children at *
      cases hderives with
      | many hkind hcontent hchildren =>
          exact many hkind hcontent fun node hnode => hchildren node (hsubset node hnode)
      | many1 hkind hcontent _ hchildren =>
          -- there were two children, so one is left
          refine many1 hkind hcontent (fun hnil => ?_)
            fun node hnode => hchildren node (hsubset node hnode)
          obtain ⟨rfl, rfl⟩ := List.append_eq_nil_iff.mp hnil
          rw [← hlist] at hloses
          simp [Tree.losesChild] at hloses
      | wrapper hkind =>
          revert hkind hloses
          cases rule.kind <;> simp [Tree.losesChild, RuleKind.isWrapper]
      | _ => cases hloses
  | @inside kind front rest child smaller hcut ih =>
      -- where there is a single child, it is the one that is cut
      have hsingle : ∀ {only : Tree}, [only] = front ++ child :: rest →
          only = child ∧ front = [] ∧ rest = [] := by
        intro only honly
        cases front <;> simp_all
      -- where there are several, the others stay as they are
      have hmem : ∀ node ∈ front ++ smaller :: rest,
          node = smaller ∨ node ∈ front ++ child :: rest := by
        intro node hnode
        simp only [List.mem_append, List.mem_cons] at hnode ⊢
        tauto
      have hself : child ∈ front ++ child :: rest := by simp
      generalize hlist : front ++ child :: rest = children at *
      cases hderives with
      | symbol hkind hlookup hchild =>
          obtain ⟨rfl, rfl, rfl⟩ := hsingle rfl
          exact symbol hkind hlookup (ih hchild)
      | sequence hkind hlength hchildren =>
          subst hlist
          exact replace hlength hchildren (fun _ => ih) hkind
      | choice hkind hmember hchild =>
          obtain ⟨rfl, rfl, rfl⟩ := hsingle rfl
          exact choice hkind hmember (ih hchild)
      | many hkind hcontent hchildren =>
          refine many hkind hcontent fun node hnode => ?_
          rcases hmem node hnode with rfl | hnode
          · exact ih (hchildren child hself)
          · exact hchildren node hnode
      | many1 hkind hcontent _ hchildren =>
          refine many1 hkind hcontent (by simp) fun node hnode => ?_
          rcases hmem node hnode with rfl | hnode
          · exact ih (hchildren child hself)
          · exact hchildren node hnode
      | wrapper hkind hcontent hchild =>
          obtain ⟨rfl, rfl, rfl⟩ := hsingle rfl
          exact wrapper hkind hcontent (ih hchild)

theorem of_mem_variants {variant : Tree} (hderives : Derives grammar texts rule tree)
    (hvariant : variant ∈ tree.variants) : Derives grammar texts rule variant :=
  hderives.of_cutsTo (Tree.mem_variants_iff.mp hvariant)

end Derives

end GrammarFuzz

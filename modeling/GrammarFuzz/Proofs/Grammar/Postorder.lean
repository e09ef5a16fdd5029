import GrammarFuzz.Proofs.Grammar.Depth
import GrammarFuzz.Proofs.Grammar.Documents
import Mathlib.Data.List.Flatten
import Mathlib.Data.List.Pairwise
import Mathlib.Data.List.Forall2

/-!
# The arena of a document

The reader hands out indices from a counter while it goes down a document, and everything that is
remembered about a rule is kept under its index.  So the arena has to be the document again:
nothing lost, nothing shared, nothing out of order.

On the side of the document there are the objects that its rules are written in, in postorder
(`ruleObjects`), and on the side of the grammar the rules below a definition, in postorder
(`Rule.postorder`).  A rule spells an object (`Spells`) if it has what rules of its kind are
written with and nothing else, and its parts spell the objects inside, in order.

## Strategy

Reading one rule appends its postorder to the arena (`reads_postorder`, by induction on the
document), hence the definitions append theirs one after the other.  The rest is about postorders
alone and needs no run of the reader:

* a rule in a postorder brings its own postorder along as one piece (`postorder_isInfix`), so its
  parts come before it;
* the parts of all rules of a postorder, with its root, are the postorder again
  (`flatMap_parts_perm`), so each rule is referred to once.
-/

namespace GrammarFuzz

/-! ## Postorders of rules -/

namespace Rule

/-- The rules that a rule is built of, in order. -/
def parts (rule : Rule) : List Rule :=
  rule.members ++ rule.content.toList

theorem mem_parts {rule part : Rule} : part ∈ rule.parts ↔ rule.HasPart part := by
  simp only [parts, HasPart, List.mem_append, Option.mem_toList]

mutual

/-- A rule after all that it is built of. -/
def postorder : Rule → List Rule
  | ⟨index, kind, value, name, members, content⟩ =>
    postorderOfMembers members ++ postorderOfContent content ++
      [⟨index, kind, value, name, members, content⟩]

/-- Rules after all that they are built of, one rule after the other. -/
def postorderOfMembers : List Rule → List Rule
  | [] => []
  | rule :: rest => rule.postorder ++ postorderOfMembers rest

/-- A rule that may be absent after all that it is built of. -/
def postorderOfContent : Option Rule → List Rule
  | none => []
  | some rule => rule.postorder

end

theorem postorderOfMembers_eq (members : List Rule) :
    postorderOfMembers members = members.flatMap postorder := by
  induction members with
  | nil => rfl
  | cons first rest ih => rw [postorderOfMembers, ih, List.flatMap_cons]

theorem postorder_eq (rule : Rule) :
    rule.postorder = rule.parts.flatMap postorder ++ [rule] := by
  obtain ⟨index, kind, value, name, members, content⟩ := rule
  rw [postorder, postorderOfMembers_eq, parts, List.flatMap_append]
  cases content with
  | none => rfl
  | some content => rw [postorderOfContent, Option.toList_some, List.flatMap_singleton]

theorem mem_postorder_self (rule : Rule) : rule ∈ rule.postorder := by
  rw [postorder_eq]
  exact List.mem_append_right _ List.mem_cons_self

/-- A rule below another one has all of its own postorder there, in one piece. -/
theorem postorder_isInfix {root rule : Rule} (hrule : rule ∈ root.postorder) :
    rule.postorder <:+: root.postorder := by
  rw [postorder_eq root] at hrule
  rcases List.mem_append.mp hrule with hbelow | hroot
  · obtain ⟨part, hpart, hmem⟩ := List.mem_flatMap.mp hbelow
    have hheight : part.height < root.height := height_lt_of_hasPart (mem_parts.mp hpart)
    have hinside : rule.postorder <:+: part.postorder := postorder_isInfix hmem
    have hbefore : part.postorder <:+: root.parts.flatMap postorder :=
      List.infix_flatMap_of_mem hpart postorder
    rw [postorder_eq root]
    exact (hinside.trans hbefore).trans (List.prefix_append _ _).isInfix
  · rw [List.mem_singleton.mp hroot]
  termination_by root.height

/-- In a postorder, what a rule is built of comes before it. -/
theorem part_rel_of_pairwise {rel : Rule → Rule → Prop} {roots : List Rule}
    (hpairwise : (roots.flatMap postorder).Pairwise rel) {rule part : Rule}
    (hrule : rule ∈ roots.flatMap postorder) (hpart : rule.HasPart part) : rel part rule := by
  obtain ⟨root, hroot, hmem⟩ := List.mem_flatMap.mp hrule
  have hpiece : rule.postorder <:+: roots.flatMap postorder :=
    (postorder_isInfix hmem).trans (List.infix_flatMap_of_mem hroot postorder)
  have hown : rule.postorder.Pairwise rel := hpairwise.sublist hpiece.sublist
  rw [postorder_eq, List.pairwise_append] at hown
  obtain ⟨-, -, hbefore⟩ := hown
  refine hbefore part ?_ rule List.mem_cons_self
  exact List.mem_flatMap.mpr ⟨part, mem_parts.mpr hpart, mem_postorder_self part⟩

/-- If the parts below each root make up the rest of its postorder, the parts below all roots
and the roots make up all the postorders. -/
theorem flatMap_parts_perm_of_forall {roots : List Rule}
    (hroots : ∀ root ∈ roots, (root.postorder.flatMap parts ++ [root]).Perm root.postorder) :
    ((roots.flatMap postorder).flatMap parts ++ roots).Perm (roots.flatMap postorder) := by
  induction roots with
  | nil => exact .refl _
  | cons first rest ih =>
      obtain ⟨hfirst, hrest⟩ := List.forall_mem_cons.mp hroots
      rw [List.flatMap_cons, List.flatMap_append, List.append_assoc]
      -- the first root moves to the front of the references below the others
      have hmove : ((rest.flatMap postorder).flatMap parts ++ first :: rest).Perm
          ([first] ++ ((rest.flatMap postorder).flatMap parts ++ rest)) := List.perm_middle
      refine (hmove.append_left _).trans ?_
      rw [← List.append_assoc]
      exact hfirst.append (ih hrest)

/-- **Every rule below a root is a part of one other rule, once, except for the root.** -/
theorem postorder_parts_perm (root : Rule) :
    (root.postorder.flatMap parts ++ [root]).Perm root.postorder := by
  have hparts : ((root.parts.flatMap postorder).flatMap parts ++ root.parts).Perm
      (root.parts.flatMap postorder) := by
    refine flatMap_parts_perm_of_forall fun part hpart => ?_
    have hheight : part.height < root.height := height_lt_of_hasPart (mem_parts.mp hpart)
    exact postorder_parts_perm part
  rw [postorder_eq, List.flatMap_append, List.flatMap_singleton]
  exact hparts.append_right [root]
  termination_by root.height

theorem flatMap_parts_perm (roots : List Rule) :
    ((roots.flatMap postorder).flatMap parts ++ roots).Perm (roots.flatMap postorder) :=
  flatMap_parts_perm_of_forall fun root _ => postorder_parts_perm root

end Rule

namespace Grammar

/-! ## Objects of rules -/

/-- The documents of rules right inside the document of a rule, as its kind has it. -/
def inside : Json → List Json
  | .object attributes =>
    match (Json.lookup "type" attributes).bind Reader.kind? with
    | some kind =>
      if kind = .sequence ∨ kind = .choice then
        match Json.lookup "members" attributes with
        | some (.list members) => members
        | _ => []
      else if kind.isRepetition ∨ kind.isWrapper then
        (Json.lookup "content" attributes).toList
      else []
    | none => []
  | _ => []

theorem sizeOf_lt_of_mem_inside {document part : Json} (hpart : part ∈ inside document) :
    sizeOf part < sizeOf document := by
  unfold inside at hpart
  split at hpart
  · rename_i attributes
    split at hpart
    · split at hpart
      · split at hpart
        · rename_i members hmembers
          have hlookup := Reader.sizeOf_lookup_lt hmembers
          have hmember := List.sizeOf_lt_of_mem hpart
          simp only [Json.list.sizeOf_spec, Json.object.sizeOf_spec] at hlookup ⊢
          omega
        · cases hpart
      · split at hpart
        · have hlookup := Reader.sizeOf_lookup_lt (Option.mem_toList.mp hpart)
          simp only [Json.object.sizeOf_spec]
          omega
        · cases hpart
    · cases hpart
  · cases hpart

/-- The objects that the rules of a document are written in, each after those inside it. -/
def ruleObjects (document : Json) : List Json :=
  (inside document).attach.flatMap (fun part => ruleObjects part.1) ++ [document]
  termination_by sizeOf document
  decreasing_by exact sizeOf_lt_of_mem_inside part.2

theorem ruleObjects_eq (document : Json) :
    ruleObjects document = (inside document).flatMap ruleObjects ++ [document] := by
  rw [ruleObjects, List.flatMap_subtype fun part _ => rfl, List.unattach_attach]

/-- A rule spells a document: it has the kind of the document and what rules of this kind are
written with, and its parts spell the documents inside. -/
inductive Spells : Json → Rule → Prop where
  | blank {attributes : List (String × Json)} {index : Nat} (hkind : HasKind attributes .blank) :
      Spells (.object attributes) ⟨index, .blank, .null, .null, [], none⟩
  | value {attributes : List (String × Json)} {index : Nat} {kind : RuleKind} {text : String}
      (hkind : HasKind attributes kind) (hterminal : kind = .literal ∨ kind = .pattern)
      (hvalue : Json.lookup "value" attributes = some (.text text)) :
      Spells (.object attributes) ⟨index, kind, .text text, .null, [], none⟩
  | symbol {attributes : List (String × Json)} {index : Nat} {name : Json}
      (hkind : HasKind attributes .symbol) (hname : Json.lookup "name" attributes = some name) :
      Spells (.object attributes) ⟨index, .symbol, .null, name, [], none⟩
  | members {attributes : List (String × Json)} {index : Nat} {kind : RuleKind}
      {documents : List Json} {members : List Rule}
      (hkind : HasKind attributes kind) (hlist : kind = .sequence ∨ kind = .choice)
      (hlookup : Json.lookup "members" attributes = some (.list documents))
      (hmembers : List.Forall₂ Spells documents members) :
      Spells (.object attributes) ⟨index, kind, .null, .null, members, none⟩
  | content {attributes : List (String × Json)} {index : Nat} {kind : RuleKind} {document : Json}
      {content : Rule} (hkind : HasKind attributes kind)
      (haround : kind.isRepetition = true ∨ kind.isWrapper = true)
      (hlookup : Json.lookup "content" attributes = some document)
      (hcontent : Spells document content) :
      Spells (.object attributes) ⟨index, kind, (Json.lookup "value" attributes).getD .null,
        (Json.lookup "name" attributes).getD .null, [], some content⟩

theorem HasKind.bind_kind?_eq {attributes : List (String × Json)} {kind : RuleKind}
    (hkind : HasKind attributes kind) :
    (Json.lookup "type" attributes).bind Reader.kind? = some kind := by
  rw [hkind.2, Option.bind_some, hkind.kind?_eq]

/-- The parts of a rule spell what is right inside its document. -/
theorem Spells.inside {document : Json} {rule : Rule} (hspells : Spells document rule) :
    List.Forall₂ Spells (inside document) rule.parts := by
  cases hspells with
  | blank hkind =>
      simp only [Grammar.inside, hkind.bind_kind?_eq]
      exact .nil
  | value hkind hterminal hvalue =>
      simp only [Grammar.inside, hkind.bind_kind?_eq]
      rcases hterminal with rfl | rfl
      · exact .nil
      · exact .nil
  | symbol hkind hname =>
      simp only [Grammar.inside, hkind.bind_kind?_eq]
      exact .nil
  | members hkind hlist hlookup hmembers =>
      simp only [Grammar.inside, hkind.bind_kind?_eq, if_pos hlist, hlookup]
      simpa only [Rule.parts, Option.toList_none, List.append_nil] using hmembers
  | @content attributes index kind document content hkind haround hlookup hcontent =>
      have hnot : ¬ (kind = .sequence ∨ kind = .choice) := by
        rintro (rfl | rfl)
        · simp [RuleKind.isRepetition, RuleKind.isWrapper] at haround
        · simp [RuleKind.isRepetition, RuleKind.isWrapper] at haround
      simp only [Grammar.inside, hkind.bind_kind?_eq, if_neg hnot, if_pos haround, hlookup]
      exact .cons hcontent .nil

theorem forall₂_flatMap {α β γ δ : Type} {rel : α → β → Prop} {other : γ → δ → Prop}
    {left : α → List γ} {right : β → List δ} {firsts : List α} {seconds : List β}
    (hitems : List.Forall₂ rel firsts seconds)
    (hstep : ∀ first ∈ firsts, ∀ second, rel first second →
      List.Forall₂ other (left first) (right second)) :
    List.Forall₂ other (firsts.flatMap left) (seconds.flatMap right) := by
  induction hitems with
  | nil => exact .nil
  | cons hitem hrest ih =>
      obtain ⟨hfirst, hothers⟩ := List.forall_mem_cons.mp hstep
      exact List.rel_append (hfirst _ hitem) (ih hothers)

/-- **The rules below a rule spell the objects of its document, one by one.** -/
theorem Spells.ruleObjects {document : Json} {rule : Rule} (hspells : Spells document rule) :
    List.Forall₂ Spells (ruleObjects document) rule.postorder := by
  rw [ruleObjects_eq, Rule.postorder_eq]
  refine List.rel_append ?_ (.cons hspells .nil)
  refine forall₂_flatMap hspells.inside fun part hpart made hmade => ?_
  have hsize : sizeOf part < sizeOf document := sizeOf_lt_of_mem_inside hpart
  exact Spells.ruleObjects hmade
  termination_by sizeOf document

/-! ## Reading -/

namespace Reader

/-- Reading items one after the other, each of which appends something to the arena, appends
all of it in order. -/
theorem mapM_appends {α β : Type} {read : α → Reader β} {rel : α → β → Prop}
    {added : β → List Rule} {items : List α} {before after : Array Rule} {made : List β}
    (hitems : ∀ item ∈ items, ∀ {before after : Array Rule} {made : β},
      (read item).run before = .ok (made, after) →
        rel item made ∧ after.toList = before.toList ++ added made)
    (hrun : (items.mapM read).run before = .ok (made, after)) :
    List.Forall₂ rel items made ∧ after.toList = before.toList ++ made.flatMap added := by
  induction items generalizing before made with
  | nil =>
      rw [List.mapM_nil] at hrun
      cases hrun
      exact ⟨.nil, (List.append_nil _).symm⟩
  | cons item rest ih =>
      obtain ⟨hitem, hrest⟩ := List.forall_mem_cons.mp hitems
      rw [List.mapM_cons] at hrun
      obtain ⟨first, middle, hfirst, hrun⟩ := run_bind_ok hrun
      obtain ⟨others, last, hothers, hrun⟩ := run_bind_ok hrun
      cases hrun
      obtain ⟨hrel, hmiddle⟩ := hitem hfirst
      obtain ⟨hrels, hlast⟩ := ih hrest hothers
      refine ⟨.cons hrel hrels, ?_⟩
      rw [hlast, hmiddle, List.append_assoc, List.flatMap_cons]

/-- A rule that is created after its parts completes its postorder. -/
theorem create_appends {kind : RuleKind} {value name : Json} {members : List Rule}
    {content : Option Rule} {before middle after : Array Rule} {made : Rule}
    (hmiddle : middle.toList =
      before.toList ++ (members ++ content.toList).flatMap Rule.postorder)
    (hrun : (create kind value name members content).run middle = .ok (made, after)) :
    made = ⟨middle.size, kind, value, name, members, content⟩ ∧
      after.toList = before.toList ++ made.postorder := by
  rw [run_create] at hrun
  cases hrun
  refine ⟨rfl, ?_⟩
  rw [Array.toList_push, hmiddle, Rule.postorder_eq, List.append_assoc]
  rfl

/-- **Reading a rule appends its postorder to the arena, and the rule spells its document.** -/
theorem reads_postorder {document : Json} (hrule : IsRule document) :
    ∀ {place : Place} {before after : Array Rule} {made : Rule},
      (rule place document).run before = .ok (made, after) →
        Spells document made ∧ after.toList = before.toList ++ made.postorder := by
  induction hrule with
  | intro hframe hparts ih =>
      intro place before after made hrun
      have hleaf : before.toList = before.toList ++
          (([] : List Rule) ++ (none : Option Rule).toList).flatMap Rule.postorder :=
        (List.append_nil _).symm
      cases hframe with
      | blank hkind =>
          rw [rule] at hrun
          simp only [hkind.2, hkind.kind?_eq] at hrun
          obtain ⟨rfl, hafter⟩ := create_appends hleaf hrun
          exact ⟨.blank hkind, hafter⟩
      | value hkind hterminal hvalue =>
          rw [rule_value place hkind.2 hkind.kind?_eq hterminal, hvalue] at hrun
          obtain ⟨rfl, hafter⟩ := create_appends hleaf hrun
          exact ⟨.value hkind hterminal hvalue, hafter⟩
      | symbol hkind hname =>
          rw [rule] at hrun
          simp only [hkind.2, hkind.kind?_eq, hname] at hrun
          obtain ⟨rfl, hafter⟩ := create_appends hleaf hrun
          exact ⟨.symbol hkind hname, hafter⟩
      | @members attributes kind documents hkind hlist hlookup hne =>
          have hread : rule place (.object attributes) =
              (documents.zipIdx.map fun member => (Step.member member.2, member.1)).mapM
                (fun part => rule (place.into part.1) part.2) >>= fun members =>
                create kind .null .null members none := by
            rw [rule_list place hkind.2 hkind.kind?_eq hlist, hlookup, ← rules_eq_mapM]
            cases documents with
            | nil => exact absurd rfl hne
            | cons first rest => rfl
          rw [hread] at hrun
          obtain ⟨members, middle, hmembers, hrun⟩ := run_bind_ok hrun
          obtain ⟨hspells, hmiddle⟩ := mapM_appends (fun part hpart => ih part hpart) hmembers
          rw [List.forall₂_map_left_iff] at hspells
          have hmembers : List.Forall₂ Spells documents members := by
            have hzip := (List.forall₂_map_left_iff (f := Prod.fst)).mpr hspells
            rwa [List.zipIdx_map_fst] at hzip
          rw [← List.append_nil members] at hmiddle
          obtain ⟨rfl, hafter⟩ := create_appends hmiddle hrun
          exact ⟨.members hkind hlist hlookup hmembers, hafter⟩
      | content hkind haround hlookup =>
          rw [rule_content place hkind haround, hlookup] at hrun
          obtain ⟨content, middle, hcontent, hrun⟩ := run_bind_ok hrun
          obtain ⟨hspells, hmiddle⟩ := ih _ List.mem_cons_self hcontent
          rw [← List.flatMap_singleton Rule.postorder content] at hmiddle
          obtain ⟨rfl, hafter⟩ := create_appends hmiddle hrun
          exact ⟨.content hkind haround hlookup hspells, hafter⟩

theorem definitions_appends {document : List (String × Json)}
    (hdocument : ∀ definition ∈ document, IsRule definition.2) {before after : Array Rule}
    {made : List (String × Rule)} (hrun : (definitions document).run before = .ok (made, after)) :
    List.Forall₂ (fun definition entry => entry.1 = definition.1 ∧ Spells definition.2 entry.2)
        document made ∧
      after.toList = before.toList ++ made.flatMap (·.2.postorder) := by
  rw [definitions_eq_mapM] at hrun
  refine mapM_appends (fun definition hdefinition => ?_) hrun
  intro before after entry hrun
  obtain ⟨root, last, hroot, hrun⟩ := run_bind_ok hrun
  cases hrun
  obtain ⟨hspells, hafter⟩ := reads_postorder (hdocument definition hdefinition) hroot
  exact ⟨⟨rfl, hspells⟩, hafter⟩

end Reader

/-! ## The arena -/

/-- Where a grammar refers to rules: in the parts of its rules and in its definitions. -/
def references (grammar : Grammar) : List Rule :=
  grammar.rules.toList.flatMap Rule.parts ++ grammar.definitions.map (·.2)

/-- The grammar is made of the rules of a document and of nothing else. -/
structure Represents (grammar : Grammar) (definitions : List (String × Json)) : Prop where
  /-- Every rule stands at its index. -/
  index_eq : ∀ {place : Nat} {rule : Rule}, grammar.rules[place]? = some rule → rule.index = place
  /-- There are as many rules as objects of rules. -/
  size_eq : grammar.size = (definitions.flatMap fun definition => ruleObjects definition.2).length
  /-- The rules spell these objects in the order of the document. -/
  rules_spell : List.Forall₂ Spells (definitions.flatMap fun definition => ruleObjects definition.2)
    grammar.rules.toList
  /-- The rules are those of the definitions, one after the other, each in postorder. -/
  rules_eq : grammar.rules.toList = grammar.definitions.flatMap (·.2.postorder)
  /-- A rule comes after what it is built of. -/
  index_lt : ∀ {rule part : Rule}, rule ∈ grammar.rules → rule.HasPart part →
    part.index < rule.index
  /-- The references lead to the rules of the arena. -/
  references_perm : grammar.references.Perm grammar.rules.toList
  /-- Each rule is referred to exactly once. -/
  count_eq : ∀ place < grammar.size, (grammar.references.map Rule.index).count place = 1
  /-- The definitions keep their names and their order, and each spells its document. -/
  definitions_spell : List.Forall₂
    (fun definition entry => entry.1 = definition.1 ∧ Spells definition.2 entry.2)
    definitions grammar.definitions
  /-- The first definition is the start rule. -/
  start_spells : ∃ first start, definitions.head? = some first ∧
    grammar.start = .ok (first.1, start) ∧ grammar.startRule = .ok start ∧ Spells first.2 start

theorem IsArena.map_index {rules : Array Rule} (harena : IsArena rules) :
    rules.toList.map Rule.index = List.range rules.size := by
  apply List.ext_getElem
  · simp
  · intro place hplace _
    have hplace : place < rules.size := by simpa using hplace
    simp only [List.getElem_map, List.getElem_range, Array.getElem_toList]
    exact harena.index_eq (Array.getElem?_eq_getElem hplace)

theorem IsArena.pairwise_index_lt {rules : Array Rule} (harena : IsArena rules) :
    rules.toList.Pairwise fun before after => before.index < after.index := by
  rw [← List.pairwise_map (f := Rule.index) (R := (· < ·)), harena.map_index]
  exact List.pairwise_lt_range

/-- An arena that is made of the postorders of the definitions of a document represents it. -/
theorem represents_of_postorder {grammar : Grammar} {definitions : List (String × Json)}
    (harena : IsArena grammar.rules) (hne : definitions ≠ [])
    (hdefinitions : List.Forall₂
      (fun definition entry => entry.1 = definition.1 ∧ Spells definition.2 entry.2)
      definitions grammar.definitions)
    (hrules : grammar.rules.toList = grammar.definitions.flatMap (·.2.postorder)) :
    grammar.Represents definitions := by
  have hroots : grammar.rules.toList =
      (grammar.definitions.map (·.2)).flatMap Rule.postorder := by
    rw [hrules, List.flatMap_map]
  have hspell : List.Forall₂ Spells
      (definitions.flatMap fun definition => ruleObjects definition.2) grammar.rules.toList := by
    rw [hrules]
    exact forall₂_flatMap hdefinitions fun _ _ _ hentry => hentry.2.ruleObjects
  have hperm : grammar.references.Perm grammar.rules.toList := by
    rw [references, hroots]
    exact Rule.flatMap_parts_perm _
  refine ⟨harena.index_eq, ?_, hspell, hrules, ?_, hperm, ?_, hdefinitions, ?_⟩
  · rw [hspell.length_eq]
    rfl
  · intro rule part hrule hpart
    have hpairwise := harena.pairwise_index_lt
    rw [hroots] at hpairwise
    refine Rule.part_rel_of_pairwise hpairwise ?_ hpart
    rw [← hroots]
    exact Array.mem_toList_iff.mpr hrule
  · intro place hplace
    have hindices : (grammar.references.map Rule.index).Perm (List.range grammar.size) := by
      have hmap := hperm.map Rule.index
      rwa [harena.map_index] at hmap
    rw [hindices.count_eq]
    exact List.count_eq_one_of_mem List.nodup_range (List.mem_range.mpr hplace)
  · obtain ⟨first, rest, rfl⟩ := List.exists_cons_of_ne_nil hne
    obtain ⟨⟨name, start⟩, others, ⟨hname, hstart⟩, -, hentries⟩ :=
      List.forall₂_cons_left_iff.mp hdefinitions
    have hname : name = first.1 := hname
    subst hname
    have hfirst : grammar.start = .ok (first.1, start) := by
      unfold Grammar.start
      rw [hentries]
    refine ⟨first, start, rfl, hfirst, ?_, hstart⟩
    unfold startRule
    rw [hfirst]
    rfl

/-- The grammar was read from the document: from itself, from its text or from its bytes. -/
inductive IsReadFrom (grammar : Grammar) (document : Json) : Prop where
  | document (hread : ofDocument document = .ok grammar)
  | text {digitLimit : Option Nat} {text : List Char}
      (hparse : Json.parse digitLimit text = .ok document)
      (hread : ofText digitLimit text = .ok grammar)
  | bytes {digitLimit : Option Nat} {bytes : List UInt8} {text : List Char}
      (hdecode : Text.decodeDocument bytes = .ok text)
      (hparse : Json.parse digitLimit text = .ok document)
      (hread : ofBytes digitLimit bytes = .ok grammar)

theorem IsReadFrom.ofDocument_eq {grammar : Grammar} {document : Json}
    (hread : grammar.IsReadFrom document) : ofDocument document = .ok grammar := by
  cases hread with
  | document hread => exact hread
  | text hparse hread =>
      simp only [ofText, hparse] at hread
      exact hread
  | bytes hdecode hparse hread =>
      simp only [ofBytes, hdecode, ofText, hparse] at hread
      exact hread

/-- The rules and the definitions of a grammar are what the reader made of its document. -/
theorem exists_definitions_of_ofDocument {document : Json} {grammar : Grammar}
    (hread : ofDocument document = .ok grammar) :
    ∃ definitions, document.get? "rules" = some (.object definitions) ∧ definitions ≠ [] ∧
      (∀ definition ∈ definitions, IsRule definition.2) ∧
      (Reader.definitions definitions).run #[] = .ok (grammar.definitions, grammar.rules) := by
  obtain @⟨attributes, definitions, hrules, hne, hexternals, hdefinitions⟩ :=
    exists_ofDocument_eq_ok_iff.mp ⟨grammar, hread⟩
  obtain ⟨externals, hok⟩ := externalsOf_of_allowsExternals hexternals
  obtain ⟨⟨made, rules⟩, hmade⟩ := Reader.definitions_reads hdefinitions #[]
  refine ⟨definitions, hrules, hne, hdefinitions, ?_⟩
  cases definitions with
  | nil => exact absurd rfl hne
  | cons first rest =>
      simp only [ofDocument, hrules, hok, hmade] at hread
      cases hread
      exact hmade

/-! ## One reference to each rule -/

section References

variable {grammar : Grammar} {rule part : Rule}

theorem IsLoaded.references_nodup (hloaded : grammar.IsLoaded) : grammar.references.Nodup := by
  obtain ⟨document, hread⟩ := hloaded.exists_document
  obtain ⟨definitions, -, -, hshape, hrun⟩ := exists_definitions_of_ofDocument hread
  obtain ⟨-, hrules⟩ := Reader.definitions_appends hshape hrun
  have hroots : grammar.rules.toList =
      (grammar.definitions.map (·.2)).flatMap Rule.postorder := by
    rw [hrules, List.flatMap_map]
    rfl
  have hperm : grammar.references.Perm grammar.rules.toList := by
    rw [references, hroots]
    exact Rule.flatMap_parts_perm _
  refine hperm.nodup_iff.mpr (List.Nodup.of_map Rule.index ?_)
  rw [hloaded.wellFormed.arena.map_index]
  exact List.nodup_range

/-- Each rule is a part of one rule at most. -/
theorem IsLoaded.eq_of_hasPart (hloaded : grammar.IsLoaded) {other : Rule}
    (hrule : rule ∈ grammar.rules) (hother : other ∈ grammar.rules) (hpart : rule.HasPart part)
    (hpart' : other.HasPart part) : rule = other := by
  by_contra hne
  have hparts := (List.nodup_flatMap.mp (List.nodup_append.mp hloaded.references_nodup).1).2
  have : Std.Symm (Function.onFun List.Disjoint Rule.parts) := ⟨fun _ _ => List.Disjoint.symm⟩
  have hdisjoint : List.Disjoint rule.parts other.parts :=
    hparts.forall (Array.mem_toList_iff.mpr hrule) (Array.mem_toList_iff.mpr hother) hne
  exact hdisjoint (Rule.mem_parts.mpr hpart) (Rule.mem_parts.mpr hpart')

/-- What a name stands for is a part of no rule. -/
theorem IsLoaded.not_hasPart_of_resolve? (hloaded : grammar.IsLoaded) {name : String}
    (hresolve : grammar.resolve? name = some part) (hrule : rule ∈ grammar.rules) :
    ¬ rule.HasPart part := by
  intro hpart
  have hdefinition : part ∈ grammar.definitions.map (·.2) :=
    List.mem_map.mpr ⟨_, mem_of_definition? hresolve, rfl⟩
  have hparts : part ∈ grammar.rules.toList.flatMap Rule.parts :=
    List.mem_flatMap.mpr ⟨rule, Array.mem_toList_iff.mpr hrule, Rule.mem_parts.mpr hpart⟩
  exact (List.nodup_append.mp hloaded.references_nodup).2.2 part hparts part hdefinition rfl

/-- Different names stand for different rules. -/
theorem IsLoaded.eq_of_resolve? (hloaded : grammar.IsLoaded) {name other : String}
    (hname : grammar.resolve? name = some rule) (hother : grammar.resolve? other = some rule) :
    name = other := by
  have hnodup : (grammar.definitions.map (·.2)).Nodup :=
    (List.nodup_append.mp hloaded.references_nodup).2.1
  have heq := List.inj_on_of_nodup_map hnodup (mem_of_definition? hname)
    (mem_of_definition? hother) rfl
  exact congrArg Prod.fst heq

end References

/-- **The arena of a grammar that was read is its document, rule by rule**: there is one rule for
each object of a rule, in postorder, definition by definition; each is referred to once, spells
its object and comes after its parts; and the definitions are those of the document. -/
theorem IsReadFrom.represents {grammar : Grammar} {document : Json}
    (hread : grammar.IsReadFrom document) :
    ∃ definitions, document.get? "rules" = some (.object definitions) ∧
      grammar.Represents definitions := by
  obtain ⟨definitions, hrules, hne, hshape, hrun⟩ :=
    exists_definitions_of_ofDocument hread.ofDocument_eq
  obtain ⟨hdefinitions, hafter⟩ := Reader.definitions_appends hshape hrun
  have harena := (wellFormed_of_ofDocument hread.ofDocument_eq).arena
  exact ⟨definitions, hrules, represents_of_postorder harena hne hdefinitions hafter⟩

/-! ### Items, then words -/

namespace ItemsThenWords

/-- The letter of words. -/
def letter : Rule := ⟨4, .literal, .text "a", .null, [], none⟩

/-- A word again. -/
def again : Rule := ⟨5, .symbol, .null, .text "word", [], none⟩

/-- A word: a letter or a word again. -/
def word : Rule := ⟨6, .choice, .null, .null, [letter, again], none⟩

end ItemsThenWords

/-- The document of items and of words. -/
def itemsThenWordsDocument : Json :=
  .object [("rules", .object [("items", Items.listDocument), ("word", Chain.wordDocument)])]

/-- The grammar of items and of words: the rules of the second definition follow those of the
first. -/
def itemsThenWords : Grammar :=
  ⟨.null, [], items.rules ++ #[ItemsThenWords.letter, ItemsThenWords.again, ItemsThenWords.word],
    [("items", Items.list), ("word", ItemsThenWords.word)]⟩

theorem ofDocument_itemsThenWords : ofDocument itemsThenWordsDocument = .ok itemsThenWords := by
  have hdefinitions : Reader.definitions
      [("items", Items.listDocument), ("word", Chain.wordDocument)] = (do
        let list ← Reader.rule ⟨"items", []⟩ Items.listDocument
        let word ← Reader.rule ⟨"word", []⟩ Chain.wordDocument
        return [("items", list), ("word", word)]) := by
    simp only [Reader.definitions, bind_assoc, pure_bind]
  rw [Items.rule_items, Chain.rule_word] at hdefinitions
  show ((Reader.definitions [("items", Items.listDocument), ("word", Chain.wordDocument)]).run
    #[] >>= fun pair => Except.ok (⟨.null, [], pair.2, pair.1⟩ : Grammar)) = _
  rw [hdefinitions]
  rfl

theorem represents_itemsThenWords :
    itemsThenWords.IsReadFrom itemsThenWordsDocument ∧
      ∃ definitions, itemsThenWordsDocument.get? "rules" = some (.object definitions) ∧
        itemsThenWords.Represents definitions :=
  ⟨.document ofDocument_itemsThenWords, IsReadFrom.represents (.document ofDocument_itemsThenWords)⟩

end Grammar

end GrammarFuzz

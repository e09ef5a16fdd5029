import GrammarFuzz.Grammar.Document
import GrammarFuzz.Proofs.Step
import Mathlib.Logic.Basic

/-!
# Arenas of rules

The rules of a grammar that was read form an arena: a rule stands at its index, the rules that it
is built of stand in the arena as well, and each has the parts that its kind needs.  The index
therefore identifies a rule, which is what the tables of a generator rest on.

Reading adds to an arena and never changes what stands in it (`Reader.grows_rule`), so the
grammar of a document is well formed (`IsLoaded.wellFormed`).
-/

namespace GrammarFuzz

/-- A rule is built of its members and its content. -/
def Rule.HasPart (rule part : Rule) : Prop :=
  part ∈ rule.members ∨ rule.content = some part

/-- A rule has the parts that its kind needs and no others. -/
def Rule.Shaped (rule : Rule) : Prop :=
  match rule.kind with
  | .blank | .symbol => rule.members = [] ∧ rule.content = none
  | .literal | .pattern =>
    (∃ text, rule.value = .text text) ∧ rule.members = [] ∧ rule.content = none
  | .sequence | .choice => rule.members ≠ [] ∧ rule.content = none
  | .other _ => False
  | _ => rule.members = [] ∧ rule.content ≠ none

/-- A repetition or an annotation is built around a content. -/
theorem Rule.Shaped.exists_content {rule : Rule} (hshaped : rule.Shaped)
    (hkind : rule.kind.isRepetition = true ∨ rule.kind.isWrapper = true) :
    ∃ content, rule.content = some content := by
  unfold Shaped at hshaped
  refine Option.ne_none_iff_exists'.mp ?_
  split at hshaped
  all_goals first
    | exact hshaped.2
    | simp_all [RuleKind.isRepetition, RuleKind.isWrapper]

/-- A rule stands for a text, for a name, for a list of members, or around a content. -/
theorem Rule.Shaped.cases {rule : Rule} (hshaped : rule.Shaped) :
    rule.isTerminal = true ∨ rule.kind = .symbol ∨ rule.kind = .sequence ∧ rule.members ≠ [] ∨
      rule.kind = .choice ∧ rule.members ≠ [] ∨
      (rule.kind.isRepetition = true ∨ rule.kind.isWrapper = true) ∧
        ∃ content, rule.content = some content := by
  unfold Rule.isTerminal
  have hcontent := hshaped.exists_content
  unfold Shaped at hshaped
  cases hkind : rule.kind with
  | blank | literal | pattern => exact Or.inl rfl
  | symbol => exact Or.inr (Or.inl rfl)
  | sequence =>
      rw [hkind] at hshaped
      exact Or.inr (Or.inr (Or.inl ⟨rfl, hshaped.1⟩))
  | choice =>
      rw [hkind] at hshaped
      exact Or.inr (Or.inr (Or.inr (Or.inl ⟨rfl, hshaped.1⟩)))
  | other word =>
      rw [hkind] at hshaped
      exact hshaped.elim
  | _ =>
      rw [hkind] at hcontent
      refine Or.inr (Or.inr (Or.inr (Or.inr ?_)))
      simp_all [RuleKind.isRepetition, RuleKind.isWrapper]

/-- What is no terminal, no symbol and no list of members is a repetition or an annotation. -/
theorem RuleKind.isRepetition_or_isWrapper {kind : RuleKind} (hblank : kind = .blank → False)
    (hliteral : kind = .literal → False) (hpattern : kind = .pattern → False)
    (hsymbol : kind = .symbol → False) (hsequence : kind = .sequence → False)
    (hchoice : kind = .choice → False) (hother : ∀ word, kind = .other word → False) :
    kind.isRepetition = true ∨ kind.isWrapper = true := by
  cases kind <;> simp_all [RuleKind.isRepetition, RuleKind.isWrapper]

namespace Grammar

/-- Rules at their indices, with all that they are built of. -/
structure IsArena (rules : Array Rule) : Prop where
  index_eq : ∀ {place : Nat} {rule : Rule}, rules[place]? = some rule → rule.index = place
  shaped : ∀ {rule : Rule}, rule ∈ rules → rule.Shaped
  part_mem : ∀ {rule part : Rule}, rule ∈ rules → rule.HasPart part → part ∈ rules

namespace IsArena

variable {rules : Array Rule}

theorem empty : IsArena #[] where
  index_eq := by simp
  shaped := by simp
  part_mem := by simp

theorem getElem?_index (harena : IsArena rules) {rule : Rule} (hrule : rule ∈ rules) :
    rules[rule.index]? = some rule := by
  obtain ⟨place, hplace⟩ := Array.mem_iff_getElem?.mp hrule
  rw [harena.index_eq hplace, hplace]

/-- The index tells which rule it is. -/
theorem eq_of_index_eq (harena : IsArena rules) {rule other : Rule} (hrule : rule ∈ rules)
    (hother : other ∈ rules) (hindex : rule.index = other.index) : rule = other := by
  have hget := harena.getElem?_index hrule
  rw [hindex, harena.getElem?_index hother] at hget
  exact (Option.some.inj hget).symm

/-- The next rule may be built of what stands in the arena. -/
theorem push (harena : IsArena rules) {rule : Rule} (hindex : rule.index = rules.size)
    (hshaped : rule.Shaped) (hparts : ∀ part, rule.HasPart part → part ∈ rules) :
    IsArena (rules.push rule) where
  index_eq := by
    intro place other hother
    rw [Array.getElem?_push] at hother
    split at hother
    · rename_i hplace
      rw [← Option.some.inj hother, hindex, hplace]
    · exact harena.index_eq hother
  shaped := by
    intro other hother
    rcases Array.mem_push.mp hother with hother | rfl
    · exact harena.shaped hother
    · exact hshaped
  part_mem := by
    intro other part hother hpart
    refine Array.mem_push.mpr (Or.inl ?_)
    rcases Array.mem_push.mp hother with hother | rfl
    · exact harena.part_mem hother hpart
    · exact hparts part hpart

end IsArena

/-- The rules form an arena, the definitions stand for rules of it, and there is a start rule. -/
structure WellFormed (grammar : Grammar) : Prop where
  arena : IsArena grammar.rules
  definition_mem : ∀ definition ∈ grammar.definitions, definition.2 ∈ grammar.rules
  definitions_ne_nil : grammar.definitions ≠ []

theorem mem_of_definition? {name : String} {rule : Rule} {definitions : List (String × Rule)}
    (hname : definition? name definitions = some rule) : (name, rule) ∈ definitions := by
  induction definitions with
  | nil => simp [definition?] at hname
  | cons first rest ih =>
      obtain ⟨key, target⟩ := first
      simp only [definition?] at hname
      split at hname
      · rename_i hkey
        rw [hkey, Option.some.inj hname]
        exact List.mem_cons_self ..
      · exact List.mem_cons_of_mem _ (ih hname)

/-- What a symbol leads to is a definition of its name. -/
theorem resolve?_of_lookup {grammar : Grammar} {name : Json} {target : Rule}
    (hlookup : grammar.lookup name = .ok target) :
    ∃ key, name = .text key ∧ grammar.resolve? key = some target := by
  unfold lookup at hlookup
  split at hlookup
  · rename_i key
    split at hlookup
    · rename_i rule hresolve
      exact ⟨key, rfl, by rw [hresolve, Except.ok.inj hlookup]⟩
    · cases hlookup
  · cases hlookup
  · cases hlookup
  · cases hlookup

theorem WellFormed.lookup_mem {grammar : Grammar} (hwell : grammar.WellFormed) {name : Json}
    {target : Rule} (hlookup : grammar.lookup name = .ok target) : target ∈ grammar.rules := by
  obtain ⟨key, -, hresolve⟩ := resolve?_of_lookup hlookup
  exact hwell.definition_mem _ (mem_of_definition? hresolve)

theorem WellFormed.startRule_mem {grammar : Grammar} (hwell : grammar.WellFormed) {start : Rule}
    (hstart : grammar.startRule = .ok start) : start ∈ grammar.rules := by
  unfold startRule Grammar.start at hstart
  cases hdefinitions : grammar.definitions with
  | nil => exact absurd hdefinitions hwell.definitions_ne_nil
  | cons first rest =>
      rw [hdefinitions] at hstart
      rw [← Except.ok.inj hstart]
      exact hwell.definition_mem first (by simp [hdefinitions])

/-- A rule leads to its parts and, if it is a symbol, to what its name stands for. -/
def Leads (grammar : Grammar) (rule next : Rule) : Prop :=
  rule.HasPart next ∨ rule.kind = .symbol ∧ grammar.lookup rule.name = .ok next

theorem WellFormed.leads_mem {grammar : Grammar} (hwell : grammar.WellFormed) {rule next : Rule}
    (hrule : rule ∈ grammar.rules) (hleads : grammar.Leads rule next) : next ∈ grammar.rules := by
  rcases hleads with hpart | ⟨-, hlookup⟩
  · exact hwell.arena.part_mem hrule hpart
  · exact hwell.lookup_mem hlookup

/-! ## Reading -/

namespace Reader

/-- Reading has added to an arena and kept what stood in it. -/
structure Grows (before after : Array Rule) : Prop where
  arena : IsArena after
  mem_after : ∀ {rule : Rule}, rule ∈ before → rule ∈ after

theorem Grows.refl {rules : Array Rule} (harena : IsArena rules) : Grows rules rules :=
  ⟨harena, id⟩

theorem Grows.trans {first second third : Array Rule} (hfirst : Grows first second)
    (hsecond : Grows second third) : Grows first third :=
  ⟨hsecond.arena, fun hrule => hsecond.mem_after (hfirst.mem_after hrule)⟩

/-- Readers in a row succeed one after the other. -/
theorem run_bind_ok {α β : Type} {reader : Reader α} {next : α → Reader β}
    {rules after : Array Rule} {value : β}
    (hrun : (reader >>= next).run rules = .ok (value, after)) :
    ∃ first middle, reader.run rules = .ok (first, middle) ∧
      (next first).run middle = .ok (value, after) := by
  rw [StateT.run_bind] at hrun
  obtain ⟨pair, hpair, hnext⟩ := exists_of_bind_ok hrun
  exact ⟨pair.1, pair.2, hpair, hnext⟩

theorem run_create (kind : RuleKind) (value name : Json) (members : List Rule)
    (content : Option Rule) (rules : Array Rule) :
    (create kind value name members content).run rules =
      .ok (⟨rules.size, kind, value, name, members, content⟩,
        rules.push ⟨rules.size, kind, value, name, members, content⟩) := rfl

/-- Creating a rule from parts of the arena grows it. -/
theorem grows_create {kind : RuleKind} {value name : Json} {members : List Rule}
    {content : Option Rule} {rules after : Array Rule} {made : Rule} (harena : IsArena rules)
    (hrun : (create kind value name members content).run rules = .ok (made, after))
    (hshaped : (Rule.mk rules.size kind value name members content).Shaped)
    (hparts : ∀ part, part ∈ members ∨ content = some part → part ∈ rules) :
    Grows rules after ∧ made ∈ after := by
  rw [run_create] at hrun
  cases hrun
  refine ⟨⟨harena.push rfl hshaped hparts, fun hrule => ?_⟩, Array.mem_push_self⟩
  exact Array.mem_push.mpr (Or.inl hrule)

/-- A rule that is no terminal, no symbol and no list of members is built around a content. -/
theorem shaped_around {kind : RuleKind} (hblank : kind = .blank → False)
    (hsymbol : kind = .symbol → False) (hterminal : ¬ kind.isTerminal = true)
    (hlist : ¬ (kind = .sequence ∨ kind = .choice)) (hknown : kind ∈ RuleKind.known) (index : Nat)
    (value name : Json) (content : Rule) :
    (Rule.mk index kind value name [] (some content)).Shaped := by
  cases kind <;> simp_all [Rule.Shaped, RuleKind.isTerminal, RuleKind.known]

theorem mem_known_of_kind? {type : Json} {kind : RuleKind} (hkind : kind? type = some kind) :
    kind ∈ RuleKind.known := by
  unfold kind? at hkind
  split at hkind
  · exact List.mem_of_find?_eq_some hkind
  · cases hkind

/-- A sequence or a choice is read through its members. -/
theorem rule_list (place : Place) {attributes : List (String × Json)} {type : Json}
    {kind : RuleKind} (htype : Json.lookup "type" attributes = some type)
    (hkind : kind? type = some kind) (hlist : kind = .sequence ∨ kind = .choice) :
    rule place (.object attributes) =
      match Json.lookup "members" attributes with
      | none => throw (.missing place kind "members")
      | some (.list (first :: rest)) => rules place 0 (first :: rest) >>= fun members =>
        create kind .null .null members none
      | some _ => throw (.noMembers place kind) := by
  rw [rule]
  rcases hlist with rfl | rfl <;>
    · simp only [htype, hkind, RuleKind.isTerminal, Bool.false_eq_true, if_false, true_or, or_true,
        if_true]
      split <;> simp_all

/-- An annotation or a repetition is read through its content. -/
theorem rule_around (place : Place) {attributes : List (String × Json)} {type : Json}
    {kind : RuleKind} (htype : Json.lookup "type" attributes = some type)
    (hkind : kind? type = some kind) (hblank : kind = .blank → False)
    (hsymbol : kind = .symbol → False) (hterminal : ¬ kind.isTerminal = true)
    (hlist : ¬ (kind = .sequence ∨ kind = .choice)) :
    rule place (.object attributes) =
      match Json.lookup "content" attributes with
      | none => throw (.missing place kind "content")
      | some content => rule (place.into .content) content >>= fun content =>
        create kind ((Json.lookup "value" attributes).getD .null)
          ((Json.lookup "name" attributes).getD .null) [] (some content) := by
  rw [rule]
  simp only [htype, hkind, hterminal, hlist, Bool.false_eq_true, if_false]
  split <;> simp_all

/-- Reading the rule at a place grows every arena, by that rule among others. -/
def GrowsAt (place : Place) (document : Json) : Prop :=
  ∀ {before after : Array Rule} {made : Rule}, IsArena before →
    (rule place document).run before = .ok (made, after) → Grows before after ∧ made ∈ after

/-- Reading the members at a place grows every arena, by those members among others. -/
def GrowsBelow (place : Place) (number : Nat) (documents : List Json) : Prop :=
  ∀ {before after : Array Rule} {made : List Rule}, IsArena before →
    (rules place number documents).run before = .ok (made, after) →
      Grows before after ∧ made.length = documents.length ∧ ∀ member ∈ made, member ∈ after

theorem grows_rule (place : Place) (document : Json) : GrowsAt place document := by
  -- the induction is on the reader itself, for rules and for lists of members at once
  refine rule.induct GrowsAt GrowsBelow ?_ ?_ ?_ ?_ ?_ ?_ ?_ ?_ ?_ ?_ ?_ ?_ ?_ ?_ ?_ ?_
    place document
  · intro place attributes htype before after made harena hrun
    simp only [rule, htype] at hrun
    cases hrun
  · intro place attributes type htype hkind before after made harena hrun
    simp only [rule, htype, hkind] at hrun
    cases hrun
  · intro place attributes type htype hkind before after made harena hrun
    simp only [rule, htype, hkind] at hrun
    exact grows_create harena hrun (by simp [Rule.Shaped]) (by simp)
  · intro place attributes type htype hkind hname before after made harena hrun
    simp only [rule, htype, hkind, hname] at hrun
    cases hrun
  · intro place attributes type htype hkind name hname before after made harena hrun
    simp only [rule, htype, hkind, hname] at hrun
    exact grows_create harena hrun (by simp [Rule.Shaped]) (by simp)
  · intro place attributes type htype kind hblank hsymbol hkind hterminal hvalue
      before after made harena hrun
    simp only [rule, htype, hkind, hterminal, hvalue, if_true] at hrun
    cases hrun
  · intro place attributes type htype kind hblank hsymbol hkind hterminal value hvalue
      before after made harena hrun
    simp only [rule, htype, hkind, hterminal, hvalue, if_true] at hrun
    refine grows_create harena hrun ?_ (by simp)
    cases kind <;> simp_all [Rule.Shaped, RuleKind.isTerminal]
  · intro place attributes type htype kind hblank hsymbol hkind hterminal value hnot hvalue
      before after made harena hrun
    simp only [rule, htype, hkind, hterminal, hvalue, if_true] at hrun
    cases hrun
  · intro place attributes type htype kind hblank hsymbol hkind hterminal hlist hmembers
      before after made harena hrun
    simp only [rule_list place htype hkind hlist, hmembers] at hrun
    cases hrun
  · intro place attributes type htype kind hblank hsymbol hkind hterminal hlist first rest hmembers
      hsize ih before after made harena hrun
    simp only [rule_list place htype hkind hlist, hmembers] at hrun
    obtain ⟨members, middle, hread, hcreate⟩ := run_bind_ok hrun
    obtain ⟨hgrows, hlength, hmem⟩ := ih harena hread
    -- a list that is not empty is read to members that are not
    have hne : members ≠ [] := by
      intro hnil
      rw [hnil] at hlength
      simp at hlength
    obtain ⟨hgrows', hmade⟩ := grows_create hgrows.arena hcreate
      (by rcases hlist with rfl | rfl <;> simp [Rule.Shaped, hne]) (by simpa using hmem)
    exact ⟨hgrows.trans hgrows', hmade⟩
  · intro place attributes type htype kind hblank hsymbol hkind hterminal hlist value hnot hmembers
      before after made harena hrun
    simp only [rule_list place htype hkind hlist, hmembers] at hrun
    cases hrun
  · intro place attributes type htype kind hblank hsymbol hkind hterminal hlist hcontent
      before after made harena hrun
    simp only [rule_around place htype hkind hblank hsymbol hterminal hlist, hcontent] at hrun
    cases hrun
  · intro place attributes type htype kind hblank hsymbol hkind hterminal hlist content hcontent
      hsize ih before after made harena hrun
    simp only [rule_around place htype hkind hblank hsymbol hterminal hlist, hcontent] at hrun
    obtain ⟨inner, middle, hread, hcreate⟩ := run_bind_ok hrun
    obtain ⟨hgrows, hinner⟩ := ih harena hread
    obtain ⟨hgrows', hmade⟩ := grows_create hgrows.arena hcreate
      (shaped_around hblank hsymbol hterminal hlist (mem_known_of_kind? hkind) _ _ _ _)
      (by simpa using hinner)
    exact ⟨hgrows.trans hgrows', hmade⟩
  · intro place document hnot before after made harena hrun
    unfold rule at hrun
    split at hrun
    · exact absurd rfl (hnot _)
    · cases hrun
  · intro place number before after made harena hrun
    simp only [rules] at hrun
    cases hrun
    exact ⟨Grows.refl harena, rfl, by simp⟩
  · intro place number document rest ihfirst ihrest before after made harena hrun
    simp only [rules] at hrun
    obtain ⟨first, middle, hfirst, hrun⟩ := run_bind_ok hrun
    obtain ⟨others, last, hothers, hrun⟩ := run_bind_ok hrun
    cases hrun
    obtain ⟨hgrows, hmem⟩ := ihfirst harena hfirst
    obtain ⟨hgrows', hlength, hmem'⟩ := ihrest hgrows.arena hothers
    refine ⟨hgrows.trans hgrows', by simp [hlength], ?_⟩
    intro member hmember
    rcases List.mem_cons.mp hmember with rfl | hmember
    · exact hgrows'.mem_after hmem
    · exact hmem' member hmember

theorem grows_definitions {document : List (String × Json)} {before after : Array Rule}
    {made : List (String × Rule)} (harena : IsArena before)
    (hrun : (definitions document).run before = .ok (made, after)) :
    Grows before after ∧ made.length = document.length ∧
      ∀ definition ∈ made, definition.2 ∈ after := by
  induction document generalizing before after made with
  | nil =>
      cases hrun
      exact ⟨Grows.refl harena, rfl, by simp⟩
  | cons first rest ih =>
      obtain ⟨name, body⟩ := first
      simp only [definitions] at hrun
      obtain ⟨root, middle, hroot, hrun⟩ := run_bind_ok hrun
      obtain ⟨others, last, hothers, hrun⟩ := run_bind_ok hrun
      cases hrun
      obtain ⟨hgrows, hmem⟩ := grows_rule ⟨name, []⟩ body harena hroot
      obtain ⟨hgrows', hlength, hmem'⟩ := ih hgrows.arena hothers
      refine ⟨hgrows.trans hgrows', by simp [hlength], ?_⟩
      intro definition hdefinition
      rcases List.mem_cons.mp hdefinition with rfl | hdefinition
      · exact hgrows'.mem_after hmem
      · exact hmem' definition hdefinition

end Reader

/-! ## Loaded grammars -/

/-- A grammar that was read from a document, from its text or from its bytes. -/
inductive IsLoaded (grammar : Grammar) : Prop where
  | document {document : Json} (hread : ofDocument document = .ok grammar)
  | text {digitLimit : Option Nat} {text : List Char} (hread : ofText digitLimit text = .ok grammar)
  | bytes {digitLimit : Option Nat} {bytes : List UInt8}
      (hread : ofBytes digitLimit bytes = .ok grammar)

theorem exists_document_of_ofText {digitLimit : Option Nat} {text : List Char} {grammar : Grammar}
    (hread : ofText digitLimit text = .ok grammar) :
    ∃ document, ofDocument document = .ok grammar := by
  unfold ofText at hread
  split at hread
  · exact ⟨_, hread⟩
  · cases hread

theorem IsLoaded.exists_document {grammar : Grammar} (hloaded : grammar.IsLoaded) :
    ∃ document, ofDocument document = .ok grammar := by
  cases hloaded with
  | document hread => exact ⟨_, hread⟩
  | text hread => exact exists_document_of_ofText hread
  | bytes hread =>
      unfold ofBytes at hread
      split at hread
      · exact exists_document_of_ofText hread
      · cases hread

theorem wellFormed_of_ofDocument {document : Json} {grammar : Grammar}
    (hread : ofDocument document = .ok grammar) : grammar.WellFormed := by
  unfold ofDocument at hread
  split at hread
  · split at hread
    · rename_i first rest _
      obtain ⟨externals, -, hread⟩ := exists_of_bind_ok hread
      obtain ⟨⟨definitions, rules⟩, hdefinitions, hread⟩ := exists_of_bind_ok hread
      cases hread
      obtain ⟨hgrows, hlength, hmem⟩ := Reader.grows_definitions IsArena.empty hdefinitions
      refine ⟨hgrows.arena, hmem, ?_⟩
      have hne : definitions ≠ [] := by
        rw [← List.length_pos_iff, hlength]
        simp
      exact hne
    · cases hread
  · cases hread

/-- **A grammar that was loaded is well formed.** -/
theorem IsLoaded.wellFormed {grammar : Grammar} (hloaded : grammar.IsLoaded) :
    grammar.WellFormed := by
  obtain ⟨document, hread⟩ := hloaded.exists_document
  exact wellFormed_of_ofDocument hread

/-! ### A word is a letter or a word again -/

namespace Chain

/-- The letter. -/
def letter : Rule := ⟨0, .literal, .text "a", .null, [], none⟩

/-- A word again. -/
def again : Rule := ⟨1, .symbol, .null, .text "word", [], none⟩

/-- A word: a letter or a word again. -/
def word : Rule := ⟨2, .choice, .null, .null, [letter, again], none⟩

end Chain

/-- A small grammar that leads back to itself. -/
def chain : Grammar := ⟨.null, [], #[Chain.letter, Chain.again, Chain.word], [("word", Chain.word)]⟩

namespace Chain

/-- The document of the letter. -/
def letterDocument : Json := .object [("type", .text "STRING"), ("value", .text "a")]

/-- The document of a word again. -/
def againDocument : Json := .object [("type", .text "SYMBOL"), ("name", .text "word")]

/-- The document of a word. -/
def wordDocument : Json :=
  .object [("type", .text "CHOICE"), ("members", .list [letterDocument, againDocument])]

theorem rule_letter (place : Place) :
    Reader.rule place letterDocument = Reader.create .literal (.text "a") .null [] none := by
  rw [letterDocument, Reader.rule]
  rfl

theorem rule_again (place : Place) :
    Reader.rule place againDocument = Reader.create .symbol .null (.text "word") [] none := by
  rw [againDocument, Reader.rule]
  rfl

theorem rule_word (place : Place) :
    Reader.rule place wordDocument = (do
      let letter ← Reader.create .literal (.text "a") .null [] none
      let again ← Reader.create .symbol .null (.text "word") [] none
      Reader.create .choice .null .null [letter, again] none) := by
  have hrules : Reader.rules place 0 [letterDocument, againDocument] = (do
      let letter ← Reader.create .literal (.text "a") .null [] none
      let again ← Reader.create .symbol .null (.text "word") [] none
      return [letter, again]) := by
    rw [Reader.rules, Reader.rules, Reader.rules, rule_letter, rule_again]
    rfl
  rw [wordDocument, Reader.rule_list place rfl rfl (Or.inr rfl)]
  show (Reader.rules place 0 [letterDocument, againDocument] >>= fun members =>
    Reader.create .choice .null .null members none) = _
  rw [hrules]
  rfl

end Chain

/-- The document of the small grammar. -/
def chainDocument : Json := .object [("rules", .object [("word", Chain.wordDocument)])]

theorem chain_isLoaded : chain.IsLoaded := by
  -- `rule` recurses on the size of a document, so it has to be rewritten before it computes.
  have hdefinitions : Reader.definitions [("word", Chain.wordDocument)] =
      (do return [("word", ← Reader.rule ⟨"word", []⟩ Chain.wordDocument)]) := rfl
  rw [Chain.rule_word] at hdefinitions
  have hread : ofDocument chainDocument = .ok chain := by
    show ((Reader.definitions [("word", Chain.wordDocument)]).run #[] >>= fun pair =>
      Except.ok (⟨.null, [], pair.2, pair.1⟩ : Grammar)) = _
    rw [hdefinitions]
    rfl
  exact .document hread

/-! ### A list of one or more items -/

namespace Items

/-- The letter. -/
def letter : Rule := ⟨0, .literal, .text "a", .null, [], none⟩

/-- A digit. -/
def digit : Rule := ⟨1, .pattern, .text "[01]", .null, [], none⟩

/-- An item: the letter or a digit. -/
def item : Rule := ⟨2, .choice, .null, .null, [letter, digit], none⟩

/-- Items. -/
def list : Rule := ⟨3, .many1, .null, .null, [], some item⟩

end Items

/-- A small grammar with a pattern and a repetition that may not be empty. -/
def items : Grammar :=
  ⟨.null, [], #[Items.letter, Items.digit, Items.item, Items.list], [("items", Items.list)]⟩

namespace Items

/-- The document of the letter. -/
def letterDocument : Json := .object [("type", .text "STRING"), ("value", .text "a")]

/-- The document of a digit. -/
def digitDocument : Json := .object [("type", .text "PATTERN"), ("value", .text "[01]")]

/-- The document of an item. -/
def itemDocument : Json :=
  .object [("type", .text "CHOICE"), ("members", .list [letterDocument, digitDocument])]

/-- The document of the items. -/
def listDocument : Json := .object [("type", .text "REPEAT1"), ("content", itemDocument)]

theorem rule_letter (place : Place) :
    Reader.rule place letterDocument = Reader.create .literal (.text "a") .null [] none := by
  rw [letterDocument, Reader.rule]
  rfl

theorem rule_digit (place : Place) :
    Reader.rule place digitDocument = Reader.create .pattern (.text "[01]") .null [] none := by
  rw [digitDocument, Reader.rule]
  rfl

theorem rule_item (place : Place) :
    Reader.rule place itemDocument = (do
      let letter ← Reader.create .literal (.text "a") .null [] none
      let digit ← Reader.create .pattern (.text "[01]") .null [] none
      Reader.create .choice .null .null [letter, digit] none) := by
  have hrules : Reader.rules place 0 [letterDocument, digitDocument] = (do
      let letter ← Reader.create .literal (.text "a") .null [] none
      let digit ← Reader.create .pattern (.text "[01]") .null [] none
      return [letter, digit]) := by
    rw [Reader.rules, Reader.rules, Reader.rules, rule_letter, rule_digit]
    rfl
  rw [itemDocument, Reader.rule_list place rfl rfl (Or.inr rfl)]
  show (Reader.rules place 0 [letterDocument, digitDocument] >>= fun members =>
    Reader.create .choice .null .null members none) = _
  rw [hrules]
  rfl

theorem rule_items (place : Place) :
    Reader.rule place listDocument = (do
      let letter ← Reader.create .literal (.text "a") .null [] none
      let digit ← Reader.create .pattern (.text "[01]") .null [] none
      let item ← Reader.create .choice .null .null [letter, digit] none
      Reader.create .many1 .null .null [] (some item)) := by
  have hkind : Reader.kind? (.text "REPEAT1") = some .many1 := rfl
  rw [listDocument, Reader.rule_around place rfl hkind nofun nofun (by decide) (by decide)]
  show (Reader.rule (place.into .content) itemDocument >>= fun content =>
    Reader.create .many1 .null .null [] (some content)) = _
  rw [rule_item]
  rfl

end Items

/-- The document of the grammar of items. -/
def itemsDocument : Json := .object [("rules", .object [("items", Items.listDocument)])]

theorem items_isLoaded : items.IsLoaded := by
  have hdefinitions : Reader.definitions [("items", Items.listDocument)] =
      (do return [("items", ← Reader.rule ⟨"items", []⟩ Items.listDocument)]) := rfl
  rw [Items.rule_items] at hdefinitions
  have hread : ofDocument itemsDocument = .ok items := by
    show ((Reader.definitions [("items", Items.listDocument)]).run #[] >>= fun pair =>
      Except.ok (⟨.null, [], pair.2, pair.1⟩ : Grammar)) = _
    rw [hdefinitions]
    rfl
  exact .document hread

end Grammar

end GrammarFuzz

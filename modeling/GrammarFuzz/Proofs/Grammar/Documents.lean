import GrammarFuzz.Proofs.Grammar.Arena
import GrammarFuzz.Proofs.Json.Written

/-!
# Documents of grammars

Which documents are grammars, and which fault is reported for those that are none, said without
the reader.  The document of a rule is looked at in two parts: what it has to hold itself
(`Frame`, or else a `Fault`), and the documents inside it, which have to be rules again.  A
document is a rule if the frames go all the way down (`IsRule`); otherwise there is a first fault,
reading each document before those inside it and those in order (`FirstFault`).

## Strategy

The reader goes through the frame of a document first and then through the documents inside it
(`rule_of_frame`), so it reads every rule and stops with every first fault.  That both
statements are equivalences needs no run of the reader: a document is a rule or has a first fault
(`isRule_or_firstFault`), and the reader cannot do both.
-/

namespace GrammarFuzz

/-- The member that the documents of rules of a kind cannot do without. -/
def RuleKind.key? : RuleKind → Option String
  | .blank => none
  | .literal | .pattern => some "value"
  | .symbol => some "name"
  | .sequence | .choice => some "members"
  | _ => some "content"

/-- A kind of documents stands for a text, for a name, for a list, or goes around a content. -/
theorem RuleKind.cases_of_mem_known {kind : RuleKind} (hknown : kind ∈ known) :
    kind = .blank ∨ (kind = .literal ∨ kind = .pattern) ∨ kind = .symbol ∨
      (kind = .sequence ∨ kind = .choice) ∨ kind.isRepetition = true ∨ kind.isWrapper = true := by
  cases kind <;> simp_all [known, isRepetition, isWrapper]

theorem RuleKind.key?_of_terminal {kind : RuleKind} (hterminal : kind = .literal ∨ kind = .pattern) :
    kind.key? = some "value" := by
  rcases hterminal with rfl | rfl <;> rfl

theorem RuleKind.key?_of_list {kind : RuleKind} (hlist : kind = .sequence ∨ kind = .choice) :
    kind.key? = some "members" := by
  rcases hlist with rfl | rfl <;> rfl

theorem RuleKind.key?_of_around {kind : RuleKind}
    (haround : kind.isRepetition = true ∨ kind.isWrapper = true) : kind.key? = some "content" := by
  cases kind <;> simp_all [key?, isRepetition, isWrapper]

theorem RuleKind.ofWord?_word : ∀ kind ∈ known, ofWord? kind.word = some kind := by decide

namespace Grammar

/-! ## Documents of rules -/

/-- The object is one of a rule of this kind. -/
def HasKind (attributes : List (String × Json)) (kind : RuleKind) : Prop :=
  kind ∈ RuleKind.known ∧ Json.lookup "type" attributes = some (.text kind.word)

/-- The document is that of a rule as far as the documents inside it do not matter.  These are
listed with the steps to them. -/
inductive Frame : Json → List (Step × Json) → Prop where
  | blank {attributes : List (String × Json)} (hkind : HasKind attributes .blank) :
      Frame (.object attributes) []
  | value {attributes : List (String × Json)} {kind : RuleKind} {text : String}
      (hkind : HasKind attributes kind) (hterminal : kind = .literal ∨ kind = .pattern)
      (hvalue : Json.lookup "value" attributes = some (.text text)) :
      Frame (.object attributes) []
  | symbol {attributes : List (String × Json)} {name : Json}
      (hkind : HasKind attributes .symbol) (hname : Json.lookup "name" attributes = some name) :
      Frame (.object attributes) []
  | members {attributes : List (String × Json)} {kind : RuleKind} {members : List Json}
      (hkind : HasKind attributes kind) (hlist : kind = .sequence ∨ kind = .choice)
      (hmembers : Json.lookup "members" attributes = some (.list members))
      (hne : members ≠ []) :
      Frame (.object attributes) (members.zipIdx.map fun member => (.member member.2, member.1))
  | content {attributes : List (String × Json)} {kind : RuleKind} {content : Json}
      (hkind : HasKind attributes kind)
      (haround : kind.isRepetition = true ∨ kind.isWrapper = true)
      (hcontent : Json.lookup "content" attributes = some content) :
      Frame (.object attributes) [(.content, content)]

/-- What is wrong with the document of a rule at a place, whatever the documents inside it are. -/
inductive Fault (place : Place) : Json → DocumentError → Prop where
  | notObject {document : Json} (hdocument : ∀ attributes, document ≠ .object attributes) :
      Fault place document (.notRule place)
  | noType {attributes : List (String × Json)} (htype : Json.lookup "type" attributes = none) :
      Fault place (.object attributes) (.notRule place)
  | unknownKind {attributes : List (String × Json)} {type : Json}
      (htype : Json.lookup "type" attributes = some type)
      (hunknown : ∀ kind ∈ RuleKind.known, type ≠ .text kind.word) :
      Fault place (.object attributes) (.unknownKind type)
  | missing {attributes : List (String × Json)} {kind : RuleKind} {key : String}
      (hkind : HasKind attributes kind) (hkey : kind.key? = some key)
      (hmissing : Json.lookup key attributes = none) :
      Fault place (.object attributes) (.missing place kind key)
  | valueNotText {attributes : List (String × Json)} {kind : RuleKind} {value : Json}
      (hkind : HasKind attributes kind) (hterminal : kind = .literal ∨ kind = .pattern)
      (hvalue : Json.lookup "value" attributes = some value)
      (htext : ∀ text, value ≠ .text text) :
      Fault place (.object attributes) (.valueNotText place kind)
  | noMembers {attributes : List (String × Json)} {kind : RuleKind} {value : Json}
      (hkind : HasKind attributes kind) (hlist : kind = .sequence ∨ kind = .choice)
      (hmembers : Json.lookup "members" attributes = some value)
      (hvalue : ∀ members, value = .list members → members = []) :
      Fault place (.object attributes) (.noMembers place kind)

/-- The document is that of a rule, with all the documents inside it. -/
inductive IsRule : Json → Prop where
  | intro {document : Json} {parts : List (Step × Json)} (hframe : Frame document parts)
      (hparts : ∀ part ∈ parts, IsRule part.2) : IsRule document

/-- The first fault of a document at a place: its own, or that of the first document inside it
that is no rule. -/
inductive FirstFault : Place → Json → DocumentError → Prop where
  | own {place : Place} {document : Json} {error : DocumentError}
      (hfault : Fault place document error) : FirstFault place document error
  | inside {place : Place} {document : Json} {error : DocumentError}
      {front rest : List (Step × Json)} {step : Step} {part : Json}
      (hframe : Frame document (front ++ (step, part) :: rest))
      (hfront : ∀ before ∈ front, IsRule before.2)
      (hpart : FirstFault (place.into step) part error) : FirstFault place document error

/-! ## Documents of grammars -/

/-- The external symbols are absent, void, or of a form that holds several. -/
def AllowsExternals (attributes : List (String × Json)) : Prop :=
  ∀ externals, Json.lookup "externals" attributes = some externals →
    externals.isVoid = true ∨ (∃ items, externals = .list items) ∨
      (∃ text, externals = .text text) ∨ ∃ members, externals = .object members

/-- The document is that of a grammar. -/
inductive IsDocument : Json → Prop where
  | intro {attributes definitions : List (String × Json)}
      (hrules : Json.lookup "rules" attributes = some (.object definitions))
      (hne : definitions ≠ []) (hexternals : AllowsExternals attributes)
      (hdefinitions : ∀ definition ∈ definitions, IsRule definition.2) :
      IsDocument (.object attributes)

/-- The first fault of a document that is none of a grammar. -/
inductive IsRefused : Json → DocumentError → Prop where
  | notObject {document : Json} (hdocument : ∀ attributes, document ≠ .object attributes) :
      IsRefused document .notObject
  | noRules {attributes : List (String × Json)}
      (hrules : ∀ definitions,
        Json.lookup "rules" attributes = some (.object definitions) → definitions = []) :
      IsRefused (.object attributes) .noRules
  | externals {attributes definitions : List (String × Json)} {externals : Json}
      (hrules : Json.lookup "rules" attributes = some (.object definitions))
      (hne : definitions ≠ []) (hlookup : Json.lookup "externals" attributes = some externals)
      (hexternals : ¬ AllowsExternals attributes) :
      IsRefused (.object attributes) (.externalsNotList externals)
  | definition {attributes front rest : List (String × Json)} {name : String} {body : Json}
      {error : DocumentError}
      (hrules : Json.lookup "rules" attributes = some (.object (front ++ (name, body) :: rest)))
      (hexternals : AllowsExternals attributes)
      (hfront : ∀ before ∈ front, IsRule before.2) (hbody : FirstFault ⟨name, []⟩ body error) :
      IsRefused (.object attributes) error

/-- A value stands for the document that it spells if it is a text, else for itself. -/
inductive Denotes (digitLimit : Option Nat) : Json → Json → Prop where
  | text {text : String} {document : Json}
      (hparse : Json.parse digitLimit text.toList = .ok document) :
      Denotes digitLimit (.text text) document
  | itself {document : Json} (htext : ∀ text, document ≠ .text text) :
      Denotes digitLimit document document

/-- Reading a text does not come to a surrogate that is no half of a pair.  A document with such a
surrogate may be one of a grammar, whose texts are no texts here. -/
def SpellsCharacters (digitLimit : Option Nat) (text : List Char) : Prop :=
  ∀ failure, Json.parse digitLimit text = .error failure → failure.fault ≠ .loneSurrogate

/-! ## Places -/

/-- The document one step into a document. -/
def part? : Step → Json → Option Json
  | .member number, .object attributes =>
    match Json.lookup "members" attributes with
    | some (.list members) => members[number]?
    | _ => none
  | .content, .object attributes => Json.lookup "content" attributes
  | _, _ => none

/-- The document that some steps lead to. -/
def ruleAt? : List Step → Json → Option Json
  | [], document => some document
  | step :: steps, document => (part? step document).bind (ruleAt? steps)

/-- The place that the message of a fault begins with. -/
def DocumentError.place? : DocumentError → Option Place
  | .notRule place | .missing place _ _ | .valueNotText place _ | .noMembers place _ => some place
  | _ => none

theorem DocumentError.message_of_place? {error : DocumentError} {place : Place}
    (hplace : error.place? = some place) :
    ∃ reason, error.message = place.text ++ ": " ++ reason := by
  unfold place? at hplace
  split at hplace
  all_goals cases hplace
  · have hword : ": rule must be an object with a type" =
        ": " ++ "rule must be an object with a type" := by decide
    refine ⟨"rule must be an object with a type", ?_⟩
    show place.text ++ ": rule must be an object with a type" = _
    rw [hword, String.append_assoc]
  · rename_i kind key
    refine ⟨kind.word ++ " rule is missing '" ++ key ++ "'", ?_⟩
    show place.text ++ ": " ++ kind.word ++ " rule is missing '" ++ key ++ "'" = _
    simp only [String.append_assoc]
  · exact ⟨_, String.append_assoc ..⟩
  · exact ⟨_, String.append_assoc ..⟩

/-! ## The two parts of a document -/

theorem kind?_eq_some_iff {type : Json} {kind : RuleKind} :
    Reader.kind? type = some kind ↔ kind ∈ RuleKind.known ∧ type = .text kind.word := by
  constructor
  · intro hkind
    refine ⟨Reader.mem_known_of_kind? hkind, ?_⟩
    unfold Reader.kind? at hkind
    split at hkind
    · have hword := List.find?_some hkind
      simp only [beq_iff_eq] at hword
      rw [hword]
    · cases hkind
  · rintro ⟨hknown, rfl⟩
    exact RuleKind.ofWord?_word kind hknown

theorem HasKind.kind?_eq {attributes : List (String × Json)} {kind : RuleKind}
    (hkind : HasKind attributes kind) : Reader.kind? (.text kind.word) = some kind :=
  RuleKind.ofWord?_word kind hkind.1

theorem kind?_eq_none_iff {type : Json} :
    Reader.kind? type = none ↔ ∀ kind ∈ RuleKind.known, type ≠ .text kind.word := by
  rw [Option.eq_none_iff_forall_ne_some]
  refine forall_congr' fun kind => ?_
  rw [Ne, kind?_eq_some_iff, not_and]

theorem HasKind.frame_or_fault (place : Place) {attributes : List (String × Json)}
    {kind : RuleKind} (hkind : HasKind attributes kind) :
    (∃ parts, Frame (.object attributes) parts) ∨
      ∃ error, Fault place (.object attributes) error := by
  rcases RuleKind.cases_of_mem_known hkind.1 with rfl | hterminal | rfl | hlist | haround
  · exact Or.inl ⟨_, .blank hkind⟩
  · have hkey := RuleKind.key?_of_terminal hterminal
    cases hvalue : Json.lookup "value" attributes with
    | none => exact Or.inr ⟨_, .missing hkind hkey hvalue⟩
    | some value =>
        cases value with
        | text text => exact Or.inl ⟨_, .value hkind hterminal hvalue⟩
        | _ => exact Or.inr ⟨_, .valueNotText hkind hterminal hvalue nofun⟩
  · cases hname : Json.lookup "name" attributes with
    | none => exact Or.inr ⟨_, .missing hkind rfl hname⟩
    | some name => exact Or.inl ⟨_, .symbol hkind hname⟩
  · have hkey := RuleKind.key?_of_list hlist
    cases hmembers : Json.lookup "members" attributes with
    | none => exact Or.inr ⟨_, .missing hkind hkey hmembers⟩
    | some value =>
        by_cases hvalue : ∃ members, value = .list members ∧ members ≠ []
        · obtain ⟨members, rfl, hne⟩ := hvalue
          exact Or.inl ⟨_, .members hkind hlist hmembers hne⟩
        · refine Or.inr ⟨_, .noMembers hkind hlist hmembers fun members heq => ?_⟩
          exact Classical.byContradiction fun hne => hvalue ⟨members, heq, hne⟩
  · have hkey := RuleKind.key?_of_around haround
    cases hcontent : Json.lookup "content" attributes with
    | none => exact Or.inr ⟨_, .missing hkind hkey hcontent⟩
    | some content => exact Or.inl ⟨_, .content hkind haround hcontent⟩

/-- **The document of a rule has a frame or a fault of its own.** -/
theorem frame_or_fault (place : Place) (document : Json) :
    (∃ parts, Frame document parts) ∨ ∃ error, Fault place document error := by
  cases document with
  | object attributes =>
      cases htype : Json.lookup "type" attributes with
      | none => exact Or.inr ⟨_, .noType htype⟩
      | some type =>
          cases hword : Reader.kind? type with
          | none => exact Or.inr ⟨_, .unknownKind htype (kind?_eq_none_iff.mp hword)⟩
          | some kind =>
              obtain ⟨hknown, rfl⟩ := kind?_eq_some_iff.mp hword
              exact HasKind.frame_or_fault place ⟨hknown, htype⟩
  | _ => exact Or.inr ⟨_, .notObject nofun⟩

theorem Frame.sizeOf_lt {document : Json} {parts : List (Step × Json)}
    (hframe : Frame document parts) : ∀ part ∈ parts, sizeOf part.2 < sizeOf document := by
  cases hframe with
  | blank | value | symbol => simp
  | members hkind hlist hmembers hne =>
      intro part hpart
      obtain ⟨member, hmember, rfl⟩ := List.mem_map.mp hpart
      have hsize := List.sizeOf_lt_of_mem (List.fst_mem_of_mem_zipIdx hmember)
      have hlookup := Reader.sizeOf_lookup_lt hmembers
      simp only [Json.list.sizeOf_spec, Json.object.sizeOf_spec] at hlookup ⊢
      omega
  | content hkind haround hcontent =>
      have hlookup := Reader.sizeOf_lookup_lt hcontent
      simp only [List.mem_singleton, forall_eq, Json.object.sizeOf_spec]
      omega

/-- A step of a frame leads to the document that it is listed with. -/
theorem Frame.part?_eq {document : Json} {parts : List (Step × Json)}
    (hframe : Frame document parts) : ∀ part ∈ parts, part? part.1 document = some part.2 := by
  cases hframe with
  | blank | value | symbol => simp
  | members hkind hlist hmembers hne =>
      intro part hpart
      obtain ⟨⟨member, number⟩, hmember, rfl⟩ := List.mem_map.mp hpart
      simp only [part?, hmembers]
      exact List.mk_mem_zipIdx_iff_getElem?.mp hmember
  | content hkind haround hcontent => simp [part?, hcontent]

/-- Either all items have a property, or one is the first that has not. -/
theorem all_or_first {α : Type} (p : α → Prop) (items : List α) :
    (∀ item ∈ items, p item) ∨
      ∃ front item rest, items = front ++ item :: rest ∧ (∀ before ∈ front, p before) ∧
        ¬ p item := by
  induction items with
  | nil => simp
  | cons first rest ih =>
      by_cases hfirst : p first
      · rcases ih with hrest | ⟨front, item, others, rfl, hfront, hitem⟩
        · exact Or.inl (List.forall_mem_cons.mpr ⟨hfirst, hrest⟩)
        · exact Or.inr ⟨first :: front, item, others, rfl,
            List.forall_mem_cons.mpr ⟨hfirst, hfront⟩, hitem⟩
      · exact Or.inr ⟨[], first, rest, rfl, by simp, hfirst⟩

/-- **A document is that of a rule, or it has a first fault.** -/
theorem isRule_or_firstFault (place : Place) (document : Json) :
    IsRule document ∨ ∃ error, FirstFault place document error := by
  rcases frame_or_fault place document with ⟨parts, hframe⟩ | ⟨error, hfault⟩
  · rcases all_or_first (fun part => IsRule part.2) parts with
      hparts | ⟨front, ⟨step, part⟩, rest, rfl, hfront, hpart⟩
    · exact Or.inl (.intro hframe hparts)
    · have hsize : sizeOf part < sizeOf document := hframe.sizeOf_lt (step, part) (by simp)
      have hinside := (isRule_or_firstFault (place.into step) part).resolve_left hpart
      obtain ⟨error, herror⟩ := hinside
      exact Or.inr ⟨error, .inside hframe hfront herror⟩
  · exact Or.inr ⟨error, .own hfault⟩
  termination_by sizeOf document

/-- The place of a first fault leads to a document with this fault of its own. -/
theorem FirstFault.exists_ruleAt? {place : Place} {document : Json} {error : DocumentError}
    (hfault : FirstFault place document error) :
    ∃ steps faulty, ruleAt? steps document = some faulty ∧
      Fault ⟨place.definition, place.steps ++ steps⟩ faulty error := by
  induction hfault with
  | own hfault => exact ⟨[], _, rfl, by rwa [List.append_nil]⟩
  | @inside place document error front rest step part hframe hfront hpart ih =>
      obtain ⟨steps, faulty, hsteps, hfaulty⟩ := ih
      refine ⟨step :: steps, faulty, ?_, ?_⟩
      · simp only [ruleAt?, hframe.part?_eq (step, part) (by simp), Option.bind_some, hsteps]
      · rwa [Place.into, List.append_assoc] at hfaulty

theorem Fault.place?_eq {place other : Place} {document : Json} {error : DocumentError}
    (hfault : Fault place document error) (hother : error.place? = some other) :
    other = place := by
  cases hfault <;> cases hother <;> rfl

namespace Reader

/-! ## Readers that succeed and readers that fail -/

/-- The reader succeeds, whatever was created before. -/
def Reads {α : Type} (reader : Reader α) : Prop :=
  ∀ before, ∃ result, reader.run before = .ok result

/-- The reader fails with this error, whatever was created before. -/
def Refuses {α : Type} (reader : Reader α) (error : DocumentError) : Prop :=
  ∀ before, reader.run before = .error error

section

variable {α β : Type} {error : DocumentError}

theorem Reads.pure (value : α) : Reads (pure value) := fun before => ⟨(value, before), rfl⟩

theorem Reads.create (kind : RuleKind) (value name : Json) (members : List Rule)
    (content : Option Rule) : Reads (create kind value name members content) :=
  fun before => ⟨_, run_create kind value name members content before⟩

theorem Refuses.throw (error : DocumentError) : Refuses (throw error : Reader α) error :=
  fun _ => rfl

theorem Reads.bind {reader : Reader α} {next : α → Reader β} (hreader : Reads reader)
    (hnext : ∀ value, Reads (next value)) : Reads (reader >>= next) := by
  intro before
  obtain ⟨⟨value, after⟩, hvalue⟩ := hreader before
  obtain ⟨result, hresult⟩ := hnext value after
  refine ⟨result, ?_⟩
  rw [StateT.run_bind, hvalue]
  exact hresult

theorem Refuses.bind {reader : Reader α} {next : α → Reader β} (hreader : Refuses reader error) :
    Refuses (reader >>= next) error := by
  intro before
  rw [StateT.run_bind, hreader before]
  rfl

theorem Reads.bind_refuses {reader : Reader α} {next : α → Reader β} (hreader : Reads reader)
    (hnext : ∀ value, Refuses (next value) error) : Refuses (reader >>= next) error := by
  intro before
  obtain ⟨⟨value, after⟩, hvalue⟩ := hreader before
  rw [StateT.run_bind, hvalue]
  exact hnext value after

theorem Reads.mapM {read : β → Reader α} {items : List β}
    (hitems : ∀ item ∈ items, Reads (read item)) : Reads (items.mapM read) := by
  induction items with
  | nil => exact .pure []
  | cons first rest ih =>
      obtain ⟨hfirst, hrest⟩ := List.forall_mem_cons.mp hitems
      rw [List.mapM_cons]
      exact hfirst.bind fun value => (ih hrest).bind fun values => .pure (value :: values)

/-- The first item that is refused ends the reading. -/
theorem Refuses.mapM {read : β → Reader α} {front rest : List β} {item : β}
    (hfront : ∀ before ∈ front, Reads (read before)) (hitem : Refuses (read item) error) :
    Refuses ((front ++ item :: rest).mapM read) error := by
  induction front with
  | nil =>
      rw [List.nil_append, List.mapM_cons]
      exact hitem.bind
  | cons first front ih =>
      obtain ⟨hfirst, hothers⟩ := List.forall_mem_cons.mp hfront
      rw [List.cons_append, List.mapM_cons]
      exact hfirst.bind_refuses fun value => (ih hothers).bind

end

/-! ## What the reader does with a document -/

/-- A terminal is read from its value. -/
theorem rule_value (place : Place) {attributes : List (String × Json)} {type : Json}
    {kind : RuleKind} (htype : Json.lookup "type" attributes = some type)
    (hkind : kind? type = some kind) (hterminal : kind = .literal ∨ kind = .pattern) :
    rule place (.object attributes) =
      match Json.lookup "value" attributes with
      | none => throw (.missing place kind "value")
      | some (.text value) => create kind (.text value) .null [] none
      | some _ => throw (.valueNotText place kind) := by
  rw [rule, htype]
  dsimp only
  rw [hkind]
  rcases hterminal with rfl | rfl
  · rfl
  · rfl

/-- The members of a rule are read one after the other, each at the step to it. -/
theorem rules_eq_mapM (place : Place) (number : Nat) (documents : List Json) :
    rules place number documents =
      ((documents.zipIdx number).map fun member => (Step.member member.2, member.1)).mapM
        fun part => rule (place.into part.1) part.2 := by
  induction documents generalizing number with
  | nil => rw [rules]; rfl
  | cons first rest ih => rw [rules, ih, List.zipIdx_cons, List.map_cons, List.mapM_cons]

/-- `rule_around` for the kinds that go around a content, by name. -/
theorem rule_content (place : Place) {attributes : List (String × Json)} {kind : RuleKind}
    (hkind : HasKind attributes kind)
    (haround : kind.isRepetition = true ∨ kind.isWrapper = true) :
    rule place (.object attributes) =
      match Json.lookup "content" attributes with
      | none => throw (.missing place kind "content")
      | some content => rule (place.into .content) content >>= fun content =>
        create kind ((Json.lookup "value" attributes).getD .null)
          ((Json.lookup "name" attributes).getD .null) [] (some content) := by
  refine rule_around place hkind.2 hkind.kind?_eq ?_ ?_ ?_ ?_
  all_goals
    cases kind <;>
      simp_all [RuleKind.isRepetition, RuleKind.isWrapper, RuleKind.isTerminal]

/-- **A document with a frame is read through the documents inside it**, and nothing fails after
them. -/
theorem rule_of_frame (place : Place) {document : Json} {parts : List (Step × Json)}
    (hframe : Frame document parts) :
    ∃ finish : List Rule → Reader Rule, (∀ made, Reads (finish made)) ∧
      rule place document =
        (parts.mapM fun part => rule (place.into part.1) part.2) >>= finish := by
  cases hframe with
  | blank hkind =>
      refine ⟨fun _ => create .blank .null .null [] none, fun _ => .create _ _ _ _ _, ?_⟩
      rw [rule]
      simp only [hkind.2, hkind.kind?_eq]
      rfl
  | @value attributes kind text hkind hterminal hvalue =>
      refine ⟨fun _ => create kind (.text text) .null [] none, fun _ => .create _ _ _ _ _, ?_⟩
      rw [rule_value place hkind.2 hkind.kind?_eq hterminal, hvalue]
      rfl
  | @symbol attributes name hkind hname =>
      refine ⟨fun _ => create .symbol .null name [] none, fun _ => .create _ _ _ _ _, ?_⟩
      rw [rule]
      simp only [hkind.2, hkind.kind?_eq, hname]
      rfl
  | @members attributes kind members hkind hlist hmembers hne =>
      refine ⟨fun made => create kind .null .null made none, fun _ => .create _ _ _ _ _, ?_⟩
      rw [rule_list place hkind.2 hkind.kind?_eq hlist, hmembers,
        ← rules_eq_mapM]
      cases members with
      | nil => exact absurd rfl hne
      | cons first rest => rfl
  | @content attributes kind content hkind haround hcontent =>
      refine ⟨fun made => create kind ((Json.lookup "value" attributes).getD .null)
        ((Json.lookup "name" attributes).getD .null) [] made.head?, fun _ => .create _ _ _ _ _, ?_⟩
      rw [rule_content place hkind haround, hcontent, List.mapM_cons, List.mapM_nil]
      simp only [bind_assoc, pure_bind, List.head?_cons]

/-- **A document with a fault of its own is refused with it.** -/
theorem rule_of_fault {place : Place} {document : Json} {error : DocumentError}
    (hfault : Fault place document error) : Refuses (rule place document) error := by
  suffices hthrow : rule place document = throw error by
    rw [hthrow]
    exact .throw error
  cases hfault with
  | notObject hdocument =>
      unfold rule
      split
      · exact absurd rfl (hdocument _)
      · rfl
  | noType htype =>
      rw [rule]
      simp only [htype]
  | unknownKind htype hunknown =>
      rw [rule]
      simp only [htype, kind?_eq_none_iff.mpr hunknown]
  | @missing attributes kind key hkind hkey hmissing =>
      rcases RuleKind.cases_of_mem_known hkind.1 with rfl | hterminal | rfl | hlist | haround
      · cases hkey
      · cases (RuleKind.key?_of_terminal hterminal).symm.trans hkey
        rw [rule_value place hkind.2 hkind.kind?_eq hterminal, hmissing]
      · cases hkey
        rw [rule]
        simp only [hkind.2, hkind.kind?_eq, hmissing]
      · cases (RuleKind.key?_of_list hlist).symm.trans hkey
        rw [rule_list place hkind.2 hkind.kind?_eq hlist, hmissing]
      · cases (RuleKind.key?_of_around haround).symm.trans hkey
        rw [rule_content place hkind haround, hmissing]
  | @valueNotText attributes kind value hkind hterminal hvalue htext =>
      rw [rule_value place hkind.2 hkind.kind?_eq hterminal, hvalue]
      cases value with
      | text text => exact absurd rfl (htext text)
      | _ => rfl
  | @noMembers attributes kind value hkind hlist hmembers hvalue =>
      rw [rule_list place hkind.2 hkind.kind?_eq hlist, hmembers]
      cases value with
      | list members => rw [hvalue members rfl]
      | _ => rfl

theorem reads_of_isRule {document : Json} (hrule : IsRule document) :
    ∀ place, Reads (rule place document) := by
  induction hrule with
  | intro hframe hparts ih =>
      intro place
      obtain ⟨finish, hfinish, hrule⟩ := rule_of_frame place hframe
      rw [hrule]
      exact Reads.bind (.mapM fun part hpart => ih part hpart _) hfinish

theorem refuses_of_firstFault {place : Place} {document : Json} {error : DocumentError}
    (hfault : FirstFault place document error) : Refuses (rule place document) error := by
  induction hfault with
  | own hfault => exact rule_of_fault hfault
  | inside hframe hfront hpart ih =>
      obtain ⟨finish, -, hrule⟩ := rule_of_frame _ hframe
      rw [hrule]
      refine Refuses.bind (.mapM ?_ ih)
      exact fun before hbefore => reads_of_isRule (hfront before hbefore) _

theorem definitions_eq_mapM (document : List (String × Json)) :
    definitions document =
      document.mapM fun definition => do
        return (definition.1, ← rule ⟨definition.1, []⟩ definition.2) := by
  induction document with
  | nil => rfl
  | cons first rest ih =>
      rw [definitions, ih, List.mapM_cons]
      simp only [bind_assoc, pure_bind]

theorem definitions_reads {document : List (String × Json)}
    (hdocument : ∀ definition ∈ document, IsRule definition.2) : Reads (definitions document) := by
  rw [definitions_eq_mapM]
  refine .mapM fun definition hdefinition => ?_
  exact Reads.bind (reads_of_isRule (hdocument definition hdefinition) _) fun _ => .pure _

theorem definitions_refuses {front rest : List (String × Json)} {name : String} {body : Json}
    {error : DocumentError} (hfront : ∀ before ∈ front, IsRule before.2)
    (hbody : FirstFault ⟨name, []⟩ body error) :
    Refuses (definitions (front ++ (name, body) :: rest)) error := by
  rw [definitions_eq_mapM]
  refine .mapM (fun before hbefore => ?_) (Refuses.bind (refuses_of_firstFault hbody))
  exact Reads.bind (reads_of_isRule (hfront before hbefore) _) fun _ => .pure _

end Reader

/-! ## What is done with a document -/

theorem externalsOf_of_allowsExternals {attributes : List (String × Json)}
    (hallows : AllowsExternals attributes) :
    ∃ externals, externalsOf ((Json.lookup "externals" attributes).getD .null) = .ok externals := by
  cases hlookup : Json.lookup "externals" attributes with
  | none => exact ⟨[], rfl⟩
  | some externals =>
      simp only [Option.getD_some, externalsOf]
      by_cases hvoid : externals.isVoid = true
      · exact ⟨[], if_pos hvoid⟩
      · rw [if_neg hvoid]
        rcases hallows externals hlookup with hvoid' | ⟨items, rfl⟩ | ⟨text, rfl⟩ | ⟨members, rfl⟩
        · exact absurd hvoid' hvoid
        · exact ⟨_, rfl⟩
        · exact ⟨_, rfl⟩
        · exact ⟨_, rfl⟩

theorem externalsOf_of_not_allowsExternals {attributes : List (String × Json)} {externals : Json}
    (hlookup : Json.lookup "externals" attributes = some externals)
    (hnot : ¬ AllowsExternals attributes) :
    externalsOf externals = .error (.externalsNotList externals) := by
  unfold externalsOf
  split
  · rename_i hvoid
    refine absurd (fun other hother => ?_) hnot
    cases hlookup.symm.trans hother
    exact Or.inl hvoid
  · cases externals with
    | list _ | text _ | object _ =>
        refine absurd (fun other hother => ?_) hnot
        cases hlookup.symm.trans hother
        simp
    | _ => rfl

theorem ofDocument_of_isDocument {document : Json} (hdocument : IsDocument document) :
    ∃ grammar, ofDocument document = .ok grammar := by
  obtain @⟨attributes, definitions, hrules, hne, hexternals, hdefinitions⟩ := hdocument
  obtain ⟨externals, hok⟩ := externalsOf_of_allowsExternals hexternals
  obtain ⟨⟨made, rules⟩, hmade⟩ := Reader.definitions_reads hdefinitions #[]
  cases definitions with
  | nil => exact absurd rfl hne
  | cons first rest =>
      refine ⟨⟨(Json.lookup "name" attributes).getD .null, externals, rules, made⟩, ?_⟩
      simp only [ofDocument, hrules, hok, hmade]
      rfl

theorem ofDocument_of_isRefused {document : Json} {error : DocumentError}
    (hrefused : IsRefused document error) : ofDocument document = .error error := by
  cases hrefused with
  | notObject hdocument =>
      unfold ofDocument
      split
      · exact absurd rfl (hdocument _)
      · rfl
  | noRules hrules =>
      simp only [ofDocument]
      split
      · rename_i hlookup
        cases hrules _ hlookup
      · rfl
  | @externals attributes definitions externals hrules hne hlookup hexternals =>
      cases definitions with
      | nil => exact absurd rfl hne
      | cons first rest =>
          simp only [ofDocument, hrules, hlookup, Option.getD_some,
            externalsOf_of_not_allowsExternals hlookup hexternals]
          rfl
  | @definition attributes front rest name body error hrules hexternals hfront hbody =>
      obtain ⟨externals, hok⟩ := externalsOf_of_allowsExternals hexternals
      have hrun : (Reader.definitions (front ++ (name, body) :: rest)).run #[] = .error error :=
        Reader.definitions_refuses hfront hbody #[]
      cases hdefinitions : front ++ (name, body) :: rest with
      | nil => simp at hdefinitions
      | cons first others =>
          rw [hdefinitions] at hrules hrun
          simp only [ofDocument, hrules, hok, hrun]
          rfl

/-- **A document is that of a grammar, or it is refused with its first fault.** -/
theorem isDocument_or_isRefused (document : Json) :
    IsDocument document ∨ ∃ error, IsRefused document error := by
  cases document with
  | object attributes =>
      by_cases hrules : ∃ definitions,
          Json.lookup "rules" attributes = some (.object definitions) ∧ definitions ≠ []
      · obtain ⟨definitions, hrules, hne⟩ := hrules
        by_cases hexternals : AllowsExternals attributes
        · rcases all_or_first (fun definition => IsRule definition.2) definitions with
            hdefinitions | ⟨front, ⟨name, body⟩, rest, rfl, hfront, hbody⟩
          · exact Or.inl (.intro hrules hne hexternals hdefinitions)
          · obtain ⟨error, hfault⟩ := (isRule_or_firstFault ⟨name, []⟩ body).resolve_left hbody
            exact Or.inr ⟨error, .definition hrules hexternals hfront hfault⟩
        · -- what is not allowed is there
          cases hlookup : Json.lookup "externals" attributes with
          | none => exact absurd (fun _ hother => nomatch hlookup.symm.trans hother) hexternals
          | some externals => exact Or.inr ⟨_, .externals hrules hne hlookup hexternals⟩
      · refine Or.inr ⟨_, .noRules fun definitions hlookup => ?_⟩
        exact Classical.byContradiction fun hne => hrules ⟨definitions, hlookup, hne⟩
  | _ => exact Or.inr ⟨_, .notObject nofun⟩

theorem exists_ofDocument_eq_ok_iff {document : Json} :
    (∃ grammar, ofDocument document = .ok grammar) ↔ IsDocument document := by
  refine ⟨?_, ofDocument_of_isDocument⟩
  rintro ⟨grammar, hgrammar⟩
  refine (isDocument_or_isRefused document).resolve_right ?_
  rintro ⟨error, hrefused⟩
  cases hgrammar.symm.trans (ofDocument_of_isRefused hrefused)

theorem ofDocument_eq_error_iff {document : Json} {error : DocumentError} :
    ofDocument document = .error error ↔ IsRefused document error := by
  refine ⟨fun herror => ?_, ofDocument_of_isRefused⟩
  rcases isDocument_or_isRefused document with hdocument | ⟨other, hrefused⟩
  · obtain ⟨grammar, hgrammar⟩ := ofDocument_of_isDocument hdocument
    cases hgrammar.symm.trans herror
  · cases (ofDocument_of_isRefused hrefused).symm.trans herror
    exact hrefused

/-- What a refused document names the place of is at this place. -/
theorem IsRefused.exists_ruleAt? {document : Json} {error : DocumentError} {place : Place}
    (hrefused : IsRefused document error) (hplace : error.place? = some place) :
    ∃ definitions body faulty, document.get? "rules" = some (.object definitions) ∧
      (place.definition, body) ∈ definitions ∧ ruleAt? place.steps body = some faulty ∧
      Fault place faulty error := by
  cases hrefused with
  | notObject | noRules | externals => cases hplace
  | @definition attributes front rest name body error hrules hexternals hfront hbody =>
      obtain ⟨steps, faulty, hsteps, hfaulty⟩ := hbody.exists_ruleAt?
      cases hfaulty.place?_eq hplace
      exact ⟨_, body, faulty, hrules, by simp, hsteps, hfaulty⟩

section Values

variable {digitLimit : Option Nat}

theorem Denotes.ofValue_eq {value document : Json} (hdenotes : Denotes digitLimit value document) :
    ofValue digitLimit value = ofDocument document := by
  cases hdenotes with
  | text hparse => simp only [ofValue, ofText, hparse]
  | itself htext =>
      unfold ofValue
      split
      · exact absurd rfl (htext _)
      · rfl

theorem ofValue_of_parse_error {text : String} {failure : Json.ParseError}
    (hparse : Json.parse digitLimit text.toList = .error failure) :
    ofValue digitLimit (.text text) = .error (.ofParseError text.toList failure) := by
  simp only [ofValue, ofText, hparse]

/-- A text is no document, or the value stands for one. -/
theorem denotes_or_parse_error (digitLimit : Option Nat) (value : Json) :
    (∃ document, Denotes digitLimit value document) ∨
      ∃ text failure, value = .text text ∧ Json.parse digitLimit text.toList = .error failure := by
  cases value with
  | text text =>
      cases hparse : Json.parse digitLimit text.toList with
      | ok document => exact Or.inl ⟨document, .text hparse⟩
      | error failure => exact Or.inr ⟨text, failure, rfl, hparse⟩
  | _ => exact Or.inl ⟨_, .itself nofun⟩

theorem exists_ofValue_eq_ok_iff {value : Json} :
    (∃ grammar, ofValue digitLimit value = .ok grammar) ↔
      ∃ document, Denotes digitLimit value document ∧ IsDocument document := by
  constructor
  · rintro ⟨grammar, hgrammar⟩
    rcases denotes_or_parse_error digitLimit value with
      ⟨document, hdenotes⟩ | ⟨text, failure, rfl, hparse⟩
    · rw [hdenotes.ofValue_eq] at hgrammar
      exact ⟨document, hdenotes, exists_ofDocument_eq_ok_iff.mp ⟨grammar, hgrammar⟩⟩
    · cases (ofValue_of_parse_error hparse).symm.trans hgrammar
  · rintro ⟨document, hdenotes, hdocument⟩
    rw [hdenotes.ofValue_eq]
    exact ofDocument_of_isDocument hdocument

theorem ofValue_eq_error_iff {value : Json} {error : DocumentError}
    (hspells : ∀ text, value = .text text → SpellsCharacters digitLimit text.toList) :
    ofValue digitLimit value = .error error ↔
      (∃ text failure, value = .text text ∧ Json.parse digitLimit text.toList = .error failure ∧
        error = .notJson text.toList failure) ∨
      ∃ document, Denotes digitLimit value document ∧ IsRefused document error := by
  constructor
  · intro herror
    rcases denotes_or_parse_error digitLimit value with
      ⟨document, hdenotes⟩ | ⟨text, failure, rfl, hparse⟩
    · rw [hdenotes.ofValue_eq] at herror
      exact Or.inr ⟨document, hdenotes, ofDocument_eq_error_iff.mp herror⟩
    · rw [ofValue_of_parse_error hparse,
        DocumentError.ofParseError_eq (hspells text rfl failure hparse)] at herror
      cases herror
      exact Or.inl ⟨text, failure, rfl, hparse, rfl⟩
  · rintro (⟨text, failure, rfl, hparse, rfl⟩ | ⟨document, hdenotes, hrefused⟩)
    · rw [ofValue_of_parse_error hparse,
        DocumentError.ofParseError_eq (hspells text rfl failure hparse)]
    · rw [hdenotes.ofValue_eq]
      exact ofDocument_of_isRefused hrefused

/-- **A value is loaded exactly if it stands for the document of a grammar, and otherwise its
first fault is reported**; a message with a place begins with it, and what is there has this
fault of its own.  A value may be a text only if it spells characters. -/
theorem ofValue_correct {value : Json}
    (hspells : ∀ text, value = .text text → SpellsCharacters digitLimit text.toList) :
    ((∃ grammar, ofValue digitLimit value = .ok grammar) ↔
      ∃ document, Denotes digitLimit value document ∧ IsDocument document) ∧
    (∀ error, ofValue digitLimit value = .error error ↔
      (∃ text failure, value = .text text ∧ Json.parse digitLimit text.toList = .error failure ∧
        error = .notJson text.toList failure) ∨
      ∃ document, Denotes digitLimit value document ∧ IsRefused document error) ∧
    ∀ error place, ofValue digitLimit value = .error error → error.place? = some place →
      (∃ reason, error.message = place.text ++ ": " ++ reason) ∧
      ∃ document definitions body faulty, Denotes digitLimit value document ∧
        document.get? "rules" = some (.object definitions) ∧
        (place.definition, body) ∈ definitions ∧ ruleAt? place.steps body = some faulty ∧
        Fault place faulty error := by
  refine ⟨exists_ofValue_eq_ok_iff, fun error => ofValue_eq_error_iff hspells, ?_⟩
  intro error place herror hplace
  refine ⟨DocumentError.message_of_place? hplace, ?_⟩
  rcases (ofValue_eq_error_iff hspells).mp herror with
    ⟨text, failure, -, -, rfl⟩ | ⟨document, hdenotes, hrefused⟩
  · cases hplace
  · obtain ⟨definitions, body, faulty, hrules, hmem, hsteps, hfaulty⟩ :=
      hrefused.exists_ruleAt? hplace
    exact ⟨document, definitions, body, faulty, hdenotes, hrules, hmem, hsteps, hfaulty⟩

end Values

/-- The document of a grammar with one program, which is empty. -/
def emptyDocument : Json := .object [("rules", .object [("S", .object [("type", .text "BLANK")])])]

theorem emptyDocument_isDocument : IsDocument emptyDocument := by
  refine .intro rfl (List.cons_ne_nil _ _) nofun fun definition hdefinition => ?_
  rw [List.mem_singleton.mp hdefinition]
  exact .intro (.blank ⟨by decide, rfl⟩) nofun

theorem emptyDocument_plain : emptyDocument.Plain := by
  simp [emptyDocument, Json.Plain, Json.PlainMembers]

theorem parse_emptyDocument : Json.parse none emptyDocument.compact.toList = .ok emptyDocument := by
  rw [Json.compact, String.toList_ofList]
  exact Json.parse_written emptyDocument_plain none

/-- The text of this document is loaded. -/
theorem ofValue_correct_emptyDocument :
    SpellsCharacters none emptyDocument.compact.toList ∧
      ∃ grammar, ofValue none (.text emptyDocument.compact) = .ok grammar := by
  have hspells : SpellsCharacters none emptyDocument.compact.toList := fun _ hfailure =>
    nomatch parse_emptyDocument.symm.trans hfailure
  refine ⟨hspells, (ofValue_correct fun text htext => ?_).1.mpr
    ⟨emptyDocument, .text parse_emptyDocument, emptyDocument_isDocument⟩⟩
  cases htext
  exact hspells

end Grammar

end GrammarFuzz

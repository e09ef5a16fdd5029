import GrammarFuzz.Grammar.Basic
import GrammarFuzz.Json.Parser
import GrammarFuzz.Text.Encoding

/-!
# Grammar documents

A grammar document is an object with the member `rules`, an object that holds the definitions
in order.  Reading a definition creates its rules from the leaves up, so a rule comes
after its members and its content.  The first fault ends the reading, and
faults of a rule name the place of that rule: the definition and the steps into it.

A document in text form may spell a surrogate that is no half of a pair, and would then have texts
that no text here is equal to.  Reading stops at such a surrogate and does not say whether the
document is one of a grammar.
-/

namespace GrammarFuzz.Grammar

/-- A step from a rule into it. -/
inductive Step where
  | member (number : Nat)
  | content
  deriving DecidableEq, Repr

/-- The place of a rule in a document. -/
structure Place where
  definition : String
  steps : List Step
  deriving DecidableEq, Repr

/-- A step as it is written. -/
def Step.text : Step → String
  | member number => "/" ++ toString number
  | content => "/content"

/-- A place as it is written. -/
def Place.text (place : Place) : String :=
  place.definition ++ String.join (place.steps.map Step.text)

/-- The place one step further. -/
def Place.into (place : Place) (step : Step) : Place :=
  { place with steps := place.steps ++ [step] }

/-- Why a document is no grammar. -/
inductive DocumentError where
  /-- The text is no document. -/
  | notJson (text : List Char) (error : Json.ParseError)
  /-- The bytes are no text. -/
  | notText (error : Text.DecodeError)
  /-- The document spells a surrogate that is no half of a pair. -/
  | loneSurrogate
  | notObject
  | noRules
  /-- The external symbols are a number or a truth value. -/
  | externalsNotList (externals : Json)
  | notRule (place : Place)
  | unknownKind (kind : Json)
  | missing (place : Place) (kind : RuleKind) (key : String)
  | valueNotText (place : Place) (kind : RuleKind)
  | noMembers (place : Place) (kind : RuleKind)

/-- The wording of a fault. -/
def DocumentError.message : DocumentError → String
  | .notJson text error => "Invalid grammar JSON: " ++ error.message text
  | .notText error => "Invalid grammar JSON: " ++ error.message
  | .loneSurrogate => "Lone surrogate in a grammar document"
  | .notObject => "Grammar document must be an object"
  | .noRules => "Grammar document has no rules"
  | .externalsNotList externals => "'" ++ externals.kindWord ++ "' object is not iterable"
  | .notRule place => place.text ++ ": rule must be an object with a type"
  | .unknownKind kind => "Unrecognized rule type: " ++ kind.bare
  | .missing place kind key =>
    place.text ++ ": " ++ kind.word ++ " rule is missing '" ++ key ++ "'"
  | .valueNotText place kind => place.text ++ ": " ++ kind.word ++ " value must be a string"
  | .noMembers place kind => place.text ++ ": " ++ kind.word ++ " needs at least one member"

/-- Whether a fault is one of the grammar that the document holds. -/
def DocumentError.isGrammarFault : DocumentError → Bool
  | .externalsNotList _ => false
  | .loneSurrogate => false
  | _ => true

/-- Why a text is no grammar that cannot be read. -/
def DocumentError.ofParseError (text : List Char) (error : Json.ParseError) : DocumentError :=
  if error.fault = .loneSurrogate then .loneSurrogate else .notJson text error

theorem DocumentError.ofParseError_eq {text : List Char} {error : Json.ParseError}
    (hfault : error.fault ≠ .loneSurrogate) : ofParseError text error = .notJson text error :=
  if_neg hfault

/-- Why bytes are no grammar that cannot be decoded. -/
def DocumentError.ofDecodeError (error : Text.DecodeError) : DocumentError :=
  if error.fault = .loneSurrogate then .loneSurrogate else .notText error

/-! ## Reading rules -/

/-- Reading with the rules created so far. -/
abbrev Reader (α : Type) := StateT (Array Rule) (Except DocumentError) α

namespace Reader

/-- Creates the next rule. -/
def create (kind : RuleKind) (value name : Json) (members : List Rule) (content : Option Rule) :
    Reader Rule := do
  let rule : Rule := ⟨(← get).size, kind, value, name, members, content⟩
  modify (·.push rule)
  return rule

/-- The kind that the type of a rule stands for. -/
def kind? : Json → Option RuleKind
  | .text word => RuleKind.ofWord? word
  | _ => none

theorem sizeOf_lookup_lt {name : String} {value : Json} :
    ∀ {members : List (String × Json)}, Json.lookup name members = some value →
      sizeOf value < sizeOf members
  | (key, first) :: rest, h => by
    simp only [Json.lookup] at h
    split at h
    · simp only [Option.some.injEq] at h
      subst h
      simp only [List.cons.sizeOf_spec, Prod.mk.sizeOf_spec]
      omega
    · have := sizeOf_lookup_lt h
      simp only [List.cons.sizeOf_spec]
      omega

mutual

/-- Reads the rule at a place. -/
def rule (place : Place) (document : Json) : Reader Rule :=
  match document with
  | .object attributes =>
    match Json.lookup "type" attributes with
    | none => throw (.notRule place)
    | some type =>
      match kind? type with
      | none => throw (.unknownKind type)
      | some .blank => create .blank .null .null [] none
      | some .symbol =>
        match Json.lookup "name" attributes with
        | none => throw (.missing place .symbol "name")
        | some name => create .symbol .null name [] none
      | some kind =>
        if kind.isTerminal then
          match Json.lookup "value" attributes with
          | none => throw (.missing place kind "value")
          | some (.text value) => create kind (.text value) .null [] none
          | some _ => throw (.valueNotText place kind)
        else if kind = .sequence ∨ kind = .choice then
          match hmembers : Json.lookup "members" attributes with
          | none => throw (.missing place kind "members")
          | some (.list (first :: rest)) => do
            have := sizeOf_lookup_lt hmembers
            create kind .null .null (← rules place 0 (first :: rest)) none
          | some _ => throw (.noMembers place kind)
        else
          match hcontent : Json.lookup "content" attributes with
          | none => throw (.missing place kind "content")
          | some content => do
            have := sizeOf_lookup_lt hcontent
            let content ← rule (place.into .content) content
            create kind ((Json.lookup "value" attributes).getD .null)
              ((Json.lookup "name" attributes).getD .null) [] (some content)
  | _ => throw (.notRule place)
  termination_by sizeOf document
  decreasing_by
    all_goals
      simp only [Json.list.sizeOf_spec, Json.object.sizeOf_spec] at *
      omega

/-- Reads the members of the rule at a place, from one of this number on. -/
def rules (place : Place) (number : Nat) (documents : List Json) : Reader (List Rule) :=
  match documents with
  | [] => return []
  | document :: rest => do
    let first ← rule (place.into (.member number)) document
    return first :: (← rules place (number + 1) rest)
  termination_by sizeOf documents

end

/-- Reads definitions. -/
def definitions : List (String × Json) → Reader (List (String × Rule))
  | [] => return []
  | (name, document) :: rest => do
    let first ← rule ⟨name, []⟩ document
    return (name, first) :: (← definitions rest)

end Reader

/-! ## Reading grammars -/

/-- The external symbols of a document: none if they are absent or void, else the items of a
list, the characters of a text or the names of an object. -/
def externalsOf (externals : Json) : Except DocumentError (List Json) :=
  if externals.isVoid then .ok []
  else
    match externals with
    | .list items => .ok items
    | .text value => .ok (value.toList.map fun c => .text c.toString)
    | .object members => .ok (members.map fun member => .text member.1)
    | _ => .error (.externalsNotList externals)

/-- The grammar of a document. -/
def ofDocument (document : Json) : Except DocumentError Grammar :=
  match document with
  | .object attributes =>
    match Json.lookup "rules" attributes with
    | some (.object (first :: rest)) => do
      let externals ← externalsOf ((Json.lookup "externals" attributes).getD .null)
      let (definitions, rules) ← (Reader.definitions (first :: rest)).run #[]
      return ⟨(Json.lookup "name" attributes).getD .null, externals, rules, definitions⟩
    | _ => .error .noRules
  | _ => .error .notObject

/-- The grammar of a document in text form. -/
def ofText (digitLimit : Option Nat) (text : List Char) : Except DocumentError Grammar :=
  match Json.parse digitLimit text with
  | .ok document => ofDocument document
  | .error error => .error (.ofParseError text error)

/-- The grammar of a value: of the document that a text spells, else of the value itself. -/
def ofValue (digitLimit : Option Nat) : Json → Except DocumentError Grammar
  | .text text => ofText digitLimit text.toList
  | document => ofDocument document

/-- The grammar of a document as bytes. -/
def ofBytes (digitLimit : Option Nat) (bytes : List UInt8) : Except DocumentError Grammar :=
  match Text.decodeDocument bytes with
  | .ok text => ofText digitLimit text
  | .error error => .error (.ofDecodeError error)

end GrammarFuzz.Grammar

import GrammarFuzz.Number
import GrammarFuzz.Text.Quoted

/-!
# Values of a document

A document is a tree of nulls, truth values, numbers, texts, lists and objects.  An object
keeps its members in order; a name that comes again replaces the value at the
place of the first.
-/

namespace GrammarFuzz

/-- A value of a document. -/
inductive Json where
  | null
  | bool (value : Bool)
  | number (value : Number)
  | text (value : String)
  | list (items : List Json)
  | object (members : List (String × Json))

namespace Json

instance : Inhabited Json := ⟨null⟩

/-- An integer. -/
abbrev int (value : Int) : Json := number (.int value)

/-- The value of the first member of this name. -/
def lookup (name : String) : List (String × Json) → Option Json
  | [] => none
  | (key, value) :: rest => if key = name then some value else lookup name rest

/-- Puts a member: at its place if the name is there, else at the end. -/
def put (name : String) (value : Json) : List (String × Json) → List (String × Json)
  | [] => [(name, value)]
  | (key, old) :: rest =>
    if key = name then (key, value) :: rest else (key, old) :: put name value rest

/-- The members of an object with repeated names put into each other. -/
def merge (members : List (String × Json)) : List (String × Json) :=
  members.foldl (fun merged (name, value) => put name value merged) []

/-- The member of an object; `none` also if the value is no object. -/
def get? (name : String) : Json → Option Json
  | object members => lookup name members
  | _ => none

/-- Whether the value counts as absent: null, false, zero or empty. -/
def isVoid : Json → Bool
  | null => true
  | bool value => !value
  | number value => value.same (.int 0)
  | text value => value.isEmpty
  | list items => items.isEmpty
  | object members => members.isEmpty

mutual

/-- The value as messages show it inside others: texts quoted, `None`, `True` and `False`. -/
def shown : Json → String
  | null => "None"
  | bool true => "True"
  | bool false => "False"
  | number value => value.text
  | text value => Text.quoted value
  | list items => "[" ++ shownItems items ++ "]"
  | object members => "\x7b" ++ shownMembers members ++ "\x7d"

/-- Shown values with commas between them. -/
def shownItems : List Json → String
  | [] => ""
  | [item] => item.shown
  | item :: rest => item.shown ++ ", " ++ shownItems rest

/-- Shown members with commas between them. -/
def shownMembers : List (String × Json) → String
  | [] => ""
  | [(name, value)] => Text.quoted name ++ ": " ++ value.shown
  | (name, value) :: rest =>
    Text.quoted name ++ ": " ++ value.shown ++ ", " ++ shownMembers rest

end

/-- The value as messages show it on its own: a text is bare. -/
def bare : Json → String
  | text value => value
  | other => other.shown

/-- The word for the kind of a value in messages about its use. -/
def kindWord : Json → String
  | null => "NoneType"
  | bool _ => "bool"
  | number (.int _) => "int"
  | number (.float _) => "float"
  | text _ => "str"
  | list _ => "list"
  | object _ => "dict"

end Json

end GrammarFuzz

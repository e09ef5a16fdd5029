import GrammarFuzz.Json.Basic

/-!
# Rules

A rule describes a set of texts: a literal, a pattern, a reference to a named rule, a
sequence, a choice, a repetition, or an annotation around another rule.  Every rule
of a grammar has an index, its place in the order of creation.  References are kept by
name, so rules are plain trees even where the grammar is recursive.
-/

namespace GrammarFuzz

/-- The kinds of rules. -/
inductive RuleKind where
  | blank
  | literal
  | pattern
  | symbol
  | sequence
  | choice
  | aliased
  | many
  | many1
  | token
  | immediateToken
  | field
  | precedence
  | precedenceLeft
  | precedenceRight
  | precedenceDynamic
  /-- A kind that grammar documents do not have. -/
  | other (word : String)
  deriving DecidableEq, Repr

namespace RuleKind

/-- The word for a kind in documents and messages. -/
def word : RuleKind → String
  | blank => "BLANK"
  | literal => "STRING"
  | pattern => "PATTERN"
  | symbol => "SYMBOL"
  | sequence => "SEQ"
  | choice => "CHOICE"
  | aliased => "ALIAS"
  | many => "REPEAT"
  | many1 => "REPEAT1"
  | token => "TOKEN"
  | immediateToken => "IMMEDIATE_TOKEN"
  | field => "FIELD"
  | precedence => "PREC"
  | precedenceLeft => "PREC_LEFT"
  | precedenceRight => "PREC_RIGHT"
  | precedenceDynamic => "PREC_DYNAMIC"
  | other word => word

/-- The kinds that documents have. -/
def known : List RuleKind := [
  blank, literal, pattern, symbol, sequence, choice, aliased, many, many1, token, immediateToken,
  field, precedence, precedenceLeft, precedenceRight, precedenceDynamic]

/-- The kind with this word. -/
def ofWord? (word : String) : Option RuleKind := known.find? (·.word == word)

/-- The kind with this word, a new one if documents have no such kind. -/
def ofWord (word : String) : RuleKind := (ofWord? word).getD (other word)

/-- Whether rules of this kind stand for a text by themselves. -/
def isTerminal : RuleKind → Bool
  | blank | literal | pattern => true
  | _ => false

/-- Whether rules of this kind only annotate their content. -/
def isWrapper : RuleKind → Bool
  | aliased | token | immediateToken | field => true
  | precedence | precedenceLeft | precedenceRight | precedenceDynamic => true
  | _ => false

/-- Whether rules of this kind repeat their content. -/
def isRepetition : RuleKind → Bool
  | many | many1 => true
  | _ => false

end RuleKind

/-- A rule.  The value is the text of a literal, the expression of a pattern, or whatever an
annotation carries; the name is the target of a symbol or whatever an annotation carries. -/
structure Rule where
  index : Nat
  kind : RuleKind
  value : Json
  name : Json
  members : List Rule
  content : Option Rule

namespace Rule

instance : Inhabited Rule := ⟨⟨0, .blank, .null, .null, [], none⟩⟩

/-- Whether the rule stands for a text by itself. -/
def isTerminal (rule : Rule) : Bool := rule.kind.isTerminal

/-- A rule as messages show it. -/
def shown (rule : Rule) : String :=
  let detail := match rule.kind with
    | .symbol => ", name=" ++ rule.name.shown
    | .literal | .pattern => ", value=" ++ rule.value.shown
    | _ => ""
  "Rule(" ++ toString rule.index ++ ", " ++ rule.kind.word ++ detail ++ ")"

mutual

/-- The number of levels of a rule. -/
def height : Rule → Nat
  | ⟨_, _, _, _, members, content⟩ => 1 + max (heightOfMembers members) (heightOfContent content)

/-- The greatest number of levels of some rules. -/
def heightOfMembers : List Rule → Nat
  | [] => 0
  | rule :: rest => max rule.height (heightOfMembers rest)

/-- The number of levels of a rule that may be absent. -/
def heightOfContent : Option Rule → Nat
  | none => 0
  | some rule => rule.height

end

end Rule

end GrammarFuzz

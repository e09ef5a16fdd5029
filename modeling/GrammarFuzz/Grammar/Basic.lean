import GrammarFuzz.Grammar.Rule

/-!
# Grammars

A grammar holds its rules in the order of their creation and a list of definitions, which
give names to some of them.  The first definition is the start rule.
-/

namespace GrammarFuzz

/-- A grammar. -/
structure Grammar where
  name : Json
  /-- The symbols that come from outside; texts cannot be generated if there are some. -/
  externals : List Json
  rules : Array Rule
  definitions : List (String × Rule)

namespace Grammar

/-- Why something is not found in a grammar or not put into it. -/
inductive AccessError where
  /-- There is no start rule. -/
  | noRules
  /-- No definition has this name. -/
  | unknownSymbol (name : Json)
  /-- A list or an object cannot be the name of a definition. -/
  | unusableName (name : Json)
  /-- There is a definition of this name already. -/
  | definedTwice (name : String)

/-- The wording of a failed access. -/
def AccessError.message : AccessError → String
  | .noRules => "Grammar has no rules"
  | .unknownSymbol name => "Unknown symbol: " ++ name.bare
  | .unusableName name => "unhashable type: '" ++ name.kindWord ++ "'"
  | .definedTwice name => "Rule defined twice: " ++ name

/-- A grammar without rules. -/
def empty (name : Json) (externals : List Json) : Grammar := ⟨name, externals, #[], []⟩

/-- The rule that a name stands for among some definitions. -/
def definition? (name : String) : List (String × Rule) → Option Rule
  | [] => none
  | (key, rule) :: rest => if key = name then some rule else definition? name rest

/-- The rule that a name stands for. -/
def resolve? (grammar : Grammar) (name : String) : Option Rule :=
  definition? name grammar.definitions

/-- The rule that the name in a symbol stands for. -/
def lookup (grammar : Grammar) (name : Json) : Except AccessError Rule :=
  match name with
  | .text key =>
    match grammar.resolve? key with
    | some rule => .ok rule
    | none => .error (.unknownSymbol name)
  | .list _ | .object _ => .error (.unusableName name)
  | _ => .error (.unknownSymbol name)

/-- The first definition. -/
def start (grammar : Grammar) : Except AccessError (String × Rule) :=
  match grammar.definitions with
  | [] => .error .noRules
  | first :: _ => .ok first

/-- The rule of the first definition. -/
def startRule (grammar : Grammar) : Except AccessError Rule :=
  grammar.start.map (·.2)

/-- The number of rules. -/
def size (grammar : Grammar) : Nat := grammar.rules.size

/-- Adds a rule of the next index. -/
def add (grammar : Grammar) (kind : RuleKind) (value name : Json) (members : List Rule)
    (content : Option Rule) : Grammar × Rule :=
  let rule : Rule := ⟨grammar.size, kind, value, name, members, content⟩
  ({ grammar with rules := grammar.rules.push rule }, rule)

/-- Gives a name to a rule. -/
def define (grammar : Grammar) (name : String) (rule : Rule) : Except AccessError Grammar :=
  match grammar.resolve? name with
  | some _ => .error (.definedTwice name)
  | none => .ok { grammar with definitions := grammar.definitions ++ [(name, rule)] }

end Grammar

end GrammarFuzz

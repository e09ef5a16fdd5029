import GrammarFuzz.Shell.Syntax

/-!
# Reading the words of a script

A script is cut into words and operators.  Blanks separate them, line ends are operators, and
a number sign at the start of a word hides the rest of its line.
-/

namespace GrammarFuzz.Shell

/-- What a script is cut into. -/
inductive Token where
  | word (parts : Word)
  | operator (text : String)
  /-- The descriptor in front of a redirection. -/
  | descriptor (number : Nat)
  deriving Repr

/-- A token and its line. -/
structure Located where
  token : Token
  line : Nat
  deriving Repr

/-- The mark that encloses a command whose output is taken, besides a dollar with parentheses. -/
def graveAccent : Char := Char.ofNat 96

/-- Whether a character can start the name of a variable. -/
def startsName (c : Char) : Bool := c.isAlpha || c == '_'

/-- Whether a character can stand in the name of a variable. -/
def inName (c : Char) : Bool := c.isAlphanum || c == '_'

/-- Whether a character is the whole name of a special parameter. -/
def isSpecialName (c : Char) : Bool := "?$#@*!-0123456789".toList.contains c

/-- Whether a character ends an unquoted word. -/
def endsWord (c : Char) : Bool := " \t\n;&|<>()".toList.contains c

/-- The text up to a closing character, after which characters a backslash protects the next one,
and the rest after it. -/
def upTo (closing : Char) (done : List Char) : List Char → Option (List Char × List Char)
  | [] => none
  | '\\' :: c :: rest => upTo closing (c :: '\\' :: done) rest
  | c :: rest => if c = closing then some (done.reverse, rest) else upTo closing (c :: done) rest

/-- The text up to the closing parenthesis, and the rest after it. -/
def upToParenthesis (depth : Nat) (done : List Char) : List Char → Option (List Char × List Char)
  | [] => none
  | '\\' :: c :: rest => upToParenthesis depth (c :: '\\' :: done) rest
  | '(' :: rest => upToParenthesis (depth + 1) ('(' :: done) rest
  | ')' :: rest =>
    match depth with
    | 0 => some (done.reverse, rest)
    | depth + 1 => upToParenthesis depth (')' :: done) rest
  | c :: rest => upToParenthesis depth (c :: done) rest

/-- The parameter between braces. -/
def bracedPart (quoted : Bool) (text : List Char) : Part :=
  match text with
  | '#' :: name@(_ :: _) => .length name
  | _ =>
    let name := text.takeWhile inName
    let name := if name.isEmpty then text.take 1 else name
    match text.drop name.length with
    | ':' :: '-' :: otherwise => .parameter quoted name (some otherwise)
    | _ => .parameter quoted name none

/-- The part after a dollar, and the rest after it; no part if the dollar stands for itself. -/
def dollarPart (quoted : Bool) (rest : List Char) : Option (Part × List Char) :=
  match rest with
  | '\x7b' :: rest => (upTo '\x7d' [] rest).map fun (text, rest) => (bracedPart quoted text, rest)
  | '(' :: rest => (upToParenthesis 0 [] rest).map fun (text, rest) => (.output quoted text, rest)
  | c :: rest' =>
    if startsName c then
      some (.parameter quoted (rest.takeWhile inName) none, rest.dropWhile inName)
    else if isSpecialName c then some (.parameter quoted [c] none, rest')
    else none
  | [] => none

/-- The parts of a text in double quotes, up to the closing one; `fuel` bounds the number of
steps. -/
def doubleQuoted (done : Word) : (fuel : Nat) → List Char → Option (Word × List Char)
  | 0, _ => none
  | _, [] => none
  | _ + 1, '"' :: rest => some ((.literal true [] :: done).reverse, rest)
  | fuel + 1, '\\' :: c :: rest =>
    if c = '\n' then doubleQuoted done fuel rest
    else if c = '$' ∨ c = '"' ∨ c = '\\' ∨ c = graveAccent then
      doubleQuoted (.literal true [c] :: done) fuel rest
    else doubleQuoted (.literal true ['\\', c] :: done) fuel rest
  | fuel + 1, c :: rest =>
    if c = '$' then
      match dollarPart true rest with
      | some (part, rest) => doubleQuoted (part :: done) fuel rest
      | none => doubleQuoted (.literal true ['$'] :: done) fuel rest
    else if c = graveAccent then
      match upTo graveAccent [] rest with
      | some (script, rest) => doubleQuoted (.output true script :: done) fuel rest
      | none => none
    else doubleQuoted (.literal true [c] :: done) fuel rest

/-- The parts of a word, up to its end; nothing if a quote stays open. -/
def wordParts (done : Word) : (fuel : Nat) → List Char → Option (Word × List Char)
  | 0, rest => some (done.reverse, rest)
  | _, [] => some (done.reverse, [])
  | fuel + 1, c :: rest =>
    if endsWord c then some (done.reverse, c :: rest)
    else if c = '\'' then
      match rest.span (· ≠ '\'') with
      | (text, _ :: rest) => wordParts (.literal true text :: done) fuel rest
      | _ => none
    else if c = '"' then
      match doubleQuoted [] fuel rest with
      | some (parts, rest) => wordParts (parts.reverse ++ done) fuel rest
      | none => none
    else if c = '\\' then
      match rest with
      | '\n' :: rest => wordParts done fuel rest
      | c :: rest => wordParts (.literal true [c] :: done) fuel rest
      | [] => wordParts (.literal false ['\\'] :: done) fuel []
    else if c = '$' then
      match dollarPart false rest with
      | some (part, rest) => wordParts (part :: done) fuel rest
      | none => wordParts (.literal false ['$'] :: done) fuel rest
    else if c = graveAccent then
      match upTo graveAccent [] rest with
      | some (script, rest) => wordParts (.output false script :: done) fuel rest
      | none => none
    else wordParts (.literal false [c] :: done) fuel rest

/-- The operators, longer ones first. -/
def operators : List String :=
  ["&&", "||", ";;", ">>", ">&", "<&", "\n", ";", "&", "|", "<", ">", "(", ")"]

/-- The operator at the start of a text, and the rest after it. -/
def operatorAt? (text : List Char) : Option (String × List Char) :=
  operators.findSome? fun operator =>
    if operator.toList.isPrefixOf text then some (operator, text.drop operator.length) else none

/-- The tokens of a script; nothing if a quote stays open.  `fuel` bounds their number. -/
def tokens (line : Nat) (done : List Located) : (fuel : Nat) → List Char → Option (List Located)
  | 0, _ => some done.reverse
  | _, [] => some done.reverse
  | fuel + 1, c :: rest =>
    if c = ' ' ∨ c = '\t' then tokens line done fuel rest
    else if c = '\\' ∧ rest.head? = some '\n' then tokens (line + 1) done fuel (rest.drop 1)
    else if c = '#' then tokens line done fuel (rest.dropWhile (· ≠ '\n'))
    else
      let digits := (c :: rest).takeWhile Char.isDigit
      let after := (c :: rest).drop digits.length
      if !digits.isEmpty && (after.head? == some '<' || after.head? == some '>') then
        let number := digits.foldl (fun n d => n * 10 + (d.toNat - '0'.toNat)) 0
        tokens line (⟨.descriptor number, line⟩ :: done) fuel after
      else
        match operatorAt? (c :: rest) with
        | some (operator, rest) =>
          tokens (if operator = "\n" then line + 1 else line) (⟨.operator operator, line⟩ :: done)
            fuel rest
        | none =>
          match wordParts [] (rest.length + 2) (c :: rest) with
          | none => none
          | some (parts, after) =>
            let used := (c :: rest).take ((c :: rest).length - after.length)
            tokens (line + used.count '\n') (⟨.word parts, line⟩ :: done) fuel after

end GrammarFuzz.Shell

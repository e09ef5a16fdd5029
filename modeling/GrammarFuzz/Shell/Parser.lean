import GrammarFuzz.Shell.Lexer

/-!
# Reading scripts

A script is a list of pipelines joined by `&&` and `||` and separated by semicolons or line
ends.  A command is a simple one, a compound one that starts with a reserved word, or a
list in parentheses.
-/

namespace GrammarFuzz.Shell

/-- Where a script is wrong. -/
inductive SyntaxError where
  /-- A token that does not fit; the expected word is known in some places. -/
  | unexpected (line : Nat) (token : String) (expected : Option String)
  | openQuote (line : Nat)
  deriving Repr

/-- The line of an error. -/
def SyntaxError.line : SyntaxError → Nat
  | unexpected line _ _ => line
  | openQuote line => line

/-- The wording of an error. -/
def SyntaxError.message : SyntaxError → String
  | unexpected _ token none => "Syntax error: " ++ token ++ " unexpected"
  | unexpected _ token (some word) =>
    "Syntax error: " ++ token ++ " unexpected (expecting \"" ++ word ++ "\")"
  | openQuote _ => "Syntax error: Unterminated quoted string"

/-- A step of reading, with the tokens that are left and the last line seen. -/
abbrev Read (α : Type) := StateT (List Located × Nat) (Except SyntaxError) α

namespace Read

/-- The text of a word without quotes and expansions. -/
def plain? : Word → Option String
  | [] => some ""
  | .literal false text :: rest => (plain? rest).map (String.ofList text ++ ·)
  | _ => none

/-- The words that start or go on with a compound command. -/
def reserved : List String := [
  "if", "then", "elif", "else", "fi", "while", "until", "for", "in", "do", "done", "case", "esac",
  "\x7b", "\x7d", "!"]

/-- How a token is shown in messages. -/
def tokenText : Token → String
  | .operator "\n" => "newline"
  | .operator text => "\"" ++ text ++ "\""
  | .descriptor _ => "redirection"
  | .word parts =>
    match plain? parts with
    | some text => if reserved.contains text then "\"" ++ text ++ "\"" else "word"
    | none => "word"

/-- The next token. -/
def peek : Read (Option Token) := return (← get).1.head?.map (·.token)

/-- The line of the next token. -/
def line : Read Nat := do
  let (tokens, last) ← get
  return (tokens.head?.map (·.line)).getD last

/-- Passes the next token. -/
def advance : Read Unit :=
  modify fun (tokens, last) => (tokens.drop 1, (tokens.head?.map (·.line)).getD last)

/-- Gives up at the next token. -/
def fail {α : Type} (expected : Option String) : Read α := do
  let shown := match ← peek with
    | some token => tokenText token
    | none => "end of file"
  throw (.unexpected (← line) shown expected)

/-- Whether the next token is this operator, which is then passed. -/
def operator (text : String) : Read Bool := do
  match ← peek with
  | some (.operator other) =>
    if other = text then
      advance
      return true
    else return false
  | _ => return false

/-- The reserved word or other plain word that comes next. -/
def keyword? : Read (Option String) := do
  match ← peek with
  | some (.word parts) => return plain? parts
  | _ => return none

/-- Passes a reserved word, which must come next. -/
def expect (word : String) : Read Unit := do
  if (← keyword?) = some word then advance else fail (some word)

/-- Passes line ends; `fuel` bounds their number. -/
def newlines : (fuel : Nat) → Read Unit
  | 0 => return ()
  | fuel + 1 => do if ← operator "\n" then newlines fuel

/-- Passes line ends and semicolons. -/
def separators : (fuel : Nat) → Read Unit
  | 0 => return ()
  | fuel + 1 => do
    if (← operator "\n") || (← operator ";") then separators fuel

/-- A bound on the number of steps: the number of tokens left. -/
def left : Read Nat := return (← get).1.length + 1

/-- The direction of a redirection operator. -/
def direction? : String → Option Direction
  | "<" => some .input
  | ">" => some .output
  | ">>" => some .append
  | ">&" => some .duplicate
  | "<&" => some .duplicate
  | _ => none

/-- The word that comes next. -/
def word : Read Word := do
  match ← peek with
  | some (.word parts) =>
    advance
    return parts
  | _ => fail none

/-- A redirection, if one comes next. -/
def redirection? : Read (Option Redirection) := do
  let tokens := (← get).1
  let (number, token) := match tokens with
    | ⟨.descriptor number, _⟩ :: ⟨token, _⟩ :: _ => (some number, some token)
    | ⟨token, _⟩ :: _ => (none, some token)
    | [] => (none, none)
  match token with
  | some (.operator text) =>
    match direction? text with
    | none => return none
    | some direction =>
      if number.isSome then advance
      advance
      let standard := if direction = .input ∨ text = "<&" then 0 else 1
      return some ⟨number.getD standard, direction, ← word⟩
  | _ => return none

/-- The redirections that come next. -/
def redirections : (fuel : Nat) → Read (List Redirection)
  | 0 => return []
  | fuel + 1 => do
    match ← redirection? with
    | none => return []
    | some first => return first :: (← redirections fuel)

/-- A word that is an assignment: the name and the value. -/
def assignment? (parts : Word) : Option (List Char × Word) :=
  let letters := parts.takeWhile fun
    | .literal false [c] => c ≠ '='
    | _ => false
  let name := letters.flatMap fun
    | .literal _ text => text
    | _ => []
  match parts.drop letters.length with
  | .literal false ['='] :: value =>
    if (name.head?.map startsName).getD false && name.all inName then some (name, value) else none
  | _ => none

/-- The rest of a simple command. -/
def simpleRest (start : Nat) (assignments : List (List Char × Word)) (words : List Word)
    (redirected : List Redirection) : (fuel : Nat) → Read Script
  | 0 => fail none
  | fuel + 1 => do
    match ← redirection? with
    | some redirection =>
      simpleRest start assignments words (redirection :: redirected) fuel
    | none =>
      match ← peek with
      | some (.word parts) =>
        advance
        match if words.isEmpty then assignment? parts else none with
        | some assignment => simpleRest start (assignment :: assignments) words redirected fuel
        | none => simpleRest start assignments (parts :: words) redirected fuel
      | _ =>
        if assignments.isEmpty && words.isEmpty && redirected.isEmpty then fail none
        else return .simple start assignments.reverse words.reverse redirected.reverse

/-- The words up to the end of the line or a semicolon. -/
def wordsToEnd : (fuel : Nat) → Read (List Word)
  | 0 => return []
  | fuel + 1 => do
    match ← peek with
    | some (.word parts) =>
      advance
      return parts :: (← wordsToEnd fuel)
    | _ => return []

/-- The patterns of a clause up to the closing parenthesis. -/
def clausePatterns : (fuel : Nat) → Read (List Word)
  | 0 => fail none
  | fuel + 1 => do
    let first ← word
    if ← operator "|" then return first :: (← clausePatterns fuel)
    else if ← operator ")" then return [first]
    else fail (some ")")

mutual

/-- A list of commands up to a word or an operator that cannot start one. -/
def list : (fuel : Nat) → Read Script
  | 0 => fail none
  | fuel + 1 => do
    newlines (← left)
    let closing ← closes
    if closing then return .skip
    else
      let first ← andOr fuel
      if (← operator "\n") || (← operator ";") || (← operator "&") then
        return .sequence first (← list fuel)
      else return first

/-- Whether the next token ends a list. -/
def closes : Read Bool := do
  match ← peek with
  | none => return true
  | some (.operator text) => return text = ")" || text = ";;"
  | some (.word parts) =>
    return (match plain? parts with
      | some text => ["then", "elif", "else", "fi", "do", "done", "esac", "\x7d"].contains text
      | none => false)
  | some (.descriptor _) => return false

/-- Pipelines joined by `&&` and `||`. -/
def andOr : (fuel : Nat) → Read Script
  | 0 => fail none
  | fuel + 1 => do
    andOrRest (← pipeline fuel) fuel

/-- Goes on with pipelines joined to a first part. -/
def andOrRest (first : Script) : (fuel : Nat) → Read Script
  | 0 => return first
  | fuel + 1 => do
    if ← operator "&&" then
      newlines (← left)
      andOrRest (.andThen first (← pipeline fuel)) fuel
    else if ← operator "||" then
      newlines (← left)
      andOrRest (.orElse first (← pipeline fuel)) fuel
    else return first

/-- Commands joined by pipes. -/
def pipeline : (fuel : Nat) → Read Script
  | 0 => fail none
  | fuel + 1 => do
    if (← keyword?) = some "!" then
      advance
      return .negated (← pipeline fuel)
    else
      let first ← command fuel
      if ← operator "|" then
        newlines (← left)
        return .pipe first (← pipeline fuel)
      else return first

/-- A command. -/
def command : (fuel : Nat) → Read Script
  | 0 => fail none
  | fuel + 1 => do
    if ← operator "(" then
      let body ← list fuel
      if ← operator ")" then return .subshell body (← redirections (← left))
      else fail (some ")")
    else
      match ← keyword? with
      | some "\x7b" =>
        advance
        let body ← list fuel
        expect "\x7d"
        return .group body (← redirections (← left))
      | some "if" =>
        advance
        let body ← conditional fuel
        return .group body (← redirections (← left))
      | some "while" =>
        advance
        let body ← loop true fuel
        return .group body (← redirections (← left))
      | some "until" =>
        advance
        let body ← loop false fuel
        return .group body (← redirections (← left))
      | some "for" =>
        advance
        let name := ((plain? (← word)).getD "").toList
        newlines (← left)
        let words ← (do
          if (← keyword?) = some "in" then
            advance
            wordsToEnd (← left)
          else return [[.parameter true ['@'] none]])
        separators (← left)
        expect "do"
        let body ← list fuel
        expect "done"
        return .group (.each name words body) (← redirections (← left))
      | some "case" =>
        advance
        let subject ← word
        newlines (← left)
        expect "in"
        let clauses ← clauseList fuel
        return .group (.select subject clauses) (← redirections (← left))
      | some text =>
        if reserved.contains text && text ≠ "in" then fail none
        else simpleRest (← line) [] [] [] (← left)
      | none => simpleRest (← line) [] [] [] (← left)

/-- A conditional after its first word. -/
def conditional : (fuel : Nat) → Read Script
  | 0 => fail none
  | fuel + 1 => do
    let test ← list fuel
    expect "then"
    let yes ← list fuel
    match ← keyword? with
    | some "elif" =>
      advance
      return .conditional test yes (← conditional fuel)
    | some "else" =>
      advance
      let no ← list fuel
      expect "fi"
      return .conditional test yes no
    | _ =>
      expect "fi"
      return .conditional test yes .skip

/-- A loop after its first word. -/
def loop (holds : Bool) : (fuel : Nat) → Read Script
  | 0 => fail none
  | fuel + 1 => do
    let test ← list fuel
    expect "do"
    let body ← list fuel
    expect "done"
    return .loop holds test body

/-- The clauses of a selection up to its last word. -/
def clauseList : (fuel : Nat) → Read (List (List Word × Script))
  | 0 => fail none
  | fuel + 1 => do
    newlines (← left)
    if (← keyword?) = some "esac" then
      advance
      return []
    else
      let _ ← operator "("
      let patterns ← clausePatterns (← left)
      let body ← list fuel
      if ← operator ";;" then return (patterns, body) :: (← clauseList fuel)
      else
        newlines (← left)
        expect "esac"
        return [(patterns, body)]

end

end Read

/-- Reads a whole script. -/
def parse (text : List Char) : Except SyntaxError Script :=
  match tokens 1 [] (text.length + 1) text with
  | none => .error (.openQuote (text.count '\n' + 1))
  | some located => do
    let whole : Read Script := do
      let script ← Read.list (8 * located.length + 8)
      match ← Read.peek with
      | none => return script
      | some _ => Read.fail none
    let (script, _) ← whole.run (located, text.count '\n' + 1)
    return script

end GrammarFuzz.Shell

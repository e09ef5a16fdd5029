import GrammarFuzz.Pattern.Error
import GrammarFuzz.Pattern.Syntax
import GrammarFuzz.Text.Point

/-!
# Scanning a pattern

A pattern is read as tokens: single characters, and a backslash together with the character
after it.  One token is always looked at ahead, so a backslash at the very end
is found when the token before it is taken.
-/

namespace GrammarFuzz.Pattern

/-- A token of a pattern. -/
inductive Token where
  | plain (character : Char)
  | escape (character : Char)
  deriving DecidableEq, Repr

namespace Token

/-- The number of characters of a token. -/
def length : Token → Nat
  | plain _ => 1
  | escape _ => 2

/-- The characters of a token. -/
def characters : Token → List Char
  | plain c => [c]
  | escape c => ['\\', c]

/-- The text of a token. -/
def text (token : Token) : String := String.ofList token.characters

end Token

/-- What is known while a pattern is read. -/
structure Scan where
  /-- What reading the pattern depends on. -/
  interpreter : Interpreter
  /-- The number of characters in the pattern. -/
  size : Nat
  /-- The token ahead. -/
  next : Option Token
  /-- The characters after the token ahead. -/
  rest : List Char
  /-- The position after the token ahead. -/
  index : Nat
  /-- The flags set for the whole pattern. -/
  flags : Flags
  /-- The widths of the groups, the whole pattern first; `none` while a group is open. -/
  widths : List (Option (Nat × Nat))
  /-- The numbers of the named groups. -/
  names : List (String × Nat)
  /-- The number of groups when the outermost look-behind was entered. -/
  lookBehind : Option Nat
  /-- The groups that conditions name by number, with the place of the first mention. -/
  conditions : List (Nat × Nat)

/-- A step of reading a pattern. -/
abbrev Parse (α : Type) := StateT Scan (Except ParseError) α

namespace Parse

/-- The position of the token ahead. -/
def position : Parse Nat := do
  let scan ← get
  return scan.index - (scan.next.map Token.length).getD 0

/-- Fails at a position. -/
def failAt {α : Type} (fault : Fault) (position : Nat) : Parse α :=
  throw (.invalid fault (some position))

/-- Fails `back` characters before the token ahead. -/
def failBefore {α : Type} (back : Nat) (fault : Fault) : Parse α := do
  failAt fault ((← position) - back)

/-- Fails at the token ahead. -/
def fail {α : Type} (fault : Fault) : Parse α :=
  failBefore 0 fault

/-- Looks at the next token of the characters at `index`. -/
def load (rest : List Char) (index : Nat) : Parse Unit := do
  match rest with
  | [] => modify ({ · with next := none, rest := [], index := index })
  | ['\\'] => do failAt .escapeAtEnd ((← get).size - 1)
  | '\\' :: c :: rest =>
    modify ({ · with next := some (.escape c), rest := rest, index := index + 2 })
  | c :: rest => modify ({ · with next := some (.plain c), rest := rest, index := index + 1 })

/-- Takes the token ahead. -/
def take : Parse (Option Token) := do
  let scan ← get
  load scan.rest scan.index
  return scan.next

/-- Takes the token ahead if it is this character. -/
def accept (character : Char) : Parse Bool := do
  if (← get).next = some (.plain character) then
    discard take
    return true
  else return false

/-- Takes up to `count` tokens that are characters of a class. -/
def takeWhile (allowed : Char → Bool) : (count : Nat) → Parse (List Char)
  | 0 => return []
  | count + 1 => do
    match (← get).next with
    | some (.plain c) =>
      if allowed c then
        discard take
        return c :: (← takeWhile allowed count)
      else return []
    | _ => return []

/-- Takes tokens up to a terminator, which is taken too; `what` names what they form.  `fuel`
bounds their number. -/
def takeUntil (terminator : Char) (what : String) :
    (fuel : Nat) → (taken : List Char) → Parse String
  | 0, _ => fail (.missingName what)
  | fuel + 1, taken => do
    match ← take with
    | none =>
      if taken.isEmpty then fail (.missingName what)
      else failBefore taken.length (.unterminatedName terminator)
    | some token =>
      if token = .plain terminator then
        if taken.isEmpty then failBefore 1 (.missingName what)
        else return String.ofList taken
      else takeUntil terminator what fuel (taken ++ token.characters)

/-- A name up to its terminator. -/
def name (terminator : Char) (what : String) : Parse String := do
  takeUntil terminator what ((← get).rest.length + 2) []

/-- The number of groups, the whole pattern included. -/
def groupCount : Parse Nat := return (← get).widths.length

/-- Whether a group has been read to its end. -/
def isClosed (number : Nat) : Parse Bool := do
  return ((← get).widths[number]?.getD none).isSome

/-- Refuses, inside a look-behind, a group that is open or was opened there. -/
def checkLookBehind (number : Nat) : Parse Unit := do
  match (← get).lookBehind with
  | none => return
  | some count =>
    if !(← isClosed number) then fail .openGroup
    else if count ≤ number then fail .lookBehindGroup
    else return

/-- Opens a group and returns its number. -/
def openGroup (name : Option String) : Parse Nat := do
  let number ← groupCount
  modify fun scan => { scan with widths := scan.widths ++ [none] }
  match name with
  | none => return number
  | some name =>
    match (← get).names.find? (·.1 == name) with
    | some (_, old) => failBefore (name.length + 1) (.redefinedGroup name number old)
    | none =>
      modify fun scan => { scan with names := scan.names ++ [(name, number)] }
      return number

/-- The width of a closed group. -/
def Scan.groupWidth (scan : Scan) (number : Nat) : Nat × Nat :=
  (scan.widths[number]?.getD none).getD (0, 0)

/-- Closes a group. -/
def closeGroup (number : Nat) (body : List Item) : Parse Unit :=
  modify fun scan =>
    { scan with
      widths := scan.widths.set number
        (some (Item.sequenceWidth (Scan.groupWidth scan) body)) }

end Parse

end GrammarFuzz.Pattern

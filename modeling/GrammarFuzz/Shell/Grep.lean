import GrammarFuzz.Pattern.Matcher
import GrammarFuzz.Pattern.Parser
import GrammarFuzz.Text.Utf8

/-!
# Searching lines

Lines that hold a match of an expression.  A basic expression writes groups, counts and
alternatives with a backslash, an extended one without, and a fixed one stands for its
characters.
-/

namespace GrammarFuzz.Shell.Grep

/-- What is asked for. -/
structure Options where
  /-- Lines without a match are taken. -/
  inverted : Bool
  /-- Nothing is printed. -/
  quiet : Bool
  /-- The number of lines is printed in their place. -/
  count : Bool
  ignoreCase : Bool
  /-- Lines are printed with their numbers. -/
  numbered : Bool
  /-- The match is a whole line. -/
  wholeLine : Bool
  extended : Bool
  fixed : Bool
  expression : Option String
  files : List String

/-- Nothing is asked for yet. -/
def Options.none : Options :=
  ⟨false, false, false, false, false, false, false, false, .none, []⟩

/-- The options after a letter; nothing if there is no such option. -/
def Options.set? (options : Options) (letter : Char) : Option Options :=
  match letter with
  | 'v' => some { options with inverted := true }
  | 'q' => some { options with quiet := true }
  | 'c' => some { options with count := true }
  | 'i' => some { options with ignoreCase := true }
  | 'n' => some { options with numbered := true }
  | 'x' => some { options with wholeLine := true }
  | 'E' => some { options with extended := true }
  | 'F' => some { options with fixed := true }
  | 'G' => some { options with extended := false, fixed := false }
  | 's' => some options
  | _ => .none

/-- Reads arguments into options; nothing if an option is unknown or misses its argument. -/
def Options.read? (options : Options) : List String → Option Options
  | [] => some options
  | "--" :: rest =>
    match options.expression, rest with
    | .none, expression :: files =>
      some { options with expression := some expression, files := options.files ++ files }
    | _, _ => some { options with files := options.files ++ rest }
  | "-e" :: expression :: rest => read? { options with expression := some expression } rest
  | argument :: rest =>
    match argument.toList with
    | '-' :: letters@(_ :: _) =>
      match letters.foldlM set? options with
      | some options => read? options rest
      | .none => .none
    | _ =>
      match options.expression with
      | .none => read? { options with expression := some argument } rest
      | some _ => read? { options with files := options.files ++ [argument] } rest

/-- A character that stands for itself in a pattern. -/
def escaped (c : Char) : List Char :=
  if "\\.^$*+?\x7b\x7d[]|()".toList.contains c then ['\\', c] else [c]

/-- A set in brackets as a pattern has it, and the rest after it. -/
def bracketSet (text : List Char) : List Char × List Char :=
  let (start, text) := match text with
    | '^' :: ']' :: rest => (['^', '\\', ']'], rest)
    | '^' :: rest => (['^'], rest)
    | ']' :: rest => (['\\', ']'], rest)
    | rest => ([], rest)
  let body := text.takeWhile (· ≠ ']')
  let body := body.flatMap fun c => if c = '\\' ∨ c = '[' then ['\\', c] else [c]
  ('[' :: start ++ body ++ [']'], (text.dropWhile (· ≠ ']')).drop 1)

/-- A basic expression as a pattern.  `atStart` holds where a star stands for itself; `fuel` bounds
the number of steps. -/
def ofBasic (atStart : Bool) : (fuel : Nat) → List Char → List Char
  | 0, _ => []
  | _, [] => []
  | fuel + 1, '\\' :: c :: rest =>
    if c = '(' then '(' :: '?' :: ':' :: ofBasic true fuel rest
    else if c = '|' then '|' :: ofBasic true fuel rest
    else if ")+?\x7b\x7d".toList.contains c then c :: ofBasic false fuel rest
    else if "wWbBsS".toList.contains c then '\\' :: c :: ofBasic false fuel rest
    else escaped c ++ ofBasic false fuel rest
  | fuel + 1, '[' :: rest =>
    let (set, rest) := bracketSet rest
    set ++ ofBasic false fuel rest
  | fuel + 1, c :: rest =>
    if c = '\n' then '|' :: ofBasic true fuel rest
    else if c = '*' then (if atStart then ['\\', '*'] else ['*']) ++ ofBasic false fuel rest
    else if c = '.' then '.' :: ofBasic false fuel rest
    else if c = '^' ∧ atStart then '^' :: ofBasic true fuel rest
    else if c = '$' ∧ (rest.isEmpty ∨ rest.take 2 = ['\\', ')'] ∨ rest.take 2 = ['\\', '|']) then
      '$' :: ofBasic false fuel rest
    else escaped c ++ ofBasic false fuel rest

/-- The pattern that lines are matched with as a whole. -/
def linePattern (options : Options) (expression : String) : String :=
  let body :=
    if options.fixed then
      expression.toList.flatMap fun c => if c = '\n' then ['|'] else escaped c
    else if options.extended then expression.toList
    else ofBasic true (expression.length + 1) expression.toList
  let group := "(?:" ++ String.ofList body ++ ")"
  (if options.ignoreCase then "(?i)" else "") ++
    (if options.wholeLine then group else "(?s:.*)" ++ group ++ "(?s:.*)")

/-- The lines of some bytes, without their ends. -/
def linesOf (current : List UInt8) (lines : List (List UInt8)) :
    List UInt8 → List (List UInt8)
  | [] => (if current.isEmpty then lines else current.reverse :: lines).reverse
  | byte :: rest =>
    if byte = 10 then linesOf [] (current.reverse :: lines) rest
    else linesOf (byte :: current) lines rest

/-- The lines that are taken, with their numbers; nothing if the expression cannot be read. -/
def taken? (options : Options) (expression : String) (bytes : List UInt8) :
    Option (List (Nat × List UInt8)) :=
  match Pattern.parse .plain (linePattern options expression) with
  | .error _ => .none
  | .ok tree =>
    let lines := linesOf [] [] bytes
    let numbered := (List.range lines.length).zip lines
    some (numbered.filterMap fun (place, line) =>
      if tree.matches ((Text.decodeUtf8Lenient line).map Char.toNat) != options.inverted then
        some (place + 1, line)
      else .none)

/-- What is printed for lines that are taken. -/
def printed (options : Options) (lines : List (Nat × List UInt8)) : List UInt8 :=
  if options.quiet then []
  else if options.count then Text.encodeUtf8 (toString lines.length ++ "\n")
  else
    lines.flatMap fun (number, line) =>
      (if options.numbered then Text.encodeUtf8 (toString number ++ ":") else []) ++ line ++ [10]

end GrammarFuzz.Shell.Grep

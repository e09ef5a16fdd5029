import GrammarFuzz.FileSystem.Basic
import GrammarFuzz.Number
import GrammarFuzz.Shell.Glob
import GrammarFuzz.Shell.Grep
import GrammarFuzz.Text.Blank
import GrammarFuzz.Text.Numeral

/-!
# The machine that commands run on

A machine holds the variables of a shell, its standard streams, the files and the time that has
been waited.  A command changes the machine and leaves a status; it may also end the
shell, by itself, by a signal, or because the time is up.
-/

namespace GrammarFuzz.Shell

/-- Where a stream leads. -/
inductive Target where
  | sink (number : Nat)
  | nowhere
  | file (path : String)
  deriving DecidableEq, Repr

/-- The state of a shell. -/
structure Machine where
  files : FileSystem
  bindings : List (List Char × List Char)
  /-- The name of the script. -/
  name : String
  arguments : List (List Char)
  status : Nat
  /-- What is left of the standard input. -/
  input : List UInt8
  /-- What has been written: the standard output, the standard error and what pipes hold. -/
  sinks : Array (Array UInt8)
  output : Target
  errors : Target
  /-- The seconds that have been waited. -/
  waited : Number
  /-- The seconds after which the time is up. -/
  limit : Option Number

/-- Why a shell ends. -/
inductive Stop where
  | exited (status : Nat)
  | killed (signal : Nat)
  /-- The time is up. -/
  | hung
  deriving DecidableEq, Repr

/-- A step of a machine. -/
abbrev Run (α : Type) := ExceptT Stop (StateM Machine) α

namespace Run

/-- The number that stands for the shell among processes. -/
def processNumber : String := "4242"

/-- Sets the status. -/
def setStatus (status : Nat) : Run Unit := modify ({ · with status := status })

/-- Writes bytes to a target. -/
def write (target : Target) (bytes : List UInt8) : Run Unit :=
  match target with
  | .sink number => modify fun machine =>
      { machine with sinks := machine.sinks.modify number (· ++ bytes.toArray) }
  | .nowhere => return ()
  | .file path => modify fun machine =>
      match machine.files.append path bytes with
      | .ok files => { machine with files }
      | .error _ => machine

/-- Writes to the standard output. -/
def print (bytes : List UInt8) : Run Unit := do write (← get).output bytes

/-- Writes a line to the standard error. -/
def complain (text : String) : Run Unit := do
  write (← get).errors (Text.encodeUtf8 (text ++ "\n"))

/-- Writes a message of the shell about a line of the script and sets the status. -/
def report (line : Nat) (text : String) (status : Nat) : Run Unit := do
  complain ((← get).name ++ ": " ++ toString line ++ ": " ++ text)
  setStatus status

/-- Takes all that is left of the standard input. -/
def takeInput : Run (List UInt8) := do
  let bytes := (← get).input
  modify ({ · with input := [] })
  return bytes

/-- Waits some seconds. -/
def wait (seconds : Number) : Run Unit := do
  let waited := (← get).waited.add seconds
  modify ({ · with waited })
  match (← get).limit with
  | some limit => if !waited.lt limit then throw .hung
  | none => return ()

/-- The value of a variable or parameter. -/
def value (name : List Char) : Run (List Char) := do
  let machine ← get
  let all := " ".intercalate (machine.arguments.map String.ofList)
  match name with
  | ['?'] => return (toString machine.status).toList
  | ['$'] => return processNumber.toList
  | ['#'] => return (toString machine.arguments.length).toList
  | ['@'] => return all.toList
  | ['*'] => return all.toList
  | ['!'] => return []
  | ['-'] => return []
  | ['0'] => return machine.name.toList
  | _ =>
    match (String.ofList name).toNat? with
    | some place => return (machine.arguments[place - 1]?).getD []
    | none => return ((machine.bindings.find? (·.1 == name)).map (·.2)).getD []

/-- Gives a variable a value. -/
def assign (name value : List Char) : Run Unit :=
  modify fun machine => { machine with
    bindings := (name, value) :: machine.bindings.filter (·.1 != name) }

/-- Runs a step and gives back its changes of variables, arguments and streams; an exit ends just
the step. -/
def isolated (step : Run Unit) : Run Unit := do
  let before ← get
  let stop? ← (try step; pure none catch stop => pure (some stop))
  modify fun after => { after with
    bindings := before.bindings
    arguments := before.arguments
    output := before.output
    errors := before.errors }
  match stop? with
  | none => return ()
  | some (.exited status) => setStatus status
  | some stop => throw stop

/-- Runs a step with its output going to a new sink, and takes what it wrote. -/
def captured (step : Run Unit) : Run (List UInt8) := do
  let before ← get
  let number := before.sinks.size
  set { before with sinks := before.sinks.push #[], output := .sink number }
  step
  modify ({ · with output := before.output })
  return ((← get).sinks.getD number #[]).toList

/-! ## Programs -/

/-- Writes the standard input and files one after the other. -/
def cat : List String → Run Unit
  | [] => return ()
  | path :: rest => do
    if path = "-" then print (← takeInput)
    else
      match (← get).files.read path with
      | .ok bytes => print bytes
      | .error (.atPath fault _) =>
        complain ("cat: " ++ path ++ ": " ++ fault.message)
        setStatus 1
      | .error _ => setStatus 1
    cat rest

/-- The bytes of the files that are searched, or of the standard input. -/
def searched : List String → Run (List (List UInt8))
  | [] => return [← takeInput]
  | ["-"] => return [← takeInput]
  | paths => paths.filterMapM fun path => do
    match (← get).files.read path with
    | .ok bytes => return some bytes
    | .error (.atPath fault _) =>
      complain ("grep: " ++ path ++ ": " ++ fault.message)
      return none
    | .error _ => return none

/-- Prints the lines that hold a match. -/
def grep (arguments : List String) : Run Unit := do
  match Grep.Options.none.read? arguments with
  | some options =>
    match options.expression with
    | none => usage
    | some expression =>
      let inputs ← searched options.files
      let results := inputs.map (Grep.taken? options expression)
      if results.any Option.isNone then setStatus 2
      else
        let found := results.filterMap id
        found.forM fun lines => print (Grep.printed options lines)
        if found.any (!·.isEmpty) then setStatus 0
        else if inputs.length < options.files.length then setStatus 2
        else setStatus 1
  | none => usage
where
  /-- Tells how the program is used. -/
  usage : Run Unit := do
    complain "Usage: grep [OPTION]... PATTERNS [FILE]..."
    complain "Try 'grep --help' for more information."
    setStatus 2

/-- The seconds of a span of time. -/
def seconds? (text : String) : Option Number := do
  let characters := text.toList
  let (number, factor) ← match characters.getLast? with
    | some 's' => some (characters.dropLast, 1)
    | some 'm' => some (characters.dropLast, 60)
    | some 'h' => some (characters.dropLast, 3600)
    | some 'd' => some (characters.dropLast, 86400)
    | _ => some (characters, 1)
  let value ← Text.parseFloat? (String.ofList number)
  if value < 0 then none else some ((Number.float value).mul (.int factor))

/-- Waits for spans of time. -/
def sleep (arguments : List String) : Run Unit := do
  if arguments.isEmpty then
    complain "sleep: missing operand"
    complain "Try 'sleep --help' for more information."
    setStatus 1
  else
    match arguments.find? (seconds? · |>.isNone) with
    | some wrong =>
      complain ("sleep: invalid time interval ‘" ++ wrong ++ "’")
      complain "Try 'sleep --help' for more information."
      setStatus 1
    | none =>
      arguments.forM fun argument => wait ((seconds? argument).getD (.int 0))
      setStatus 0

/-! ## Built-in commands -/

/-- A number of octal digits, at most `count` of them, and the rest. -/
def octal (value : Nat) : (count : Nat) → List Char → Nat × List Char
  | 0, rest => (value, rest)
  | count + 1, c :: rest =>
    if '0' ≤ c ∧ c ≤ '7' then octal (value * 8 + (c.toNat - '0'.toNat)) count rest
    else (value, c :: rest)
  | _, [] => (value, [])

/-- The bytes of a text in which backslashes start escapes.  With `zeroFirst` octal escapes start
with a zero.  `fuel` bounds the number of steps. -/
def unescaped (zeroFirst : Bool) : (fuel : Nat) → List Char → List UInt8
  | 0, _ => []
  | _, [] => []
  | fuel + 1, '\\' :: c :: rest =>
    let plain (byte : UInt8) := byte :: unescaped zeroFirst fuel rest
    match c with
    | 'n' => plain 10
    | 't' => plain 9
    | 'r' => plain 13
    | '\\' => plain 92
    | 'a' => plain 7
    | 'b' => plain 8
    | 'f' => plain 12
    | 'v' => plain 11
    | _ =>
      if zeroFirst && c = '0' then
        let (value, rest) := octal 0 3 rest
        value.toUInt8 :: unescaped zeroFirst fuel rest
      else if !zeroFirst && '0' ≤ c && c ≤ '7' then
        let (value, rest) := octal 0 3 (c :: rest)
        value.toUInt8 :: unescaped zeroFirst fuel rest
      else 92 :: Text.encodeUtf8 c.toString ++ unescaped zeroFirst fuel rest
  | fuel + 1, c :: rest => Text.encodeUtf8 c.toString ++ unescaped zeroFirst fuel rest

/-- Prints words with blanks between them. -/
def echo (arguments : List String) : Run Unit := do
  let (words, ending) : List String × List UInt8 := match arguments with
    | "-n" :: words => (words, [])
    | words => (words, [10])
  let text := (" ".intercalate words).toList
  print (unescaped true (text.length + 1) text ++ ending)
  setStatus 0

/-- The bytes of a format with arguments put in, and the arguments that are left.  `fuel` bounds
the number of steps. -/
def formatted : (fuel : Nat) → List Char → List String → List UInt8 × List String
  | 0, _, arguments => ([], arguments)
  | _, [], arguments => ([], arguments)
  | fuel + 1, '%' :: c :: rest, arguments =>
    let argument := arguments.headD ""
    let (bytes, arguments) := match c with
      | '%' => ([37], arguments)
      | 's' => (Text.encodeUtf8 argument, arguments.drop 1)
      | 'b' =>
        (unescaped true (argument.length + 1) argument.toList, arguments.drop 1)
      | 'd' =>
        (Text.encodeUtf8 (toString ((Text.parseInt? none argument).getD 0)), arguments.drop 1)
      | 'c' => (Text.encodeUtf8 (String.ofList (argument.toList.take 1)), arguments.drop 1)
      | _ => (Text.encodeUtf8 (String.ofList ['%', c]), arguments)
    let (more, arguments) := formatted fuel rest arguments
    (bytes ++ more, arguments)
  | fuel + 1, '\\' :: c :: rest, arguments =>
    let taken :=
      if '0' ≤ c ∧ c ≤ '7' then 1 + (((c :: rest).take 3).takeWhile Char.isDigit).length else 2
    let escape := ('\\' :: c :: rest).take taken
    let (more, arguments) := formatted fuel (('\\' :: c :: rest).drop taken) arguments
    (unescaped false 5 escape ++ more, arguments)
  | fuel + 1, c :: rest, arguments =>
    let (more, arguments) := formatted fuel rest arguments
    (Text.encodeUtf8 c.toString ++ more, arguments)

/-- A format that is used again until no arguments are left. -/
def formattedAll (format : List Char) : (fuel : Nat) → List String → List UInt8
  | 0, _ => []
  | fuel + 1, arguments =>
    let (bytes, left) := formatted (format.length + 1) format arguments
    if left.isEmpty ∨ left.length = arguments.length then bytes
    else bytes ++ formattedAll format fuel left

/-- Prints a format with arguments put in. -/
def printf : List String → Run Unit
  | [] => do
    complain "printf: usage: printf format [arg ...]"
    setStatus 2
  | format :: arguments => do
    print (formattedAll format.toList (arguments.length + 1) arguments)
    setStatus 0

/-- Whether a character separates fields. -/
def isFieldBlank (c : Char) : Bool := c == ' ' || c == '\t' || c == '\n'

/-- A line of the standard input, and whether its end was there. -/
def takeLine : Run (List Char × Bool) := do
  let bytes := (← get).input
  let line := bytes.takeWhile (· ≠ 10)
  let rest := bytes.dropWhile (· ≠ 10)
  modify ({ · with input := rest.drop 1 })
  return (Text.decodeUtf8Lenient line, !rest.isEmpty)

/-- Splits a line into the values of some variables; the last one takes all that is left. -/
def assignFields (line : List Char) : List String → Run Unit
  | [] => return ()
  | [name] => assign name.toList (line.reverse.dropWhile isFieldBlank).reverse
  | name :: rest => do
    assign name.toList (line.takeWhile (!isFieldBlank ·))
    assignFields ((line.dropWhile (!isFieldBlank ·)).dropWhile isFieldBlank) rest

/-- Reads a line into variables. -/
def readLine (arguments : List String) : Run Unit := do
  let (raw, names) := match arguments with
    | "-r" :: names => (true, names)
    | names => (false, names)
  let (line, ended) ← takeLine
  let line := if raw then line else line.filter (· ≠ '\\')
  assignFields (line.dropWhile isFieldBlank) names
  setStatus (if ended then 0 else 1)

/-- The numbers of signals by name. -/
def signalNumber? (name : String) : Option Nat :=
  match Text.parseInt? none name with
  | some number => some number.toNat
  | none =>
    [("HUP", 1), ("INT", 2), ("QUIT", 3), ("ILL", 4), ("ABRT", 6), ("FPE", 8), ("KILL", 9),
      ("USR1", 10), ("SEGV", 11), ("USR2", 12), ("PIPE", 13), ("ALRM", 14), ("TERM", 15)].lookup name

/-- Sends a signal. -/
def kill (line : Nat) (arguments : List String) : Run Unit := do
  let (signal, processes) := match arguments with
    | "-s" :: name :: rest => (signalNumber? name, rest)
    | argument :: rest =>
      match argument.toList with
      | '-' :: name => (signalNumber? (String.ofList name), rest)
      | _ => (some 15, argument :: rest)
    | [] => (some 15, [])
  match signal with
  | none => report line "kill: unknown signal" 2
  | some signal =>
    if processes.contains processNumber then
      if signal = 0 then setStatus 0 else throw (.killed signal)
    else report line "kill: No such process" 1

/-- Leaves the shell with a status. -/
def exit (line : Nat) : List String → Run Unit
  | [] => do throw (.exited (← get).status)
  | argument :: _ =>
    if !argument.isEmpty && argument.toList.all Char.isDigit then
      throw (.exited ((argument.toNat?.getD 0) % 256))
    else do
      report line ("exit: Illegal number: " ++ argument) 2
      throw (.exited 2)

/-- What a test says; nothing if it cannot be read. -/
def testHolds (files : FileSystem) : List String → Option Bool
  | [] => some false
  | "!" :: rest@(_ :: _) => (testHolds files rest).map (!·)
  | [text] => some (!text.isEmpty)
  | [operator, text] =>
    match operator with
    | "-n" => some (!text.isEmpty)
    | "-z" => some text.isEmpty
    | "-e" => some (files.at? text).isSome
    | "-d" => some (files.isDirectory text)
    | "-f" => some ((files.at? text).isSome && !files.isDirectory text)
    | "-r" => some (files.at? text).isSome
    | "-s" =>
      some (match files.read text with
        | .ok bytes => !bytes.isEmpty
        | .error _ => false)
    | _ => none
  | [first, operator, second] =>
    match operator with
    | "=" => some (first == second)
    | "!=" => some (first != second)
    | _ => do
      let a ← Text.parseInt? none first
      let b ← Text.parseInt? none second
      match operator with
      | "-eq" => some (a == b)
      | "-ne" => some (a != b)
      | "-lt" => some (a < b)
      | "-le" => some (a ≤ b)
      | "-gt" => some (b < a)
      | "-ge" => some (b ≤ a)
      | _ => none
  | _ => none

/-- Tests a condition. -/
def test (line : Nat) (arguments : List String) : Run Unit := do
  match testHolds (← get).files arguments with
  | some true => setStatus 0
  | some false => setStatus 1
  | none => report line "test: unexpected operator" 2

end Run

end GrammarFuzz.Shell

import GrammarFuzz.Platform
import GrammarFuzz.Shell.Machine
import GrammarFuzz.Shell.Parser
import GrammarFuzz.Text.CharacterName

/-!
# Running commands

A command is a program of the machine or a script of the shell.  Scripts run for a bounded
number of steps; one that takes more counts as hanging.  This machine is one platform among
others, for running the program; nothing that is said of the program is about it.
-/

namespace GrammarFuzz.Shell

/-! ## Expanding words -/

/-- Fields while a word is expanded: those done, the last one first, and the one that is being
written, if there is one. -/
structure Fields where
  done : List (List Glyph)
  current : Option (List Glyph)

namespace Fields

/-- No fields. -/
def none : Fields := ⟨[], .none⟩

/-- Adds characters to the current field. -/
def add (fields : Fields) (quoted : Bool) (text : List Char) : Fields :=
  { fields with current := some (fields.current.getD [] ++ text.map (⟨·, quoted⟩)) }

/-- Ends the current field. -/
def close (fields : Fields) : Fields :=
  match fields.current with
  | some field => ⟨field :: fields.done, .none⟩
  | .none => fields

/-- Adds characters that blanks split into fields. -/
def split (fields : Fields) : List Char → Fields
  | [] => fields
  | c :: rest =>
    if Run.isFieldBlank c then split fields.close rest else split (fields.add false [c]) rest

/-- Adds a value: as it is if it is quoted, else split at blanks. -/
def value (fields : Fields) (quoted : Bool) (text : List Char) : Fields :=
  if quoted then fields.add true text else fields.split text

/-- All fields in order. -/
def all (fields : Fields) : List (List Glyph) := fields.close.done.reverse

end Fields

/-- The characters of a field. -/
def characters (field : List Glyph) : List Char := field.map (·.character)

/-- A text without the line ends at its end. -/
def withoutLineEnds (text : List Char) : List Char :=
  (text.reverse.dropWhile (· == '\n')).reverse

/-! ## Running scripts -/

namespace Run

/-- The target that a descriptor has. -/
def targetOf (machine : Machine) : Nat → Target
  | 1 => machine.output
  | 2 => machine.errors
  | _ => .nowhere

/-- Gives a descriptor a target. -/
def redirect (descriptor : Nat) (target : Target) : Run Unit :=
  match descriptor with
  | 1 => modify ({ · with output := target })
  | 2 => modify ({ · with errors := target })
  | _ => return ()

/-- Opens a path for a stream; the result tells whether that works. -/
def openPath (line descriptor : Nat) (direction : Direction) (path : String) : Run Bool := do
  let machine ← get
  if path = "/dev/null" then
    if direction = .input then modify ({ · with input := [] })
    else redirect descriptor .nowhere
    return true
  else
    match direction with
    | .input =>
      match machine.files.read path with
      | .ok input =>
        modify ({ · with input })
        return true
      | .error _ =>
        report line ("cannot open " ++ path ++ ": No such file") 2
        return false
    | .duplicate =>
      match path.toNat? with
      | some number =>
        redirect descriptor (targetOf machine number)
        return true
      | none =>
        if path = "-" then
          redirect descriptor .nowhere
          return true
        else
          report line ("Bad fd number") 2
          return false
    | direction =>
      let opened :=
        if direction = .append then machine.files.append path []
        else machine.files.write path []
      match opened with
      | .ok files =>
        modify ({ · with files })
        redirect descriptor (.file path)
        return true
      | .error error =>
        let reason := match error with
          | .atPath .isDirectory _ => "Is a directory"
          | _ => "Directory nonexistent"
        report line ("cannot create " ++ path ++ ": " ++ reason) 2
        return false

/-- Gives back the standard input that redirections have put aside. -/
def restoreInput (before : Machine) (redirections : List Redirection) : Run Unit :=
  if redirections.any (·.direction = .input) then modify ({ · with input := before.input })
  else return ()

/-- Runs a command that is neither a script nor a shell; the result tells whether there is one. -/
def program (line : Nat) (name : String) (arguments : List String) : Run Bool := do
  match name with
  | ":" | "true" | "set" => setStatus 0
  | "false" => setStatus 1
  | "echo" => echo arguments
  | "printf" => printf arguments
  | "exit" => exit line arguments
  | "read" => readLine arguments
  | "kill" => kill line arguments
  | "test" => test line arguments
  | "[" => test line arguments.dropLast
  | "cat" =>
    setStatus 0
    cat (if arguments.isEmpty then ["-"] else arguments)
  | "grep" => grep arguments
  | "sleep" => sleep arguments
  | _ => return false
  return true

mutual

/-- Expands a word into fields. -/
def expand : (fuel : Nat) → (word : Word) → (fields : Fields) → Run Fields
  | 0, _, _ => throw .hung
  | _, [], fields => return fields
  | fuel + 1, part :: rest, fields => do
    let fields ← (match part with
      | .literal quoted text => return fields.add quoted text
      | .parameter true ['@'] _ => do
        match (← get).arguments with
        | [] => return fields
        | first :: more =>
          return more.foldl (fun fields argument => fields.close.add true argument)
            (fields.add true first)
      | .parameter quoted name otherwise => do
        let text ← value name
        return fields.value quoted (if text.isEmpty then otherwise.getD [] else text)
      | .length name => return fields.add false (toString (← value name).length).toList
      | .output quoted script => do
        let bytes ← captured (isolated (runText fuel 0 script))
        return fields.value quoted (withoutLineEnds (Text.decodeUtf8Lenient bytes)) : Run Fields)
    expand fuel rest fields

/-- Expands words into fields. -/
def expandAll : (fuel : Nat) → (words : List Word) → Run (List (List Glyph))
  | 0, _ => throw .hung
  | _, [] => return []
  | fuel + 1, word :: rest => do
    let fields ← expand fuel word .none
    return fields.all ++ (← expandAll fuel rest)

/-- Expands a word into one text, whose glyphs can be read as a pattern. -/
def expandOne : (fuel : Nat) → (word : Word) → Run (List Glyph)
  | 0, _ => throw .hung
  | fuel + 1, word => do
    return [⟨' ', true⟩].intercalate (← expand fuel word .none).all

/-- Redirects streams; the result tells whether all could be opened. -/
def redirectAll (line : Nat) : (fuel : Nat) → List Redirection → Run Bool
  | 0, _ => throw .hung
  | _, [] => return true
  | fuel + 1, ⟨descriptor, direction, target⟩ :: rest => do
    let path := String.ofList (characters (← expandOne fuel target))
    if ← openPath line descriptor direction path then redirectAll line fuel rest
    else return false

/-- Makes assignments. -/
def assignAll : (fuel : Nat) → List (List Char × Word) → Run Unit
  | 0, _ => throw .hung
  | _, [] => return ()
  | fuel + 1, (name, word) :: rest => do
    assign name (characters (← expandOne fuel word))
    assignAll fuel rest

/-- Runs a command with its arguments. -/
def command (line : Nat) : (fuel : Nat) → (words : List String) → Run Unit
  | 0, _ => throw .hung
  | _, [] => return ()
  | fuel + 1, name :: arguments => do
    if name = "exec" then
      if arguments.isEmpty then setStatus 0
      else
        command line fuel arguments
        throw (.exited (← get).status)
    else if name = "sh" then
      isolated (shell fuel arguments)
    else if ← program line name arguments then return ()
    else if name.contains '/' then
      if ((← get).files.at? name).isSome then report line (name ++ ": Permission denied") 126
      else report line (name ++ ": not found") 127
    else report line (name ++ ": not found") 127

/-- Runs a script that is given by arguments: as a text, as a file or on the standard input. -/
def shell : (fuel : Nat) → (arguments : List String) → Run Unit
  | 0, _ => throw .hung
  | fuel + 1, arguments => do
    match arguments with
    | "-c" :: script :: rest =>
      modify fun machine => { machine with
        name := rest.headD "sh"
        arguments := (rest.drop 1).map String.toList
        bindings := [] }
      runText fuel 0 script.toList
    | ["-c"] =>
      complain "sh: 0: -c requires an argument"
      throw (.exited 2)
    | [] =>
      modify ({ · with name := "sh", arguments := [], bindings := [] })
      runText fuel 0 (Text.decodeUtf8Lenient (← takeInput))
    | path :: rest =>
      match (← get).files.read path with
      | .ok bytes =>
        modify ({ · with name := path, arguments := rest.map String.toList, bindings := [] })
        runText fuel 0 (Text.decodeUtf8Lenient bytes)
      | .error _ =>
        complain ("sh: 0: cannot open " ++ path ++ ": No such file")
        throw (.exited 2)

/-- Runs the script that a text holds. -/
def runText : (fuel : Nat) → (line : Nat) → (text : List Char) → Run Unit
  | 0, _, _ => throw .hung
  | fuel + 1, _, text => do
    setStatus 0
    match parse text with
    | .ok script => runScript fuel script
    | .error error =>
      report error.line error.message 2
      throw (.exited 2)

/-- Runs a script. -/
def runScript : (fuel : Nat) → (script : Script) → Run Unit
  | 0, _ => throw .hung
  | fuel + 1, script => do
    match script with
    | .skip => return ()
    | .simple line assignments words redirections =>
      let fields ← expandAll fuel words
      let before ← get
      if fields.isEmpty then
        if words.isEmpty then setStatus 0
        assignAll fuel assignments
        let _ ← redirectAll line fuel redirections
        modify ({ · with output := before.output, errors := before.errors })
      else
        assignAll fuel assignments
        if ← redirectAll line fuel redirections then
          command line fuel (fields.map fun field => String.ofList (characters field))
        modify ({ · with output := before.output, errors := before.errors })
        restoreInput before redirections
    | .pipe first second =>
      let bytes ← captured (isolated (runScript fuel first))
      let left := (← get).input
      modify ({ · with input := bytes })
      isolated (runScript fuel second)
      modify ({ · with input := left })
    | .negated body =>
      runScript fuel body
      setStatus (if (← get).status = 0 then 1 else 0)
    | .andThen first second =>
      runScript fuel first
      if (← get).status = 0 then runScript fuel second
    | .orElse first second =>
      runScript fuel first
      if (← get).status ≠ 0 then runScript fuel second
    | .sequence first second =>
      runScript fuel first
      runScript fuel second
    | .conditional condition yes no =>
      runScript fuel condition
      if (← get).status = 0 then runScript fuel yes
      else
        setStatus 0
        runScript fuel no
    | .loop holds condition body =>
      runScript fuel condition
      if ((← get).status = 0) = holds then
        runScript fuel body
        runScript fuel script
      else setStatus 0
    | .each name words body =>
      runEach fuel name body (← expandAll fuel words)
    | .select word clauses =>
      let subject ← expandOne fuel word
      setStatus 0
      runClause fuel (characters subject) clauses
    | .subshell body redirections =>
      let before ← get
      isolated do
        if ← redirectAll 1 fuel redirections then runScript fuel body
      restoreInput before redirections
    | .group body redirections =>
      let before ← get
      if ← redirectAll 1 fuel redirections then runScript fuel body
      modify ({ · with output := before.output, errors := before.errors })
      restoreInput before redirections

/-- Runs a body once for each value of a variable. -/
def runEach : (fuel : Nat) → (name : List Char) → (body : Script) →
    (values : List (List Glyph)) → Run Unit
  | 0, _, _, _ => throw .hung
  | _, _, _, [] => return ()
  | fuel + 1, name, body, value :: rest => do
    assign name (characters value)
    runScript fuel body
    runEach fuel name body rest

/-- Runs the first clause that has a pattern for a text. -/
def runClause : (fuel : Nat) → (subject : List Char) →
    (clauses : List (List Word × Script)) → Run Unit
  | 0, _, _ => throw .hung
  | _, _, [] => return ()
  | fuel + 1, subject, (patterns, body) :: rest => do
    if ← anyPattern fuel subject patterns then runScript fuel body
    else runClause fuel subject rest

/-- Whether one of some patterns matches a text. -/
def anyPattern : (fuel : Nat) → (subject : List Char) → (patterns : List Word) → Run Bool
  | 0, _, _ => throw .hung
  | _, _, [] => return false
  | fuel + 1, subject, pattern :: rest => do
    if globHolds (← expandOne fuel pattern) subject then return true
    else anyPattern fuel subject rest

end

end Run

/-! ## Starting commands -/

/-- The number of steps that a script may take. -/
def stepLimit : Nat := 10000

/-- The programs that can be started. -/
def programs : List String := ["true", "false", "cat", "grep", "sh", "sleep"]

/-- The program that a name stands for, or why it cannot be started. -/
def programOf (files : FileSystem) (name : String) : Except FileSystem.Error String :=
  if name.contains '/' then
    match programs.find? fun program => name = "/bin/" ++ program ∨ name = "/usr/bin/" ++ program with
    | some program => .ok program
    | none =>
      match files.locate name with
      | .error error => .error error
      | .ok place =>
        match files.entry? place with
        | none => .error (.atPath .noEntry name)
        | some _ => .error (.atPath .permissionDenied name)
  else if programs.contains name then .ok name
  else if name.isEmpty ∨ name = "." ∨ name = ".." then .error (.atPath .permissionDenied name)
  else .error (.atPath .noEntry name)

/-- Runs a command on an input, and gives the files it leaves. -/
def start (files : FileSystem) (arguments : List String) (input : List UInt8)
    (limit : Option Number) : CommandEnd × FileSystem :=
  match programOf files (arguments.headD "") with
  | .error error => (.cannotStart error.message, files)
  | .ok program =>
    let machine : Machine :=
      ⟨files, [], "sh", [], 0, input, #[#[], #[]], .sink 0, .sink 1, .int 0, limit⟩
    let step : Run Unit :=
      if program = "sh" then Run.shell stepLimit arguments.tail
      else do let _ ← Run.program 1 program arguments.tail
    let (result, machine) := step.run.run machine
    let exited (status : Int) : CommandEnd :=
      .exited status (machine.sinks.getD 0 #[]).toList (machine.sinks.getD 1 #[]).toList
    let ending := match result with
      | .ok () => exited machine.status
      | .error (.exited status) => exited status
      | .error (.killed signal) => exited (-(signal : Int))
      | .error .hung => .timedOut
    (ending, machine.files)

/-- The platform to run the program on: it knows the names of common characters, has no modules, and
runs commands on the machine. -/
def platform : Platform :=
  { Platform.bare with
    interpreter := ⟨Text.commonNames, some 4300⟩
    runCommand := fun _ => start }

end GrammarFuzz.Shell

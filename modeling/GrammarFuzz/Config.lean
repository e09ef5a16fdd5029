import GrammarFuzz.Json.Basic
import GrammarFuzz.Text.Blank

/-!
# Configurations

The options of a campaign: how many results to find, how to generate programs, which oracles
to ask and where to save results.  A configuration is checked option by option, in a
fixed order, and the first fault is the one reported.
-/

namespace GrammarFuzz

/-- A command, as one line or as its words. -/
inductive Command where
  | line (text : String)
  | list (arguments : List String)
  deriving DecidableEq, Repr

namespace Command

/-- The program and its arguments; a line is split at blanks. -/
def arguments : Command → List String
  | line text => Text.words text
  | list arguments => arguments

/-- The command as a document value. -/
def toJson : Command → Json
  | line text => .text text
  | list arguments => .list (arguments.map .text)

end Command

/-- The options of a campaign. -/
structure Config where
  results : Int
  /-- What stands between two tokens of a program. -/
  separator : String
  /-- The depth below which choices favour alternatives that end soon. -/
  depth : Int
  /-- The mean number of repetitions. -/
  repetition : Number
  /-- The number of free repetitions in patterns. -/
  regexRepeat : Int
  /-- The language of the parse oracle. -/
  language : Option String
  /-- The command of the compiler oracle. -/
  compiler : Option Command
  seed : Option Int
  /-- The seconds after which a compiler counts as hanging. -/
  timeout : Option Number
  maxAttempts : Option Int
  outputDirectory : Option String

namespace Config

/-- The options that hold unless others are given. -/
def standard : Config where
  results := 1
  separator := " "
  depth := 10
  repetition := .float 5
  regexRepeat := 5
  language := none
  compiler := none
  seed := none
  timeout := none
  maxAttempts := none
  outputDirectory := none

/-- Whether there is an oracle. -/
def hasOracle (config : Config) : Bool := config.language.isSome || config.compiler.isSome

/-- An option that is out of range. -/
inductive Error where
  | results (value : Int)
  | depth (value : Int)
  | repetition (value : Number)
  | regexRepeat (value : Int)
  | timeout (value : Number)
  | maxAttempts (value : Int)
  | emptyCommand

/-- The wording of a fault. -/
def Error.message : Error → String
  | .results value => "results must be at least 1, got " ++ toString value
  | .depth value => "depth must not be negative, got " ++ toString value
  | .repetition value => "repeat must not be negative, got " ++ value.text
  | .regexRepeat value => "regex repeat must not be negative, got " ++ toString value
  | .timeout value => "timeout must be positive, got " ++ value.text
  | .maxAttempts value => "max attempts must be at least 1, got " ++ toString value
  | .emptyCommand => "compiler command line is empty"

/-- The first option that is out of range. -/
def fault? (config : Config) : Option Error :=
  if config.results < 1 then some (.results config.results)
  else if config.depth < 0 then some (.depth config.depth)
  else if config.repetition.lt (.int 0) then some (.repetition config.repetition)
  else if config.regexRepeat < 0 then some (.regexRepeat config.regexRepeat)
  else
    (config.timeout.bind fun timeout =>
      if (Number.int 0).lt timeout || timeout.isUnordered then none else some (.timeout timeout))
    <|> (config.maxAttempts.bind fun attempts =>
      if attempts < 1 then some (.maxAttempts attempts) else none)
    <|> (config.compiler.bind fun command =>
      if command.arguments.isEmpty then some .emptyCommand else none)

/-- The configuration, if all options are in range. -/
def validate (config : Config) : Except Error Config :=
  match config.fault? with
  | some error => .error error
  | none => .ok config

/-- An option that may be absent, as a document value. -/
def optional {α : Type} (toJson : α → Json) : Option α → Json
  | some value => toJson value
  | none => .null

/-- The options by name. -/
def members (config : Config) : List (String × Json) := [
  ("results", .int config.results),
  ("separator", .text config.separator),
  ("depth", .int config.depth),
  ("repeat", .number config.repetition),
  ("regex_repeat", .int config.regexRepeat),
  ("grammar", optional .text config.language),
  ("compiler", optional Command.toJson config.compiler),
  ("seed", optional .int config.seed),
  ("timeout", optional .number config.timeout),
  ("max_attempts", optional .int config.maxAttempts),
  ("output_dir", optional .text config.outputDirectory)]

/-- A configuration as messages show it. -/
def shown (config : Config) : String :=
  "FuzzConfig(" ++
    ", ".intercalate (config.members.map fun (name, value) => name ++ "=" ++ value.shown) ++ ")"

end Config

end GrammarFuzz

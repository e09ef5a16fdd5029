import GrammarFuzz.Config
import GrammarFuzz.Log.Record
import GrammarFuzz.Text.Numeral

/-!
# Switches

The switches of the command line: how each is spelled, whether it expects a value, and what its
value means for the settings.  Whole numbers and decimal numbers may have blanks around
them and underscores between their digits.
-/

namespace GrammarFuzz.CommandLine

/-- A switch of the command line. -/
inductive Switch where
  | help
  | compiler
  | grammar
  | results
  | separator
  | depth
  | repetition
  | regexRepeat
  | seed
  | timeout
  | maxAttempts
  | outputDirectory
  | logLevel
  | logDirectory
  | version
  deriving DecidableEq, Repr

namespace Switch

/-- The switches in the order in which they are listed. -/
def all : List Switch :=
  [help, compiler, grammar, results, separator, depth, repetition, regexRepeat, seed, timeout,
    maxAttempts, outputDirectory, logLevel, logDirectory, version]

/-- How a switch may be spelled. -/
def spellings : Switch → List String
  | help => ["-h", "--help"]
  | compiler => ["--compiler"]
  | grammar => ["--grammar"]
  | results => ["--results"]
  | separator => ["--separator"]
  | depth => ["--depth"]
  | repetition => ["--repeat"]
  | regexRepeat => ["--regex-repeat"]
  | seed => ["--seed"]
  | timeout => ["--timeout"]
  | maxAttempts => ["--max-attempts"]
  | outputDirectory => ["--output-dir"]
  | logLevel => ["--log-level"]
  | logDirectory => ["--log-dir"]
  | version => ["--version"]

/-- A switch with all its spellings, as messages name it. -/
def shown (switch : Switch) : String := "/".intercalate switch.spellings

/-- What stands for the value of a switch in the usage; nothing if it takes none. -/
def placeholder? : Switch → Option String
  | help | version => none
  | compiler => some "COMMAND"
  | grammar => some "MODULE"
  | results => some "RESULTS"
  | separator => some "SEPARATOR"
  | depth => some "DEPTH"
  | repetition => some "REPEAT"
  | regexRepeat => some "REGEX_REPEAT"
  | seed => some "SEED"
  | timeout => some "TIMEOUT"
  | maxAttempts => some "MAX_ATTEMPTS"
  | outputDirectory => some "OUTPUT_DIR"
  | logLevel => some "LEVEL"
  | logDirectory => some "LOG_DIR"

/-- What a switch is for. -/
def purpose : Switch → String
  | help => "show this text and exit"
  | compiler => "command that each program is passed to"
  | grammar => "language module that parses each program"
  | results => "number of results to find"
  | separator => "text between the tokens of a program"
  | depth => "depth below which programs are steered to an end"
  | repetition => "mean number of repetitions"
  | regexRepeat => "number of free repetitions in patterns"
  | seed => "seed of all random draws"
  | timeout => "seconds after which the command counts as failed"
  | maxAttempts => "number of programs after which to give up"
  | outputDirectory => "directory in which results are saved"
  | logLevel => "level of the messages on the console"
  | logDirectory => "directory of the log file"
  | version => "show the version and exit"

/-- The spellings of all switches. -/
def spelled : List (String × Switch) :=
  all.flatMap fun switch => switch.spellings.map fun spelling => (spelling, switch)

/-- The switch that is spelled like this. -/
def ofSpelling? (spelling : String) : Option Switch :=
  (spelled.find? (·.1 == spelling)).map (·.2)

end Switch

/-! ## Errors -/

/-- Why arguments are refused. -/
inductive ArgumentError where
  /-- The start of a spelling fits these spellings. -/
  | ambiguous (text : String) (spellings : List String)
  | valueMissing (switch : Switch)
  | valueUnexpected (switch : Switch) (value : String)
  | notWhole (switch : Switch) (value : String)
  | notDecimal (switch : Switch) (value : String)
  | notLevel (value : String)
  | fileMissing
  | unrecognized (texts : List String)
  deriving DecidableEq, Repr

/-- The levels that can be chosen. -/
def levels : List Log.Level := [Log.Level.debug, Log.Level.info, Log.Level.warning, Log.Level.error]

/-- A fault of the value of a switch. -/
def valueMessage (switch : Switch) (fault : String) : String :=
  "argument " ++ switch.shown ++ ": " ++ fault

/-- How the argument for the grammar file is named. -/
def fileWord : String := "grammar-json-file"

/-- The wording of an error. -/
def ArgumentError.message : ArgumentError → String
  | .ambiguous text spellings =>
    "ambiguous option: " ++ text ++ " could match " ++ ", ".intercalate spellings
  | .valueMissing switch => valueMessage switch "expected one argument"
  | .valueUnexpected switch value =>
    valueMessage switch ("ignored explicit argument " ++ Text.quoted value)
  | .notWhole switch value => valueMessage switch ("invalid int value: " ++ Text.quoted value)
  | .notDecimal switch value => valueMessage switch ("invalid float value: " ++ Text.quoted value)
  | .notLevel value =>
    valueMessage .logLevel ("invalid choice: " ++ Text.quoted value ++ " (choose from " ++
      ", ".intercalate (levels.map fun level => Text.quoted (Log.Level.name level)) ++ ")")
  | .fileMissing => "the following arguments are required: " ++ fileWord
  | .unrecognized texts => "unrecognized arguments: " ++ " ".intercalate texts

/-! ## Settings -/

/-- What the switches settle. -/
structure Settings where
  config : Config
  /-- The level of the messages on the console. -/
  level : Log.Level
  logDirectory : Option String

namespace Settings

/-- The settings without any switch. -/
def standard : Settings := ⟨Config.standard, Log.Level.warning, none⟩

/-- The whole number that a switch is given. -/
def whole (digitLimit : Option Nat) (switch : Switch) (value : String) :
    Except ArgumentError Int :=
  match Text.parseInt? digitLimit value with
  | some number => .ok number
  | none => .error (.notWhole switch value)

/-- The decimal number that a switch is given. -/
def decimal (switch : Switch) (value : String) : Except ArgumentError Number :=
  match Text.parseFloat? value with
  | some number => .ok (.float number)
  | none => .error (.notDecimal switch value)

/-- The level that is given. -/
def levelOf (value : String) : Except ArgumentError Log.Level :=
  match levels.find? (Log.Level.name · == value) with
  | some level => .ok level
  | none => .error (.notLevel value)

/-- The settings after a switch has been given a value. -/
def put (digitLimit : Option Nat) (settings : Settings) (switch : Switch) (value : String) :
    Except ArgumentError Settings := do
  let config := settings.config
  match switch with
  | .help | .version => return settings
  | .compiler => return { settings with config := { config with compiler := some (.line value) } }
  | .grammar => return { settings with config := { config with language := some value } }
  | .results =>
    let results ← whole digitLimit switch value
    return { settings with config := { config with results } }
  | .separator => return { settings with config := { config with separator := value } }
  | .depth =>
    let depth ← whole digitLimit switch value
    return { settings with config := { config with depth } }
  | .repetition =>
    let repetition ← decimal switch value
    return { settings with config := { config with repetition } }
  | .regexRepeat =>
    let regexRepeat ← whole digitLimit switch value
    return { settings with config := { config with regexRepeat } }
  | .seed =>
    let seed ← whole digitLimit switch value
    return { settings with config := { config with seed := some seed } }
  | .timeout =>
    let timeout ← decimal switch value
    return { settings with config := { config with timeout := some timeout } }
  | .maxAttempts =>
    let attempts ← whole digitLimit switch value
    return { settings with config := { config with maxAttempts := some attempts } }
  | .outputDirectory =>
    return { settings with config := { config with outputDirectory := some value } }
  | .logLevel => return { settings with level := ← levelOf value }
  | .logDirectory => return { settings with logDirectory := some value }

end Settings

end GrammarFuzz.CommandLine

import GrammarFuzz.CommandLine.Switch
import GrammarFuzz.Text.Letter

/-!
# Arguments

Arguments are first told apart: switches, plain words, and words that look like switches but
are none.  A switch may be cut short as long as only one spelling starts so, and its value may
follow an equals sign.  A negative number is a plain word, and so is everything after the
marker `--`.  Then the words are read from left to right.  The first plain word that no
switch takes is the grammar file; what is left over is refused at the end.
-/

namespace GrammarFuzz.CommandLine

/-! ## Telling arguments apart -/

/-- An argument. -/
inductive Word where
  | plain (text : String)
  /-- A switch in one of its spellings, with the value attached to it. -/
  | named (spelling : String) (switch : Switch) (attached : Option String)
  /-- It looks like a switch. -/
  | unknown (text : String)
  /-- All arguments after it are plain. -/
  | marker
  deriving DecidableEq, Repr

/-- The part before the first equals sign and the part after it. -/
def splitAtEquals (text : String) : String × Option String :=
  match text.toList.dropWhile (· ≠ '=') with
  | [] => (text, none)
  | _ :: value => (String.ofList (text.toList.takeWhile (· ≠ '=')), some (String.ofList value))

/-- The switches that an argument may mean.  One dash and a letter may be followed by a value at
once; with two dashes the start of a spelling is enough. -/
def candidates (text : String) : List Word :=
  match text.toList with
  | '-' :: '-' :: _ =>
    let (start, attached) := splitAtEquals text
    Switch.spelled.filterMap fun (spelling, switch) =>
      if spelling.startsWith start then some (.named spelling switch attached) else none
  | '-' :: letter :: value =>
    Switch.spelled.filterMap fun (spelling, switch) =>
      if spelling = String.ofList ['-', letter] then
        some (.named spelling switch (some (String.ofList value)))
      else none
  | _ => []

/-- The spelling that an argument stands for. -/
def Word.spelling : Word → String
  | named spelling _ _ => spelling
  | plain text | unknown text => text
  | marker => "--"

/-- Whether a text is a number below zero, without an exponent. -/
def isNegativeNumber (text : String) : Bool :=
  match text.toList with
  | '-' :: rest =>
    let body := if rest.getLast? = some '\n' then rest.dropLast else rest
    match body.dropWhile Text.isDigit with
    | [] => !body.isEmpty
    | '.' :: places => !places.isEmpty && places.all Text.isDigit
    | _ => false
  | _ => false

/-- What an argument is that is spelled like no switch. -/
def classifyInexact (text : String) : Except ArgumentError Word :=
  match candidates text with
  | [word] => .ok word
  | [] => .ok (if isNegativeNumber text || text.toList.contains ' ' then .plain text
      else .unknown text)
  | words => .error (.ambiguous text (words.map Word.spelling))

/-- What an argument is. -/
def classify (text : String) : Except ArgumentError Word :=
  if !text.startsWith "-" || text = "-" then .ok (.plain text)
  else
    match Switch.ofSpelling? text with
    | some switch => .ok (.named text switch none)
    | none =>
      let (start, attached) := splitAtEquals text
      match attached, Switch.ofSpelling? start with
      | some value, some switch => .ok (.named start switch (some value))
      | _, _ => classifyInexact text

/-- What the arguments are. -/
def classifyAll : List String → Except ArgumentError (List Word)
  | [] => .ok []
  | text :: rest =>
    if text = "--" then .ok (.marker :: rest.map .plain)
    else do return (← classify text) :: (← classifyAll rest)

/-! ## Reading -/

/-- What is asked for. -/
inductive Request where
  | help
  | version
  | run (file : String) (settings : Settings)

/-- What a switch without a value asks for. -/
def Request.ofFlag : Switch → Request
  | .version => .version
  | _ => .help

/-- Reads a switch that takes no value.  More letters may follow one dash. -/
def readFlag (spelling : String) (switch : Switch) :
    (attached : Option String) → Except ArgumentError Request
  | none => .ok (.ofFlag switch)
  | some value =>
    let left := value.toList.dropWhile fun letter =>
      (Switch.ofSpelling? (String.ofList ['-', letter])).isSome
    if spelling.startsWith "--" || value.isEmpty then .error (.valueUnexpected switch value)
    else if left.isEmpty then .ok (.ofFlag switch)
    else .error (.valueUnexpected switch (String.ofList left))

/-- Reads words.  The file and what is left over, the last words first, come from the words
before. -/
def readWords (digitLimit : Option Nat) : (settings : Settings) → (file : Option String) →
    (extras : List String) → List Word → Except ArgumentError Request
  | settings, some file, [], [] => .ok (.run file settings)
  | _, some _, extras, [] => .error (.unrecognized extras.reverse)
  | _, none, _, [] => .error .fileMissing
  -- a marker next to the file belongs to the file
  | settings, none, extras, .plain text :: .marker :: rest =>
    readWords digitLimit settings (some text) extras rest
  | settings, none, extras, .plain text :: rest =>
    readWords digitLimit settings (some text) extras rest
  | settings, some file, extras, .plain text :: rest =>
    readWords digitLimit settings (some file) (text :: extras) rest
  | settings, none, extras, .marker :: .plain text :: rest =>
    readWords digitLimit settings (some text) extras rest
  | settings, file, extras, .marker :: rest =>
    readWords digitLimit settings file ("--" :: extras) rest
  | settings, file, extras, .unknown text :: rest =>
    readWords digitLimit settings file (text :: extras) rest
  | settings, file, extras, .named spelling switch attached :: rest =>
    if switch.placeholder?.isNone then readFlag spelling switch attached
    else
      match attached, rest with
      | some value, rest =>
        match settings.put digitLimit switch value with
        | .ok settings => readWords digitLimit settings file extras rest
        | .error error => .error error
      | none, .plain value :: rest =>
        match settings.put digitLimit switch value with
        | .ok settings => readWords digitLimit settings file extras rest
        | .error error => .error error
      | none, _ => .error (.valueMissing switch)

/-- Reads the arguments. -/
def Request.ofArguments (digitLimit : Option Nat) (arguments : List String) :
    Except ArgumentError Request := do
  readWords digitLimit .standard none [] (← classifyAll arguments)

end GrammarFuzz.CommandLine

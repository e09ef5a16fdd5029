import GrammarFuzz.Interpreter
import GrammarFuzz.Json.Basic
import GrammarFuzz.Text.Point

/-!
# Reading a document

A reader for JSON texts that also accepts `NaN`, `Infinity` and `-Infinity`.  A fault carries
the position, counted in characters, at which the reader gave up.

There may be a limit for the digits of an integer.  An escape can spell a surrogate that is no half
of a pair.  Texts are made of characters, so there is none for it; the reader stops there, and that
is not the text's fault.
-/

namespace GrammarFuzz.Json

/-- Why a text is no document. -/
inductive Fault where
  | expectedValue
  | expectedName
  | expectedColon
  | expectedComma
  | extraData
  | unterminatedString
  | controlCharacter
  | unknownEscape
  | unknownUnicodeEscape
  | byteOrderMark
  | tooManyDigits (limit count : Nat)
  /-- A surrogate that is no half of a pair. -/
  | loneSurrogate
  deriving DecidableEq, Repr

/-- The wording of a fault. -/
def Fault.message : Fault → String
  | .expectedValue => "Expecting value"
  | .expectedName => "Expecting property name enclosed in double quotes"
  | .expectedColon => "Expecting ':' delimiter"
  | .expectedComma => "Expecting ',' delimiter"
  | .extraData => "Extra data"
  | .unterminatedString => "Unterminated string starting at"
  | .controlCharacter => "Invalid control character at"
  | .unknownEscape => "Invalid \\escape"
  | .unknownUnicodeEscape => "Invalid \\uXXXX escape"
  | .byteOrderMark => "Unexpected UTF-8 BOM (decode using utf-8-sig)"
  | .tooManyDigits limit count => Interpreter.digitsMessage limit count
  | .loneSurrogate => "Lone surrogate"

/-- A fault and its place. -/
structure ParseError where
  fault : Fault
  position : Nat
  deriving DecidableEq, Repr

/-- The line and the column of a position, both counted from one. -/
def lineAndColumn (text : List Char) (position : Nat) : Nat × Nat :=
  let before := text.take position
  let lastLine := before.reverse.takeWhile (· ≠ '\n')
  (before.count '\n' + 1, lastLine.length + 1)

/-- The message of an error in a text.  The place of an integer is not told. -/
def ParseError.message (text : List Char) (error : ParseError) : String :=
  match error.fault with
  | .tooManyDigits _ _ => error.fault.message
  | _ =>
    let (line, column) := lineAndColumn text error.position
    error.fault.message ++ ": line " ++ toString line ++ " column " ++ toString column ++
      " (char " ++ toString error.position ++ ")"

/-- The rest of a text and the position where it starts. -/
structure Cursor where
  rest : List Char
  position : Nat

/-- Moves past `count` characters. -/
def Cursor.advance (cursor : Cursor) (count : Nat) : Cursor :=
  ⟨cursor.rest.drop count, cursor.position + count⟩

/-- White space of a document. -/
def isSpace (c : Char) : Bool :=
  c == ' ' || c == '\t' || c == '\n' || c == '\r'

/-- Moves past white space. -/
def Cursor.skipSpace (cursor : Cursor) : Cursor :=
  cursor.advance (cursor.rest.takeWhile isSpace).length

/-- The value of a hexadecimal digit. -/
def hexValue? (c : Char) : Option Nat :=
  if '0' ≤ c ∧ c ≤ '9' then some (c.toNat - 0x30)
  else if 'a' ≤ c ∧ c ≤ 'f' then some (c.toNat - 0x57)
  else if 'A' ≤ c ∧ c ≤ 'F' then some (c.toNat - 0x37)
  else none

/-- The value of four hexadecimal digits. -/
def hexValue4? (a b c d : Char) : Option Nat := do
  let a ← hexValue? a
  let b ← hexValue? b
  let c ← hexValue? c
  let d ← hexValue? d
  return ((a * 16 + b) * 16 + c) * 16 + d

/-- The character that an escape of one letter stands for. -/
def simpleEscape? (c : Char) : Option Char :=
  match c with
  | '"' => some '"'
  | '\\' => some '\\'
  | '/' => some '/'
  | 'b' => some '\x08'
  | 'f' => some '\x0c'
  | 'n' => some '\n'
  | 'r' => some '\r'
  | 't' => some '\t'
  | _ => none

/-- Whether a unit is the first half of a surrogate pair. -/
def isHighSurrogate (unit : Nat) : Bool := 0xd800 ≤ unit && unit < 0xdc00

/-- Whether a unit is the second half of a surrogate pair. -/
def isLowSurrogate (unit : Nat) : Bool := 0xdc00 ≤ unit && unit < 0xe000

/-- The value of a unicode escape at the front of a text, and whether its digits are wrong.  An
escape at the very end of a text is not looked at. -/
inductive UnitEscape where
  | absent
  | malformed
  | unit (value : Nat)

/-- Looks for a unicode escape at the front of a text. -/
def UnitEscape.ahead : List Char → UnitEscape
  | '\\' :: 'u' :: a :: b :: c :: d :: _ :: _ =>
    match hexValue4? a b c d with
    | some value => .unit value
    | none => .malformed
  | _ => .absent

/-- Reads a string after its opening quote at `start`.  The characters read so far are in
`done`, last one first. -/
def readString (start : Nat) (done : List Char) (position : Nat) :
    List Char → Except ParseError (String × Cursor)
  | [] => .error ⟨.unterminatedString, start⟩
  | '"' :: rest => .ok (String.ofList done.reverse, ⟨rest, position + 1⟩)
  | ['\\'] => .error ⟨.unterminatedString, start⟩
  | '\\' :: 'u' :: a :: b :: c :: d :: next :: rest =>
    match hexValue4? a b c d with
    | none => .error ⟨.unknownUnicodeEscape, position + 1⟩
    | some unit =>
      let second := if isHighSurrogate unit then UnitEscape.ahead (next :: rest) else .absent
      match second with
      | .malformed => .error ⟨.unknownUnicodeEscape, position + 7⟩
      | .unit low =>
        -- two halves of a pair are one character
        if isLowSurrogate low then
          let point := 0x10000 + (unit - 0xd800) * 0x400 + (low - 0xdc00)
          readString start (Char.ofNat point :: done) (position + 12) ((next :: rest).drop 6)
        else .error ⟨.loneSurrogate, position⟩
      | .absent =>
        match Text.ofPoint? unit with
        | some value => readString start (value :: done) (position + 6) (next :: rest)
        | none => .error ⟨.loneSurrogate, position⟩
  | '\\' :: 'u' :: _ => .error ⟨.unknownUnicodeEscape, position + 1⟩
  | '\\' :: c :: rest =>
    match simpleEscape? c with
    | some value => readString start (value :: done) (position + 2) rest
    | none => .error ⟨.unknownEscape, position⟩
  | c :: rest =>
    if c.toNat < 0x20 then .error ⟨.controlCharacter, position⟩
    else readString start (c :: done) (position + 1) rest
  termination_by rest => rest.length
  decreasing_by all_goals simp only [List.length_drop, List.length_cons]; omega

/-- The number that decimal digits denote, after the number `value`. -/
def digitsValue (value : Nat) (digits : List Char) : Nat :=
  digits.foldl (fun value c => value * 10 + (c.toNat - 0x30)) value

/-- Splits off the digits at the front. -/
def spanDigits (rest : List Char) : List Char × List Char :=
  (rest.takeWhile Char.isDigit, rest.dropWhile Char.isDigit)

/-- An exponent at the front of a text: its value and its length.  Without digits there is
none. -/
def readExponent? (rest : List Char) : Option (Int × Nat) :=
  match rest with
  | c :: rest =>
    if c = 'e' ∨ c = 'E' then
      let (negative, signLength, rest) :=
        match rest with
        | '-' :: rest => (true, 1, rest)
        | '+' :: rest => (false, 1, rest)
        | rest => (false, 0, rest)
      let digits := (spanDigits rest).1
      if digits.isEmpty then none
      else
        let size := digitsValue 0 digits
        some (if negative then -(size : Int) else size, 1 + signLength + digits.length)
    else none
  | [] => none

/-- Splits off a minus sign: whether there is one, its length and what follows. -/
def spanMinus : List Char → Bool × Nat × List Char
  | '-' :: rest => (true, 1, rest)
  | rest => (false, 0, rest)

/-- The digits of a whole part at the front of a text; a zero is followed by no others. -/
def wholeDigits : List Char → List Char
  | '0' :: _ => ['0']
  | rest => (spanDigits rest).1

/-- The digits after a point at the front of a text. -/
def fractionDigits : List Char → List Char
  | '.' :: rest => (spanDigits rest).1
  | _ => []

/-- The integer with some digits, if they are not too many. -/
def readInt (digitLimit : Option Nat) (position : Nat) (negative : Bool) (digits : List Char) :
    Except ParseError Number :=
  match Interpreter.digitsOver? digitLimit digits.length with
  | some limit => .error ⟨.tooManyDigits limit digits.length, position⟩
  | none =>
    let size := digitsValue 0 digits
    .ok (.int (if negative then -(size : Int) else size))

/-- Reads a number: an integer, or a double if there is a fraction or an exponent. -/
def readNumber (digitLimit : Option Nat) (cursor : Cursor) : Except ParseError (Json × Cursor) :=
  let (negative, signLength, rest) := spanMinus cursor.rest
  let whole := wholeDigits rest
  if whole.isEmpty then .error ⟨.expectedValue, cursor.position⟩
  else
    let afterWhole := rest.drop whole.length
    let fraction := fractionDigits afterWhole
    let fractionLength := if fraction.isEmpty then 0 else fraction.length + 1
    let exponent := readExponent? (afterWhole.drop fractionLength)
    let exponentLength := (exponent.map (·.2)).getD 0
    let size := signLength + whole.length + fractionLength + exponentLength
    let value : Except ParseError Number :=
      if fraction.isEmpty && exponent.isNone then
        readInt digitLimit cursor.position negative whole
      else
        .ok (.float (Decimal.nearestDecimal negative (digitsValue 0 (whole ++ fraction))
          ((exponent.map (·.1)).getD 0 - fraction.length)))
    value.map fun value => (.number value, cursor.advance size)

/-- Whether a text starts with a word. -/
def startsWith (word : String) (rest : List Char) : Bool :=
  word.toList.isPrefixOf rest

/-- Reads a word that stands for a value, or else a number. -/
def readWord (digitLimit : Option Nat) (cursor : Cursor) : Except ParseError (Json × Cursor) :=
  if startsWith "null" cursor.rest then .ok (.null, cursor.advance 4)
  else if startsWith "true" cursor.rest then .ok (.bool true, cursor.advance 4)
  else if startsWith "false" cursor.rest then .ok (.bool false, cursor.advance 5)
  else if startsWith "NaN" cursor.rest then
    .ok (.number (.float (Float.ofBits 0x7ff8000000000000)), cursor.advance 3)
  else if startsWith "Infinity" cursor.rest then
    .ok (.number (.float (Float.ofBits 0x7ff0000000000000)), cursor.advance 8)
  else if startsWith "-Infinity" cursor.rest then
    .ok (.number (.float (Float.ofBits 0xfff0000000000000)), cursor.advance 9)
  else readNumber digitLimit cursor

mutual

/-- Reads one value.  `depth` bounds the nested calls; twice the length of the text is
enough, since of two nested calls one moves on. -/
def readValue (digitLimit : Option Nat) :
    (depth : Nat) → Cursor → Except ParseError (Json × Cursor)
  | 0, cursor => .error ⟨.expectedValue, cursor.position⟩
  | depth + 1, cursor =>
    match cursor.rest with
    | '"' :: rest => do
      let (value, cursor) ← readString cursor.position [] (cursor.position + 1) rest
      return (.text value, cursor)
    | '[' :: _ =>
      let inner := (cursor.advance 1).skipSpace
      match inner.rest with
      | ']' :: _ => .ok (.list [], inner.advance 1)
      | _ => readItems digitLimit depth [] inner
    | '\x7b' :: _ =>
      let inner := (cursor.advance 1).skipSpace
      match inner.rest with
      | '\x7d' :: _ => .ok (.object [], inner.advance 1)
      | _ => readMembers digitLimit depth [] inner
    | _ => readWord digitLimit cursor

/-- Reads the items of a list from the next one on; `done` holds the ones before, last one
first. -/
def readItems (digitLimit : Option Nat) :
    (depth : Nat) → List Json → Cursor → Except ParseError (Json × Cursor)
  | 0, _, cursor => .error ⟨.expectedValue, cursor.position⟩
  | depth + 1, done, cursor => do
    let (item, cursor) ← readValue digitLimit depth cursor
    let cursor := cursor.skipSpace
    match cursor.rest with
    | ']' :: _ => .ok (.list (item :: done).reverse, cursor.advance 1)
    | ',' :: _ => readItems digitLimit depth (item :: done) (cursor.advance 1).skipSpace
    | _ => .error ⟨.expectedComma, cursor.position⟩

/-- Reads the members of an object from the next one on; `done` holds the ones before, last
one first. -/
def readMembers (digitLimit : Option Nat) :
    (depth : Nat) → List (String × Json) → Cursor → Except ParseError (Json × Cursor)
  | 0, _, cursor => .error ⟨.expectedName, cursor.position⟩
  | depth + 1, done, cursor => do
    match cursor.rest with
    | '"' :: rest =>
      let (name, cursor) ← readString cursor.position [] (cursor.position + 1) rest
      let cursor := cursor.skipSpace
      match cursor.rest with
      | ':' :: _ =>
        let (value, cursor) ← readValue digitLimit depth (cursor.advance 1).skipSpace
        let cursor := cursor.skipSpace
        match cursor.rest with
        | '\x7d' :: _ => .ok (.object (merge ((name, value) :: done).reverse), cursor.advance 1)
        | ',' :: _ =>
          readMembers digitLimit depth ((name, value) :: done) (cursor.advance 1).skipSpace
        | _ => .error ⟨.expectedComma, cursor.position⟩
      | _ => .error ⟨.expectedColon, cursor.position⟩
    | _ => .error ⟨.expectedName, cursor.position⟩

end

/-- Reads a whole text as one value. -/
def parse (digitLimit : Option Nat) (text : List Char) : Except ParseError Json := do
  match text with
  | '\ufeff' :: _ => .error ⟨.byteOrderMark, 0⟩
  | _ =>
    let (value, cursor) ← readValue digitLimit (2 * text.length + 2) (Cursor.skipSpace ⟨text, 0⟩)
    let cursor := cursor.skipSpace
    if cursor.rest.isEmpty then .ok value else .error ⟨.extraData, cursor.position⟩

end GrammarFuzz.Json

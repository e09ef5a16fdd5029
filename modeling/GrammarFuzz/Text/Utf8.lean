/-!
# UTF-8

Decoding byte by byte.  `readCharacter` reads one character or finds the
longest run of bytes that begins no character; strict decoding reports the
first such run, lenient decoding puts one replacement character in its place.
-/

namespace GrammarFuzz.Text

/-- Why bytes do not decode. -/
inductive DecodeFault where
  | startByte
  | continuationByte
  | endOfData
  | truncatedData
  | outOfRange
  /-- A surrogate that is no half of a pair; only the reader of documents looks for one. -/
  | loneSurrogate
  deriving DecidableEq, Repr

/-- The wording of a decoding fault. -/
def DecodeFault.message : DecodeFault → String
  | .startByte => "invalid start byte"
  | .continuationByte => "invalid continuation byte"
  | .endOfData => "unexpected end of data"
  | .truncatedData => "truncated data"
  | .outOfRange => "code point not in range(0x110000)"
  | .loneSurrogate => "lone surrogate"

/-- Where and why a byte sequence stops being text in an encoding: `length` bytes from
`position` on are at fault, and `first` is the first of them. -/
structure DecodeError where
  encoding : String
  first : UInt8
  position : Nat
  length : Nat
  fault : DecodeFault
  deriving DecidableEq, Repr

/-- A byte as two hexadecimal digits. -/
def hexByte (byte : UInt8) : String :=
  let digit (value : Nat) : Char :=
    if value < 10 then Char.ofNat (0x30 + value) else Char.ofNat (0x57 + value)
  String.ofList [digit (byte.toNat / 16), digit (byte.toNat % 16)]

/-- The message of a decoding error: one byte is shown, of several only their positions. -/
def DecodeError.message (error : DecodeError) : String :=
  let place :=
    if error.length = 1 then
      "byte 0x" ++ hexByte error.first ++ " in position " ++ toString error.position
    else
      "bytes in position " ++ toString error.position ++ "-" ++
        toString (error.position + error.length - 1)
  "'" ++ error.encoding ++ "' codec can't decode " ++ place ++ ": " ++ error.fault.message

/-- The outcome of reading at one position; `extra` counts the bytes after the first one. -/
inductive Reading where
  | character (value : Char) (extra : Nat)
  | malformed (fault : DecodeFault) (extra : Nat)

/-- Whether a byte continues a character. -/
def isContinuation (byte : UInt8) : Bool :=
  0x80 ≤ byte && byte < 0xc0

/-- Whether a byte may follow the lead byte: no overlong form, no surrogate, nothing past
U+10FFFF. -/
def mayFollow (lead byte : UInt8) : Bool :=
  if lead = 0xe0 then 0xa0 ≤ byte && byte < 0xc0
  else if lead = 0xed then 0x80 ≤ byte && byte < 0xa0
  else if lead = 0xf0 then 0x90 ≤ byte && byte < 0xc0
  else if lead = 0xf4 then 0x80 ≤ byte && byte < 0x90
  else isContinuation byte

/-- The six payload bits of a continuation byte. -/
def payload (byte : UInt8) : Nat := byte.toNat % 64

/-- Reads the character that starts with `lead`. -/
def readCharacter (lead : UInt8) (rest : List UInt8) : Reading :=
  if lead < 0x80 then .character (Char.ofNat lead.toNat) 0
  else if lead < 0xc2 || 0xf4 < lead then .malformed .startByte 0
  else
    match rest with
    | [] => .malformed .endOfData 0
    | second :: rest =>
      if !mayFollow lead second then .malformed .continuationByte 0
      else if lead < 0xe0 then
        .character (Char.ofNat (lead.toNat % 32 * 64 + payload second)) 1
      else
        match rest with
        | [] => .malformed .endOfData 1
        | third :: rest =>
          if !isContinuation third then .malformed .continuationByte 1
          else if lead < 0xf0 then
            .character (Char.ofNat
              ((lead.toNat % 16 * 64 + payload second) * 64 + payload third)) 2
          else
            match rest with
            | [] => .malformed .endOfData 2
            | fourth :: _ =>
              if !isContinuation fourth then .malformed .continuationByte 2
              else
                .character (Char.ofNat
                  (((lead.toNat % 8 * 64 + payload second) * 64 + payload third) * 64
                    + payload fourth)) 3

/-- Strict decoding; `position` is the place of the first byte and `decoded` holds the
characters before it, last one first. -/
def decodeUtf8From (position : Nat) (decoded : List Char) :
    List UInt8 → Except DecodeError (List Char)
  | [] => .ok decoded.reverse
  | lead :: rest =>
    match readCharacter lead rest with
    | .character value extra =>
      decodeUtf8From (position + extra + 1) (value :: decoded) (rest.drop extra)
    | .malformed fault extra => .error ⟨"utf-8", lead, position, extra + 1, fault⟩
  termination_by bytes => bytes.length
  decreasing_by simp only [List.length_drop, List.length_cons]; omega

/-- Strict decoding from the first byte. -/
def decodeUtf8 (bytes : List UInt8) : Except DecodeError (List Char) :=
  decodeUtf8From 0 [] bytes

/-- Lenient decoding after the characters `decoded`, which are reversed. -/
def decodeUtf8LenientFrom (decoded : List Char) : List UInt8 → List Char
  | [] => decoded.reverse
  | lead :: rest =>
    match readCharacter lead rest with
    | .character value extra => decodeUtf8LenientFrom (value :: decoded) (rest.drop extra)
    | .malformed _ extra => decodeUtf8LenientFrom ('\ufffd' :: decoded) (rest.drop extra)
  termination_by bytes => bytes.length
  decreasing_by all_goals simp only [List.length_drop, List.length_cons]; omega

/-- Lenient decoding: a replacement character for every run of bytes that begins no
character. -/
def decodeUtf8Lenient (bytes : List UInt8) : List Char :=
  decodeUtf8LenientFrom [] bytes

/-- The UTF-8 form of a text. -/
def encodeUtf8 (text : String) : List UInt8 :=
  text.toUTF8.data.toList

/-- Reads line ends of all three kinds as line feeds, after the characters `done`, which are
reversed. -/
def unifyNewlinesFrom (done : List Char) : List Char → List Char
  | [] => done.reverse
  | '\r' :: '\n' :: rest => unifyNewlinesFrom ('\n' :: done) rest
  | '\r' :: rest => unifyNewlinesFrom ('\n' :: done) rest
  | c :: rest => unifyNewlinesFrom (c :: done) rest

/-- Reads line ends of all three kinds as line feeds. -/
def unifyNewlines (characters : List Char) : List Char :=
  unifyNewlinesFrom [] characters

end GrammarFuzz.Text

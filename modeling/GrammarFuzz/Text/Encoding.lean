import GrammarFuzz.Text.Point
import GrammarFuzz.Text.Utf8

/-!
# Encodings of a document

A document may come in UTF-8, UTF-16 or UTF-32.  A byte order mark decides; without one the
places of the zero bytes among the first four do, since a document starts with
two ASCII characters.

The bytes may spell a surrogate that is no half of a pair, which is allowed in a document.  There is
no character for it, and decoding stops there with a fault of its own.
-/

namespace GrammarFuzz.Text

/-- The encodings of a document; the wide ones have a byte order. -/
inductive Encoding where
  | utf8
  | utf16 (bigEndian : Bool)
  | utf32 (bigEndian : Bool)
  deriving DecidableEq, Repr

/-- The encoding of a document and the number of bytes of its byte order mark. -/
def detectEncoding (bytes : List UInt8) : Encoding × Nat :=
  match bytes with
  | 0x00 :: 0x00 :: 0xfe :: 0xff :: _ => (.utf32 true, 4)
  | 0xff :: 0xfe :: 0x00 :: 0x00 :: _ => (.utf32 false, 4)
  | 0xfe :: 0xff :: _ => (.utf16 true, 2)
  | 0xff :: 0xfe :: _ => (.utf16 false, 2)
  | 0xef :: 0xbb :: 0xbf :: _ => (.utf8, 3)
  | b0 :: b1 :: b2 :: b3 :: _ =>
    if b0 = 0 then (if b1 = 0 then .utf32 true else .utf16 true, 0)
    else if b1 = 0 then (if b2 = 0 ∧ b3 = 0 then .utf32 false else .utf16 false, 0)
    else (.utf8, 0)
  | [b0, b1] =>
    if b0 = 0 then (.utf16 true, 0)
    else if b1 = 0 then (.utf16 false, 0)
    else (.utf8, 0)
  | _ => (.utf8, 0)

/-- A 16-bit unit from two bytes. -/
def unit16 (bigEndian : Bool) (b0 b1 : UInt8) : Nat :=
  if bigEndian then b0.toNat * 256 + b1.toNat else b1.toNat * 256 + b0.toNat

/-- The scalar value of a surrogate pair. -/
def pairValue (high low : Nat) : Nat :=
  0x10000 + (high - 0xd800) * 0x400 + (low - 0xdc00)

/-- Whether bytes start with a surrogate as UTF-8 would spell it. -/
def startsWithSurrogate : List UInt8 → Bool
  | 0xed :: second :: third :: _ => 0xa0 ≤ second && isContinuation second && isContinuation third
  | _ => false

/-- Decodes a document in UTF-8. -/
def decodeUtf8Document (bytes : List UInt8) : Except DecodeError (List Char) :=
  (decodeUtf8 bytes).mapError fun error =>
    if startsWithSurrogate (bytes.drop error.position) then { error with fault := .loneSurrogate }
    else error

/-- Decodes UTF-16 from `position` on. -/
def decodeUtf16From (bigEndian : Bool) (position : Nat) :
    List UInt8 → Except DecodeError (List Char)
  | [] => .ok []
  | [b0] =>
    .error ⟨if bigEndian then "utf-16-be" else "utf-16-le", b0, position, 1, .truncatedData⟩
  | b0 :: b1 :: rest =>
    let unit := unit16 bigEndian b0 b1
    match ofPoint? unit with
    | some c => (decodeUtf16From bigEndian (position + 2) rest).map (c :: ·)
    | none =>
      let lone : DecodeError :=
        ⟨if bigEndian then "utf-16-be" else "utf-16-le", b0, position, 2, .loneSurrogate⟩
      match rest with
      | b2 :: b3 :: rest =>
        let next := unit16 bigEndian b2 b3
        if unit < 0xdc00 ∧ 0xdc00 ≤ next ∧ next < 0xe000 then
          (decodeUtf16From bigEndian (position + 4) rest).map
            (Char.ofNat (pairValue unit next) :: ·)
        else .error lone
      | _ => .error lone

/-- Decodes UTF-32 from `position` on. -/
def decodeUtf32From (bigEndian : Bool) (position : Nat) :
    List UInt8 → Except DecodeError (List Char)
  | [] => .ok []
  | b0 :: b1 :: b2 :: b3 :: rest =>
    let point :=
      if bigEndian then unit16 true b0 b1 * 0x10000 + unit16 true b2 b3
      else unit16 false b2 b3 * 0x10000 + unit16 false b0 b1
    match ofPoint? point with
    | some c => (decodeUtf32From bigEndian (position + 4) rest).map (c :: ·)
    | none =>
      .error ⟨if bigEndian then "utf-32-be" else "utf-32-le", b0, position, 4,
        if point < 0x110000 then .loneSurrogate else .outOfRange⟩
  | b0 :: rest =>
    .error ⟨if bigEndian then "utf-32-be" else "utf-32-le", b0, position, rest.length + 1,
      .truncatedData⟩

/-- Decodes a document in the encoding that its first bytes show.  Positions count from the
first byte, except after the mark of UTF-8. -/
def decodeDocument (bytes : List UInt8) : Except DecodeError (List Char) :=
  match detectEncoding bytes with
  | (.utf8, mark) => decodeUtf8Document (bytes.drop mark)
  | (.utf16 bigEndian, mark) => decodeUtf16From bigEndian mark (bytes.drop mark)
  | (.utf32 bigEndian, mark) => decodeUtf32From bigEndian mark (bytes.drop mark)

end GrammarFuzz.Text

import GrammarFuzz.Proofs.Json.Numbers
import GrammarFuzz.Proofs.Json.Written
import GrammarFuzz.Proofs.Utf8

/-!
# Documents are ASCII

Whatever characters a value is made of, it is written in ASCII (`isAscii_written`): the rest stands
as escapes.  In UTF-8 such a document has one byte for each character (`encodeUtf8_of_isAscii`).
Decoding its bytes gives the document back, as for every text, and reading the document gives the
value (`encodes_indented`).
-/

namespace GrammarFuzz

namespace Text

/-- All characters are ASCII ones. -/
def IsAscii (characters : List Char) : Prop := ∀ c ∈ characters, c.toNat < 0x80

theorem isAscii_append {first second : List Char} (hfirst : IsAscii first)
    (hsecond : IsAscii second) : IsAscii (first ++ second) :=
  List.forall_mem_append.mpr ⟨hfirst, hsecond⟩

theorem isAscii_cons {c : Char} {rest : List Char} (hc : c.toNat < 0x80) (hrest : IsAscii rest) :
    IsAscii (c :: rest) :=
  List.forall_mem_cons.mpr ⟨hc, hrest⟩

theorem isAscii_replicate {c : Char} (hc : c.toNat < 0x80) (count : Nat) :
    IsAscii (List.replicate count c) := by
  intro other hother
  rwa [List.eq_of_mem_replicate hother]

/-- For words of a document: their characters are looked through. -/
theorem isAscii_of_all {characters : List Char}
    (hall : characters.all (·.toNat < 0x80) = true) : IsAscii characters :=
  fun c hc => of_decide_eq_true (List.all_eq_true.mp hall c hc)

/-! ## Bytes -/

section Bytes

variable {characters : List Char} (hascii : IsAscii characters)

include hascii

/-- A text in ASCII has one byte for each character. -/
theorem encodeUtf8_of_isAscii :
    encodeUtf8 (String.ofList characters) = characters.map fun c => UInt8.ofNat c.toNat := by
  have hbyte : ∀ c ∈ characters, String.utf8EncodeChar c = [UInt8.ofNat c.toNat] := by
    intro c hc
    have hsize : c.utf8Size = 1 := by
      rw [Char.utf8Size_eq_one_iff, UInt32.le_iff_toNat_le]
      exact Nat.le_of_lt_succ (hascii c hc)
    rw [String.utf8EncodeChar_eq_singleton hsize]
    rfl
  rw [encodeUtf8_ofList, List.flatMap_congr hbyte, ← List.map_eq_flatMap]

theorem lt_of_mem_encodeUtf8 :
    ∀ byte ∈ encodeUtf8 (String.ofList characters), byte < 0x80 := by
  intro byte hbyte
  rw [encodeUtf8_of_isAscii hascii] at hbyte
  obtain ⟨c, hc, rfl⟩ := List.mem_map.mp hbyte
  have hlt := hascii c hc
  rw [UInt8.lt_iff_toNat_lt, UInt8.toNat_ofNat']
  exact Nat.lt_of_le_of_lt (Nat.mod_le ..) hlt

end Bytes

theorem hexDigit_lt : ∀ value < 16, (hexDigit value).toNat < 0x80 := by decide

theorem isAscii_hexDigits (width value : Nat) : IsAscii (hexDigits width value) := by
  induction width generalizing value with
  | zero => exact nofun
  | succ width ih =>
      exact isAscii_append (ih _)
        (isAscii_cons (hexDigit_lt _ (Nat.mod_lt _ (by omega))) nofun)

end Text

namespace Json

open Text (IsAscii isAscii_append isAscii_cons isAscii_of_all isAscii_replicate)

/-! ## Documents -/

theorem isAscii_unitEscape (unit : Nat) : IsAscii (unitEscape unit) :=
  isAscii_cons (by decide) (isAscii_cons (by decide) (Text.isAscii_hexDigits 4 unit))

theorem isAscii_escapeCharacter (c : Char) : IsAscii (escapeCharacter c) := by
  unfold escapeCharacter
  split_ifs with _ _ _ _ _ _ _ hshown
  -- a quote, a backslash and the escapes of one letter
  iterate 7 · exact isAscii_of_all rfl
  · exact isAscii_cons (by omega) nofun
  · exact isAscii_unitEscape _
  · exact isAscii_append (isAscii_unitEscape _) (isAscii_unitEscape _)

theorem isAscii_writtenText (text : String) : IsAscii (writtenText text) := by
  refine isAscii_append (isAscii_cons (by decide) ?_) (isAscii_of_all rfl)
  intro c hc
  obtain ⟨other, -, hmem⟩ := List.mem_flatMap.mp hc
  exact isAscii_escapeCharacter other c hmem

theorem isAscii_member (name : String) {characters : List Char} (hvalue : IsAscii characters) :
    IsAscii (writtenText name ++ ':' :: ' ' :: characters) :=
  isAscii_append (isAscii_writtenText name)
    (isAscii_cons (by decide) (isAscii_cons (by decide) hvalue))

theorem isAscii_lineBreak (level : Option Nat) : IsAscii (lineBreak level) := by
  cases level with
  | none => exact nofun
  | some level => exact isAscii_cons (by decide) (isAscii_replicate (by decide) _)

theorem isAscii_separator (level : Option Nat) : IsAscii (separator level) := by
  cases level with
  | none => exact isAscii_of_all rfl
  | some level => exact isAscii_cons (by decide) (isAscii_lineBreak _)

theorem isAscii_writtenNumber (value : Int) : IsAscii (writtenNumber (.int value)).toList := by
  have hdigits : IsAscii (Nat.toDigits 10 value.natAbs) := by
    intro c hc
    have hdigit := isDigit_toDigits hc
    simp only [Char.isDigit, Bool.and_eq_true, decide_eq_true_eq, UInt32.le_iff_toNat_le] at hdigit
    exact Nat.lt_of_le_of_lt hdigit.2 (by decide)
  rw [toList_writtenNumber]
  refine isAscii_append ?_ hdigits
  split
  · exact isAscii_of_all rfl
  · exact nofun

mutual

/-- **A plain value is written in ASCII**, on one line or on many. -/
theorem isAscii_written (level : Option Nat) :
    {value : Json} → value.Plain → IsAscii (written level value)
  | null, _ => isAscii_of_all rfl
  | bool true, _ => isAscii_of_all rfl
  | bool false, _ => isAscii_of_all rfl
  | number (.int value), _ => isAscii_writtenNumber value
  | text value, _ => isAscii_writtenText value
  | list [], _ => isAscii_of_all rfl
  | list (item :: items), hplain => by
      have hitems := isAscii_writtenItems (level.map (· + 1)) hplain
      have hlist := written_list level item items []
      rw [List.append_nil] at hlist
      rw [hlist]
      exact isAscii_cons (by decide) (isAscii_append (isAscii_lineBreak _)
        (isAscii_append hitems (isAscii_append (isAscii_lineBreak _) (isAscii_of_all rfl))))
  | object [], _ => isAscii_of_all rfl
  | object (member :: members), hplain => by
      have hmembers := isAscii_writtenMembers (level.map (· + 1)) hplain.2
      have hobject := written_object level member members []
      rw [List.append_nil] at hobject
      rw [hobject]
      exact isAscii_cons (by decide) (isAscii_append (isAscii_lineBreak _)
        (isAscii_append hmembers (isAscii_append (isAscii_lineBreak _) (isAscii_of_all rfl))))

theorem isAscii_writtenItems (level : Option Nat) :
    {items : List Json} → PlainItems items → IsAscii (writtenItems level items)
  | [], _ => isAscii_of_all rfl
  | [item], hplain => by
      rw [writtenItems]
      exact isAscii_written level hplain.1
  | item :: next :: rest, hplain => by
      rw [writtenItems]
      · exact isAscii_append (isAscii_append (isAscii_written level hplain.1)
          (isAscii_separator level)) (isAscii_writtenItems level hplain.2)
      · exact nofun

theorem isAscii_writtenMembers (level : Option Nat) :
    {members : List (String × Json)} → PlainMembers members →
      IsAscii (writtenMembers level members)
  | [], _ => isAscii_of_all rfl
  | [(name, value)], hplain => by
      rw [writtenMembers]
      exact isAscii_member name (isAscii_written level hplain.1)
  | (name, value) :: next :: rest, hplain => by
      rw [writtenMembers]
      · exact isAscii_append (isAscii_append (isAscii_member name (isAscii_written level hplain.1))
          (isAscii_separator level)) (isAscii_writtenMembers level hplain.2)
      · exact nofun

end

/-- The bytes are ASCII, and they are the document of the value. -/
structure Encodes (content : List UInt8) (value : Json) : Prop where
  ascii : ∀ byte ∈ content, byte < 0x80
  read : ∃ document, Text.decodeUtf8 content = .ok document ∧ parse none document = .ok value

/-- **A file of the document of a plain value gives the value back.** -/
theorem encodes_indented {value : Json} (hplain : value.Plain) :
    Encodes (Text.encodeUtf8 value.indented) value where
  ascii := Text.lt_of_mem_encodeUtf8 (isAscii_written _ hplain)
  read := ⟨written (some 0) value, Text.decodeUtf8_eq_ok_iff.mpr rfl, parse_written hplain _⟩

end Json

end GrammarFuzz

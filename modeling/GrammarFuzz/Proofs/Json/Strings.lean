import GrammarFuzz.Json.Parser
import GrammarFuzz.Json.Printer
import Mathlib.Tactic.SplitIfs

/-!
# Texts in a document

A text is written with an escape for everything that ASCII cannot show, and the reader gives the
text back (`readString_written`), whatever characters it is made of.

A character beyond the first plane is written as two units, and the reader decides at the first of
them whether a second one belongs to it.  It looks further ahead than the two escapes, so both
lemmas about escapes ask for a character that comes after them.  The closing quote is always there.
-/

namespace GrammarFuzz.Json

/-! ## Units -/

theorem hexValue?_hexDigit : ∀ value < 16, hexValue? (Text.hexDigit value) = some value := by
  decide

theorem unitEscape_eq (unit : Nat) :
    unitEscape unit =
      ['\\', 'u', Text.hexDigit (unit / 16 / 16 / 16 % 16), Text.hexDigit (unit / 16 / 16 % 16),
        Text.hexDigit (unit / 16 % 16), Text.hexDigit (unit % 16)] := rfl

theorem hexValue4?_hexDigit {unit : Nat} (hunit : unit < 0x10000) :
    hexValue4? (Text.hexDigit (unit / 16 / 16 / 16 % 16)) (Text.hexDigit (unit / 16 / 16 % 16))
      (Text.hexDigit (unit / 16 % 16)) (Text.hexDigit (unit % 16)) = some unit := by
  have hdigit : ∀ value, hexValue? (Text.hexDigit (value % 16)) = some (value % 16) :=
    fun value => hexValue?_hexDigit _ (Nat.mod_lt _ (by omega))
  simp only [hexValue4?, hdigit, Option.bind_eq_bind, Option.bind_some, Option.pure_def,
    Option.some.injEq]
  omega

variable {start position : Nat} {done rest : List Char} {next : Char}

/-- A unit that is no half of a pair stands for a character. -/
theorem readString_unit {unit : Nat} {c : Char} (hunit : unit < 0x10000)
    (hsingle : isHighSurrogate unit = false) (hpoint : Text.ofPoint? unit = some c) :
    readString start done position (unitEscape unit ++ next :: rest) =
      readString start (c :: done) (position + 6) (next :: rest) := by
  rw [unitEscape_eq]
  simp only [List.cons_append, List.nil_append]
  rw [readString, hexValue4?_hexDigit hunit]
  simp [hsingle, hpoint]

/-- Two halves of a pair stand for one character. -/
theorem readString_pair {high low : Nat} (hhigh : isHighSurrogate high = true)
    (hlow : isLowSurrogate low = true) :
    readString start done position (unitEscape high ++ (unitEscape low ++ next :: rest)) =
      readString start (Char.ofNat (0x10000 + (high - 0xd800) * 0x400 + (low - 0xdc00)) :: done)
        (position + 12) (next :: rest) := by
  have hhigh' : high < 0x10000 := by
    simp only [isHighSurrogate, Bool.and_eq_true, decide_eq_true_eq] at hhigh
    omega
  have hlow' : low < 0x10000 := by
    simp only [isLowSurrogate, Bool.and_eq_true, decide_eq_true_eq] at hlow
    omega
  rw [unitEscape_eq, unitEscape_eq]
  simp only [List.cons_append, List.nil_append]
  rw [readString, hexValue4?_hexDigit hhigh']
  simp [hhigh, hlow, UnitEscape.ahead, hexValue4?_hexDigit hlow']

/-! ## Characters -/

/-- No character is half of a pair. -/
theorem toNat_lt_or_le (c : Char) : c.toNat < 0xd800 ∨ 0xe000 ≤ c.toNat := by
  rcases c.valid with hlow | ⟨hhigh, -⟩
  · exact Or.inl hlow
  · exact Or.inr hhigh

theorem toNat_lt (c : Char) : c.toNat < 0x110000 := by
  rcases c.valid with hlow | ⟨-, hhigh⟩
  · exact Nat.lt_trans hlow (by omega)
  · exact hhigh

theorem isHighSurrogate_toNat (c : Char) : isHighSurrogate c.toNat = false := by
  have hrange := toNat_lt_or_le c
  simp only [isHighSurrogate, Bool.and_eq_false_iff, decide_eq_false_iff_not]
  omega

/-- Nothing but a plain character stands for itself. -/
theorem readString_plain {c : Char} (hquote : c ≠ '"') (hbackslash : c ≠ '\\')
    (hvisible : 0x20 ≤ c.toNat) :
    readString start done position (c :: rest) =
      readString start (c :: done) (position + 1) rest := by
  rw [readString]
  · rw [if_neg (by omega)]
  all_goals simp [hquote, hbackslash]

/-- An escape of one letter. -/
theorem readString_simple {letter c : Char} (hletter : letter ≠ 'u')
    (hc : simpleEscape? letter = some c) :
    readString start done position ('\\' :: letter :: rest) =
      readString start (c :: done) (position + 2) rest := by
  rw [readString]
  · rw [hc]
  all_goals simp [hletter]

/-- **A character is read from what it is written as.** -/
theorem readString_escapeCharacter (c : Char) :
    readString start done position (escapeCharacter c ++ next :: rest) =
      readString start (c :: done) (position + (escapeCharacter c).length) (next :: rest) := by
  unfold escapeCharacter
  split_ifs with hquote hbackslash hfeed hreturn htab hback hform hplain hfirst
  · exact readString_simple (by decide) (by rw [hquote]; rfl)
  · exact readString_simple (by decide) (by rw [hbackslash]; rfl)
  · exact readString_simple (by decide) (by rw [hfeed]; rfl)
  · exact readString_simple (by decide) (by rw [hreturn]; rfl)
  · exact readString_simple (by decide) (by rw [htab]; rfl)
  · exact readString_simple (by decide) (by rw [hback]; rfl)
  · exact readString_simple (by decide) (by rw [hform]; rfl)
  · exact readString_plain hquote hbackslash hplain.1
  · rw [readString_unit hfirst (isHighSurrogate_toNat c) (Text.ofPoint?_toNat c)]
    rfl
  · have hlast := toNat_lt c
    have hhigh : isHighSurrogate (0xd800 + (c.toNat - 0x10000) / 0x400) = true := by
      simp only [isHighSurrogate, Bool.and_eq_true, decide_eq_true_eq]
      omega
    have hlow : isLowSurrogate (0xdc00 + (c.toNat - 0x10000) % 0x400) = true := by
      simp only [isLowSurrogate, Bool.and_eq_true, decide_eq_true_eq]
      omega
    have hpoint : 0x10000 + (0xd800 + (c.toNat - 0x10000) / 0x400 - 0xd800) * 0x400 +
        (0xdc00 + (c.toNat - 0x10000) % 0x400 - 0xdc00) = c.toNat := by omega
    dsimp only
    rw [List.append_assoc, readString_pair hhigh hlow, hpoint, Char.ofNat_toNat]
    rfl

/-! ## Texts -/

theorem readString_flatMap (text : List Char) :
    readString start done position (text.flatMap escapeCharacter ++ next :: rest) =
      readString start (text.reverse ++ done)
        (position + (text.flatMap escapeCharacter).length) (next :: rest) := by
  induction text generalizing done position with
  | nil => rfl
  | cons c text ih =>
      have hnext : ∃ next' rest', text.flatMap escapeCharacter ++ next :: rest = next' :: rest' :=
        List.exists_cons_of_ne_nil (by simp)
      obtain ⟨next', rest', heq⟩ := hnext
      rw [List.flatMap_cons, List.append_assoc, heq, readString_escapeCharacter, ← heq, ih,
        List.reverse_cons, List.length_append, List.append_assoc, Nat.add_assoc]
      rfl

/-- **A text is read from what it is written as**, up to the closing quote. -/
theorem readString_written (text : String) :
    readString start [] position (text.toList.flatMap escapeCharacter ++ '"' :: rest) =
      .ok (text, ⟨rest, position + (text.toList.flatMap escapeCharacter).length + 1⟩) := by
  rw [readString_flatMap, readString, List.append_nil, List.reverse_reverse, String.ofList_toList]

end GrammarFuzz.Json

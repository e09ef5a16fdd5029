import GrammarFuzz.Text.Utf8
import Mathlib.Tactic.SplitIfs

/-!
# Texts as bytes

Decoding is the inverse of encoding: bytes are decoded exactly if they are those of a text, and then
to this text (`decodeUtf8_eq_ok_iff`).  Whatever else stands in a file is refused: a byte that starts
nothing, a character that is cut off, an overlong form or a surrogate.

## Strategy

A character is spelled in one of four forms, by the number of its bytes (`Spells`).  The reader of
characters reads these forms and nothing else (`exists_spells`, `Spells.readCharacter_eq`), and the
bytes of a character are in the form that gives its number (`exists_spells_utf8EncodeChar`).  Both
are arithmetic with the six bits that a byte after the first one carries.  Texts follow by the
recursion of the decoder.
-/

namespace GrammarFuzz.Text

/-! ## Characters -/

/-- A first byte and those after it are a form of a number.  What may come second keeps out numbers
with a shorter form and those that belong to no character. -/
inductive Spells : UInt8 → List UInt8 → Nat → Prop where
  | one {lead : UInt8} (hlead : lead.toNat < 0x80) : Spells lead [] lead.toNat
  | two {lead second : UInt8} (hlow : 0xc2 ≤ lead.toNat) (hhigh : lead.toNat < 0xe0)
      (hsecond : mayFollow lead second = true) :
      Spells lead [second] (lead.toNat % 32 * 64 + payload second)
  | three {lead second third : UInt8} (hlow : 0xe0 ≤ lead.toNat) (hhigh : lead.toNat < 0xf0)
      (hsecond : mayFollow lead second = true) (hthird : isContinuation third = true) :
      Spells lead [second, third] ((lead.toNat % 16 * 64 + payload second) * 64 + payload third)
  | four {lead second third fourth : UInt8} (hlow : 0xf0 ≤ lead.toNat) (hhigh : lead.toNat ≤ 0xf4)
      (hsecond : mayFollow lead second = true) (hthird : isContinuation third = true)
      (hfourth : isContinuation fourth = true) :
      Spells lead [second, third, fourth]
        (((lead.toNat % 8 * 64 + payload second) * 64 + payload third) * 64 + payload fourth)

/-! ### Conditions on bytes -/

theorem isContinuation_iff {byte : UInt8} :
    isContinuation byte = true ↔ 0x80 ≤ byte.toNat ∧ byte.toNat < 0xc0 := by
  rw [isContinuation, Bool.and_eq_true, decide_eq_true_iff, decide_eq_true_iff,
    UInt8.le_iff_toNat_le, UInt8.lt_iff_toNat_lt]
  rfl

theorem mayFollow_iff {lead byte : UInt8} :
    mayFollow lead byte = true ↔ (0x80 ≤ byte.toNat ∧ byte.toNat < 0xc0) ∧
      (lead.toNat = 0xe0 → 0xa0 ≤ byte.toNat) ∧ (lead.toNat = 0xed → byte.toNat < 0xa0) ∧
      (lead.toNat = 0xf0 → 0x90 ≤ byte.toNat) ∧ (lead.toNat = 0xf4 → byte.toNat < 0x90) := by
  unfold mayFollow
  simp only [← UInt8.toNat_inj]
  split_ifs
  case neg =>
    rw [isContinuation_iff]
    simp only [UInt8.toNat_ofNat] at *
    omega
  all_goals
    simp only [Bool.and_eq_true, decide_eq_true_eq, UInt8.le_iff_toNat_le, UInt8.lt_iff_toNat_lt,
      UInt8.toNat_ofNat] at *
    omega

theorem not_lt_of_toNat_le {byte bound : UInt8} (hle : bound.toNat ≤ byte.toNat) : ¬ byte < bound :=
  UInt8.not_lt.mpr (UInt8.le_iff_toNat_le.mpr hle)

/-- The bytes that a form of more than one byte starts with. -/
theorem starts_iff {lead : UInt8} :
    ¬ (lead < 0xc2 || 0xf4 < lead) = true ↔ 0xc2 ≤ lead.toNat ∧ lead.toNat ≤ 0xf4 := by
  simp only [Bool.or_eq_true, decide_eq_true_eq, UInt8.lt_iff_toNat_lt, UInt8.toNat_ofNat]
  omega

/-! ### The reader of characters -/

/-- What is read as a character is a form of its number. -/
theorem exists_spells {lead : UInt8} {rest : List UInt8} {value : Char} {extra : Nat} :
    readCharacter lead rest = .character value extra →
      ∃ more after code, rest = more ++ after ∧ more.length = extra ∧ value = Char.ofNat code ∧
        Spells lead more code := by
  fun_cases readCharacter lead rest with
  | case1 =>
      rintro ⟨⟩
      rename_i hone
      exact ⟨[], rest, _, rfl, rfl, rfl, .one (UInt8.lt_iff_toNat_lt.mp hone)⟩
  | case5 hone hstarts second rest hsecond htwo =>
      rintro ⟨⟩
      rw [Bool.not_eq_true, Bool.not_eq_false'] at hsecond
      exact ⟨[second], rest, _, rfl, rfl, rfl, .two (starts_iff.mp hstarts).1
        (UInt8.lt_iff_toNat_lt.mp htwo) hsecond⟩
  | case8 hone hstarts second hsecond htwo third rest hthird hthree =>
      rintro ⟨⟩
      rw [Bool.not_eq_true, Bool.not_eq_false'] at hsecond hthird
      rw [UInt8.not_lt, UInt8.le_iff_toNat_le] at htwo
      exact ⟨[second, third], rest, _, rfl, rfl, rfl, .three htwo
        (UInt8.lt_iff_toNat_lt.mp hthree) hsecond hthird⟩
  | case11 hone hstarts second hsecond htwo third hthird hthree fourth rest hfourth =>
      rintro ⟨⟩
      rw [Bool.not_eq_true, Bool.not_eq_false'] at hsecond hthird hfourth
      rw [UInt8.not_lt, UInt8.le_iff_toNat_le] at hthree
      exact ⟨[second, third, fourth], rest, _, rfl, rfl, rfl, .four hthree
        (starts_iff.mp hstarts).2 hsecond hthird hfourth⟩
  | _ => exact nofun

/-- A form of a number is read as the character with this number, whatever comes after it. -/
theorem Spells.readCharacter_eq {lead : UInt8} {more : List UInt8} {code : Nat}
    (hspells : Spells lead more code) (rest : List UInt8) :
    readCharacter lead (more ++ rest) = .character (Char.ofNat code) more.length := by
  cases hspells with
  | one hlead =>
      rw [readCharacter.eq_def, if_pos (UInt8.lt_iff_toNat_lt.mpr hlead)]
      rfl
  | two hlow hhigh hsecond =>
      have hone : ¬ lead < 0x80 := not_lt_of_toNat_le (Nat.le_trans (by decide) hlow)
      have hstarts := starts_iff.mpr ⟨hlow, Nat.le_trans (Nat.le_of_lt hhigh) (by decide)⟩
      have htwo : lead < 0xe0 := UInt8.lt_iff_toNat_lt.mpr hhigh
      simp only [readCharacter, hone, hstarts, htwo, hsecond, List.cons_append, List.nil_append]
      rfl
  | three hlow hhigh hsecond hthird =>
      have hone : ¬ lead < 0x80 := not_lt_of_toNat_le (Nat.le_trans (by decide) hlow)
      have hstarts := starts_iff.mpr
        ⟨Nat.le_trans (by decide) hlow, Nat.le_trans (Nat.le_of_lt hhigh) (by decide)⟩
      have htwo : ¬ lead < 0xe0 := not_lt_of_toNat_le hlow
      have hthree : lead < 0xf0 := UInt8.lt_iff_toNat_lt.mpr hhigh
      simp only [readCharacter, hone, hstarts, htwo, hthree, hsecond, hthird, List.cons_append,
        List.nil_append]
      rfl
  | four hlow hhigh hsecond hthird hfourth =>
      have hone : ¬ lead < 0x80 := not_lt_of_toNat_le (Nat.le_trans (by decide) hlow)
      have hstarts := starts_iff.mpr ⟨Nat.le_trans (by decide) hlow, hhigh⟩
      have htwo : ¬ lead < 0xe0 := not_lt_of_toNat_le (Nat.le_trans (by decide) hlow)
      have hthree : ¬ lead < 0xf0 := not_lt_of_toNat_le hlow
      simp only [readCharacter, hone, hstarts, htwo, hthree, hsecond, hthird, hfourth,
        List.cons_append, List.nil_append]
      rfl

/-! ### The bytes of characters -/

/-- The number of a character that is given by its number. -/
theorem val_ofNat {code : Nat} (hvalid : code.isValidChar) :
    (Char.ofNat code).val.toNat = code := by
  rw [Char.ofNat, dif_pos hvalid]
  rfl

theorem ofNat_eq (byte : UInt8) {number : Nat} (hnumber : number = byte.toNat) :
    UInt8.ofNat number = byte := by
  rw [hnumber, UInt8.ofNat_toNat]

/-- What is spelled is a character, and these are its bytes. -/
theorem Spells.utf8EncodeChar_eq {lead : UInt8} {more : List UInt8} {code : Nat}
    (hspells : Spells lead more code) :
    String.utf8EncodeChar (Char.ofNat code) = lead :: more := by
  unfold String.utf8EncodeChar
  cases hspells with
  | one hlead =>
      rw [val_ofNat (Or.inl (by omega)), if_pos (by omega), ofNat_eq lead rfl]
  | @two second hlow hhigh hsecond =>
      rw [mayFollow_iff] at hsecond
      unfold payload
      rw [val_ofNat (Or.inl (by omega)), if_neg (by omega), if_pos (by omega),
        ofNat_eq lead (by omega), ofNat_eq second (by omega)]
  | @three second third hlow hhigh hsecond hthird =>
      rw [mayFollow_iff] at hsecond
      rw [isContinuation_iff] at hthird
      unfold payload
      have hvalid : ((lead.toNat % 16 * 64 + second.toNat % 64) * 64 +
          third.toNat % 64).isValidChar := by
        unfold Nat.isValidChar
        omega
      rw [val_ofNat hvalid, if_neg (by omega), if_neg (by omega), if_pos (by omega),
        ofNat_eq lead (by omega), ofNat_eq second (by omega),
        ofNat_eq third (by omega)]
  | @four second third fourth hlow hhigh hsecond hthird hfourth =>
      rw [mayFollow_iff] at hsecond
      rw [isContinuation_iff] at hthird hfourth
      unfold payload
      have hvalid : (((lead.toNat % 8 * 64 + second.toNat % 64) * 64 + third.toNat % 64) * 64 +
          fourth.toNat % 64).isValidChar := by
        unfold Nat.isValidChar
        omega
      rw [val_ofNat hvalid, if_neg (by omega), if_neg (by omega), if_neg (by omega),
        ofNat_eq lead (by omega), ofNat_eq second (by omega),
        ofNat_eq third (by omega), ofNat_eq fourth (by omega)]

theorem Spells.of_code_eq {lead : UInt8} {more : List UInt8} {code other : Nat}
    (hspells : Spells lead more code) (hcode : code = other) : Spells lead more other := by
  rwa [← hcode]

/-- Every character is spelled by its bytes. -/
theorem exists_spells_utf8EncodeChar (c : Char) :
    ∃ lead more, String.utf8EncodeChar c = lead :: more ∧ Spells lead more c.toNat := by
  have hvalid : c.toNat < 0xd800 ∨ 0xdfff < c.toNat ∧ c.toNat < 0x110000 := c.valid
  have hbyte : ∀ number, (UInt8.ofNat number).toNat = number % 256 := fun _ => UInt8.toNat_ofNat'
  unfold String.utf8EncodeChar
  change ∃ lead more, (if c.toNat ≤ 0x7f then _ else if c.toNat ≤ 0x7ff then _
    else if c.toNat ≤ 0xffff then _ else _) = lead :: more ∧ _
  split_ifs
  · refine ⟨_, _, rfl, (Spells.one ?_).of_code_eq ?_⟩
    all_goals
      simp only [Char.toNat_val, hbyte]
      omega
  · refine ⟨_, _, rfl, (Spells.two ?_ ?_ (mayFollow_iff.mpr ?_)).of_code_eq ?_⟩
    all_goals
      simp only [Char.toNat_val, hbyte, payload]
      omega
  · refine ⟨_, _, rfl, (Spells.three ?_ ?_ (mayFollow_iff.mpr ?_)
      (isContinuation_iff.mpr ?_)).of_code_eq ?_⟩
    all_goals
      simp only [Char.toNat_val, hbyte, payload]
      omega
  · refine ⟨_, _, rfl, (Spells.four ?_ ?_ (mayFollow_iff.mpr ?_)
      (isContinuation_iff.mpr ?_) (isContinuation_iff.mpr ?_)).of_code_eq ?_⟩
    all_goals
      simp only [Char.toNat_val, hbyte, payload]
      omega

/-- **A character is read where its bytes are.** -/
theorem readCharacter_eq_character_iff {lead : UInt8} {rest : List UInt8} {value : Char}
    {extra : Nat} :
    readCharacter lead rest = .character value extra ↔
      ∃ more after, rest = more ++ after ∧ more.length = extra ∧
        String.utf8EncodeChar value = lead :: more := by
  constructor
  · intro hread
    obtain ⟨more, after, code, rfl, rfl, rfl, hspells⟩ := exists_spells hread
    exact ⟨more, after, rfl, rfl, hspells.utf8EncodeChar_eq⟩
  · rintro ⟨more, after, rfl, rfl, hbytes⟩
    obtain ⟨lead, more, hvalue, hspells⟩ := exists_spells_utf8EncodeChar value
    cases hvalue.symm.trans hbytes
    rw [hspells.readCharacter_eq, Char.ofNat_toNat]

/-! ## Texts -/

theorem encodeUtf8_ofList (characters : List Char) :
    encodeUtf8 (String.ofList characters) = characters.flatMap String.utf8EncodeChar := by
  rw [encodeUtf8, String.toUTF8, String.toByteArray_ofList, List.utf8Encode,
    List.toList_data_toByteArray]

/-- The first character of a text is read first. -/
theorem exists_readCharacter {lead : UInt8} {rest : List UInt8} {characters : List Char}
    (hbytes : lead :: rest = characters.flatMap String.utf8EncodeChar) :
    ∃ first others extra, characters = first :: others ∧
      readCharacter lead rest = .character first extra ∧
        rest.drop extra = others.flatMap String.utf8EncodeChar := by
  cases characters with
  | nil => cases hbytes
  | cons first others =>
      obtain ⟨head, more, hfirst, -⟩ := exists_spells_utf8EncodeChar first
      rw [List.flatMap_cons, hfirst, List.cons_append, List.cons.injEq] at hbytes
      obtain ⟨rfl, rfl⟩ := hbytes
      exact ⟨first, others, more.length, rfl,
        readCharacter_eq_character_iff.mpr ⟨more, _, rfl, rfl, hfirst⟩, List.drop_left⟩

/-- Decoding takes the bytes of characters, and these are what it adds. -/
theorem decodeUtf8From_eq_ok_iff {position : Nat} {decoded : List Char} {bytes : List UInt8}
    {characters : List Char} :
    decodeUtf8From position decoded bytes = .ok characters ↔
      ∃ others, characters = decoded.reverse ++ others ∧
        bytes = others.flatMap String.utf8EncodeChar := by
  fun_induction decodeUtf8From position decoded bytes with
  | case1 position decoded =>
      constructor
      · rintro ⟨⟩
        exact ⟨[], (List.append_nil _).symm, rfl⟩
      · rintro ⟨others, rfl, hbytes⟩
        cases others with
        | nil => rw [List.append_nil]
        | cons first others =>
            obtain ⟨lead, more, hfirst, -⟩ := exists_spells_utf8EncodeChar first
            rw [List.flatMap_cons, hfirst] at hbytes
            cases hbytes
  | case2 position decoded lead rest value extra hread ih =>
      rw [ih]
      constructor
      · rintro ⟨others, rfl, hrest⟩
        obtain ⟨more, after, rfl, rfl, hvalue⟩ := readCharacter_eq_character_iff.mp hread
        rw [List.drop_left] at hrest
        refine ⟨value :: others, ?_, ?_⟩
        · rw [List.reverse_cons, List.append_assoc, List.singleton_append]
        · rw [List.flatMap_cons, hvalue, hrest, List.cons_append]
      · rintro ⟨others, rfl, hbytes⟩
        obtain ⟨first, others, count, rfl, hfirst, hrest⟩ := exists_readCharacter hbytes
        cases hread.symm.trans hfirst
        refine ⟨others, ?_, hrest⟩
        rw [List.reverse_cons, List.append_assoc, List.singleton_append]
  | case3 position decoded lead rest fault extra hread =>
      refine ⟨nofun, ?_⟩
      rintro ⟨others, rfl, hbytes⟩
      obtain ⟨first, others, count, rfl, hfirst, hrest⟩ := exists_readCharacter hbytes
      cases hread.symm.trans hfirst

/-- **Bytes are decoded if they are those of a text, and this is what they are decoded to.** -/
theorem decodeUtf8_eq_ok_iff {bytes : List UInt8} {characters : List Char} :
    decodeUtf8 bytes = .ok characters ↔ bytes = encodeUtf8 (String.ofList characters) := by
  rw [decodeUtf8, decodeUtf8From_eq_ok_iff, encodeUtf8_ofList]
  constructor
  · rintro ⟨others, rfl, rfl⟩
    rfl
  · rintro rfl
    exact ⟨characters, rfl, rfl⟩

end GrammarFuzz.Text

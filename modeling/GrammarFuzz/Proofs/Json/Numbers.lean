import GrammarFuzz.Json.Parser
import GrammarFuzz.Json.Printer
import Mathlib.Data.List.Basic

/-!
# Integers in a document

An integer is written with its decimal digits, and a reader without a limit gives the integer back
(`readNumber_written`) if what comes after it does not go on with the number: no digit, no point and
no exponent (`Stops`).  A zero in front would end the whole part for the reader, so the digits of a
number are read as one whole part because only zero starts with a zero (`toDigits_eq_cons_zero`).
-/

namespace GrammarFuzz.Json

theorem takeWhile_append_of_head? {p : Char → Bool} {front rest : List Char}
    (hfront : ∀ c ∈ front, p c = true) (hrest : ∀ c ∈ rest.head?, p c = false) :
    (front ++ rest).takeWhile p = front := by
  have hstop : rest.takeWhile p = [] := by
    cases rest with
    | nil => rfl
    | cons c rest => rw [List.takeWhile_cons, hrest c rfl]; rfl
  rw [List.takeWhile_append_of_pos hfront, hstop, List.append_nil]

/-- What comes here does not belong to a number before it. -/
def Stops (rest : List Char) : Prop :=
  ∀ c ∈ rest.head?, c.isDigit = false ∧ c ≠ '.' ∧ c ≠ 'e' ∧ c ≠ 'E'

section Digits

variable {n : Nat} {rest : List Char}

theorem isDigit_toDigits {c : Char} (hc : c ∈ Nat.toDigits 10 n) : c.isDigit = true :=
  Nat.isDigit_of_mem_toDigits (by omega) (by omega) hc

theorem exists_toDigits_eq_cons (n : Nat) :
    ∃ first digits, Nat.toDigits 10 n = first :: digits ∧ first.isDigit = true := by
  obtain ⟨first, digits, hfirst⟩ :=
    List.exists_cons_of_ne_nil (Nat.toDigits_ne_nil : Nat.toDigits 10 n ≠ [])
  exact ⟨first, digits, hfirst, isDigit_toDigits (hfirst ▸ List.mem_cons_self)⟩

theorem ne_of_isDigit {c other : Char} (hdigit : c.isDigit = true)
    (hother : other.isDigit = false) : c ≠ other := by
  rintro rfl
  exact Bool.false_ne_true (hother.symm.trans hdigit)

theorem digitsValue_toDigits (n : Nat) : digitsValue 0 (Nat.toDigits 10 n) = n := by
  have hfold : digitsValue 0 (Nat.toDigits 10 n) = Nat.ofDigitChars 10 (Nat.toDigits 10 n) 0 := by
    rw [Nat.ofDigitChars_eq_foldl, digitsValue]
    exact congrArg₂ (fun step init => List.foldl step init (Nat.toDigits 10 n))
      (funext fun value => funext fun c => by rw [Nat.mul_comm]; rfl) rfl
  rw [hfold, Nat.ofDigitChars_ten_toDigits]

/-- Only zero has a zero in front. -/
theorem toDigits_eq_cons_zero {digits : List Char} (hdigits : Nat.toDigits 10 n = '0' :: digits) :
    n = 0 := by
  induction n using Nat.strongRecOn generalizing digits with
  | ind n ih =>
      rcases Nat.lt_or_ge n 10 with hlt | hge
      · have hdigit : ∀ n < 10, n.digitChar = '0' → n = 0 := by decide
        rw [Nat.toDigits_of_lt_base hlt] at hdigits
        exact hdigit n hlt (List.cons.inj hdigits).1
      · rw [Nat.toDigits_of_base_le (by omega) hge] at hdigits
        obtain ⟨first, others, hfirst, -⟩ := exists_toDigits_eq_cons (n / 10)
        rw [hfirst, List.cons_append] at hdigits
        rw [(List.cons.inj hdigits).1] at hfirst
        have hzero := ih (n / 10) (by omega) hfirst
        omega

/-- The digits of a number are all that is taken for its whole part. -/
theorem wholeDigits_toDigits (hrest : Stops rest) :
    wholeDigits (Nat.toDigits 10 n ++ rest) = Nat.toDigits 10 n := by
  have hspan : (spanDigits (Nat.toDigits 10 n ++ rest)).1 = Nat.toDigits 10 n :=
    takeWhile_append_of_head? (fun c hc => isDigit_toDigits hc) fun c hc => (hrest c hc).1
  unfold wholeDigits
  split
  · rename_i others heq
    obtain ⟨first, digits, hfirst, -⟩ := exists_toDigits_eq_cons n
    rw [hfirst, List.cons_append] at heq
    rw [(List.cons.inj heq).1] at hfirst
    rw [toDigits_eq_cons_zero hfirst, Nat.toDigits_zero]
  · exact hspan

theorem toDigits_append_ne_minus (n : Nat) (rest others : List Char) :
    Nat.toDigits 10 n ++ rest ≠ '-' :: others := by
  obtain ⟨first, digits, hfirst, hdigit⟩ := exists_toDigits_eq_cons n
  rw [hfirst, List.cons_append]
  exact fun heq => ne_of_isDigit hdigit rfl (List.cons.inj heq).1

end Digits

theorem toList_writtenNumber (value : Int) :
    (writtenNumber (.int value)).toList =
      (if value < 0 then ['-'] else []) ++ Nat.toDigits 10 value.natAbs := by
  cases value with
  | ofNat size =>
      show (toString size).toList = _
      rw [Nat.toString_eq_ofList_toDigits, String.toList_ofList]
      rfl
  | negSucc size =>
      show ("-" ++ toString (size + 1)).toList = _
      rw [Nat.toString_eq_ofList_toDigits, String.toList_append, String.toList_ofList,
        String.toList_ofList, if_pos (Int.negSucc_lt_zero size)]
      rfl

theorem readExponent?_of_stops {rest : List Char} (hrest : Stops rest) :
    readExponent? rest = none := by
  unfold readExponent?
  cases rest with
  | nil => rfl
  | cons c rest =>
      obtain ⟨-, -, he, hE⟩ := hrest c rfl
      exact if_neg (not_or.mpr ⟨he, hE⟩)

/-- **An integer is read from what it is written as.** -/
theorem readNumber_written (value : Int) {rest : List Char} (hrest : Stops rest) (position : Nat) :
    readNumber none ⟨(writtenNumber (.int value)).toList ++ rest, position⟩ =
      .ok (.int value, ⟨rest, position + (writtenNumber (.int value)).toList.length⟩) := by
  have hsign :
      spanMinus ((if value < 0 then ['-'] else []) ++ Nat.toDigits 10 value.natAbs ++ rest) =
        (decide (value < 0), (if value < 0 then ['-'] else []).length,
          Nat.toDigits 10 value.natAbs ++ rest) := by
    by_cases hnegative : value < 0
    · rw [if_pos hnegative, decide_eq_true hnegative]
      rfl
    · rw [if_neg hnegative, decide_eq_false hnegative, List.nil_append]
      unfold spanMinus
      split
      · rename_i others heq
        exact absurd heq (toDigits_append_ne_minus _ _ _)
      · rfl
  have hfraction : fractionDigits rest = [] := by
    unfold fractionDigits
    split
    · exact absurd rfl (hrest '.' rfl).2.1
    · rfl
  have hne : (Nat.toDigits 10 value.natAbs).isEmpty = false :=
    List.isEmpty_eq_false_iff.mpr Nat.toDigits_ne_nil
  have hvalue : (if value < 0 then -(value.natAbs : Int) else value.natAbs) = value := by
    split <;> omega
  rw [toList_writtenNumber]
  unfold readNumber
  simp only [hsign, wholeDigits_toDigits hrest, hne, List.drop_left, hfraction, List.isEmpty_nil,
    if_true, List.drop_zero, readExponent?_of_stops hrest, Option.isNone_none, Bool.and_self,
    readInt, Interpreter.digitsOver?, Option.filter_none, digitsValue_toDigits, Bool.false_eq_true,
    if_false, decide_eq_true_eq, hvalue, Except.map]
  rw [Cursor.advance, ← List.length_append, Option.map_none, Option.getD_none]
  simp only [Nat.add_zero, List.drop_left]

end GrammarFuzz.Json

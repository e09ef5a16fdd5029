import GrammarFuzz.Proofs.Random.Reading
import GrammarFuzz.Random.Poisson
import Mathlib.Algebra.Group.Nat.Defs
import Mathlib.Data.Set.Image

/-!
# The range of random draws

Every draw reads words from the front of its source and depends on nothing else; the bound on the
rounds of a loop, which is the number of words left, plays no role as long as it exceeds the words
that are read (`LocalLoop`).

A number below a bound can be each of the numbers below it (`below_offers`): words that have it in
their leading bits are accepted at once.
-/

namespace GrammarFuzz.Random.Draw

variable {α β : Type}

/-! ## Bits -/

theorem outcome_word {first last : Source} {drawn : UInt32}
    (hnext : first.next? = some (drawn, last)) : outcome word first = (.ok drawn, last) := by
  show outcome (get >>= _) first = _
  rw [outcome_get_bind, hnext]
  rfl

theorem word_reads (drawn : UInt32) (before after : Source) :
    Reads word before [drawn] drawn after := by
  rintro first last ⟨next, hnext, rfl⟩
  exact outcome_word hnext

theorem word_local : Local word := by
  intro before value after houtcome
  cases hnext : before.next? with
  | none =>
      have hfailed : outcome word before = (.error .exhausted, before) := by
        show outcome (get >>= _) before = _
        rw [outcome_get_bind, hnext]
        rfl
      rw [hfailed] at houtcome
      cases houtcome
  | some pair =>
      obtain ⟨drawn, next⟩ := pair
      rw [outcome_word hnext] at houtcome
      obtain ⟨hvalue, rfl⟩ := Prod.mk.inj houtcome
      rw [← Except.ok.inj hvalue]
      have hgives : before.Gives [drawn] next := ⟨next, hnext, rfl⟩
      exact ⟨[drawn], hgives, word_reads drawn before next⟩

/-- The leading bits of the next word. -/
theorem bits_reads {count : Nat} (hcount : count ≤ 32) (drawn : UInt32) (before after : Source) :
    Reads (bits count) before [drawn] (drawn.toNat / 2 ^ (32 - count)) after := by
  rw [bits, if_pos hcount]
  exact (word_reads drawn before after).bind_pure rfl

theorem bits_local (count : Nat) : Local (bits count) := by
  induction count using Nat.strong_induction_on with
  | _ count ih =>
      rw [bits]
      split
      · exact word_local.bind fun _ => .pure _
      · exact word_local.bind fun _ => (ih (count - 32) (by omega)).bind fun _ => .pure _

/-- Without words there are no bits. -/
theorem outcome_bits_nil (count : Nat) :
    outcome (bits count) (.ofWords []) = (.error .exhausted, .ofWords []) := by
  rw [bits]
  split
  · rfl
  · rfl

/-- Every number of so many bits can be drawn. -/
theorem exists_bits_reads (count : Nat) {value : Nat} (hvalue : value < 2 ^ count)
    (before after : Source) : ∃ words, Reads (bits count) before words value after := by
  induction count using Nat.strong_induction_on generalizing value with
  | _ count ih =>
      by_cases hcount : count ≤ 32
      · -- the number goes into the leading bits of a word
        have hword : value * 2 ^ (32 - count) < 2 ^ 32 := by
          calc value * 2 ^ (32 - count) < 2 ^ count * 2 ^ (32 - count) :=
                (Nat.mul_lt_mul_right (Nat.two_pow_pos _)).mpr hvalue
            _ = 2 ^ 32 := by rw [← Nat.pow_add, Nat.add_sub_cancel' hcount]
        have hleading : (UInt32.ofNat (value * 2 ^ (32 - count))).toNat / 2 ^ (32 - count) =
            value := by
          rw [UInt32.toNat_ofNat_of_lt' hword]
          exact Nat.mul_div_cancel _ (Nat.two_pow_pos _)
        refine ⟨[UInt32.ofNat (value * 2 ^ (32 - count))], ?_⟩
        have hreads := bits_reads hcount (UInt32.ofNat (value * 2 ^ (32 - count))) before after
        rwa [hleading] at hreads
      · have hlow : value % 2 ^ 32 < 2 ^ 32 := Nat.mod_lt _ (Nat.two_pow_pos _)
        have hhigh : value / 2 ^ 32 < 2 ^ (count - 32) := by
          rw [Nat.div_lt_iff_lt_mul (Nat.two_pow_pos _), ← Nat.pow_add]
          rwa [Nat.sub_add_cancel (Nat.le_of_not_le hcount)]
        obtain ⟨words, hwords⟩ := ih (count - 32) (by omega) hhigh
        have hvalue : (UInt32.ofNat (value % 2 ^ 32)).toNat + value / 2 ^ 32 * Nat.pow 2 32 =
            value := by
          rw [UInt32.toNat_ofNat_of_lt' hlow]
          exact Nat.mod_add_div' value (2 ^ 32)
        refine ⟨[UInt32.ofNat (value % 2 ^ 32)] ++ words, ?_⟩
        rw [bits, if_neg hcount]
        exact (word_reads _ before before).bind (hwords.bind_pure hvalue)

/-! ## Loops -/

/-- However often the loop may go round, it reads words from the front and depends on nothing else,
provided that it may go round more often than there are such words. -/
def LocalLoop (loop : Nat → Draw α) : Prop :=
  ∀ fuel before value after, outcome (loop fuel) before = (.ok value, after) →
    ∃ words, before.Gives words after ∧
      ∀ enough, words.length < enough → Reads (loop enough) before words value after

/-- A loop that may go round once for each word that is left, and once more. -/
theorem LocalLoop.local {loop : Nat → Draw α} (hloop : LocalLoop loop) :
    Local (get >>= fun source => loop (source.left + 1)) := by
  intro before value after houtcome
  rw [outcome_get_bind] at houtcome
  obtain ⟨words, hgives, hreads⟩ := hloop _ before value after houtcome
  refine ⟨words, hgives, fun first last hfirst => ?_⟩
  have henough : words.length < first.left + 1 := by
    rw [hfirst.left_eq]
    omega
  exact hreads (first.left + 1) henough first last hfirst

/-- With one round for each word that is left, and one more, the loop does what it does with as many
rounds as it takes. -/
theorem LocalLoop.outcome_eq_ok_iff {loop : Nat → Draw α} (hloop : LocalLoop loop)
    {first last : Source} {value : α} :
    outcome (get >>= fun source : Source => loop (source.left + 1)) first = (.ok value, last) ↔
      ∃ fuel, outcome (loop fuel) first = (.ok value, last) := by
  rw [outcome_get_bind]
  constructor
  · intro houtcome
    exact ⟨first.left + 1, houtcome⟩
  · rintro ⟨fuel, houtcome⟩
    obtain ⟨words, hgives, hreads⟩ := hloop fuel first value last houtcome
    have henough : words.length < first.left + 1 := by
      rw [hgives.left_eq]
      omega
    exact hreads (first.left + 1) henough first last hgives

/-- The loop goes round until a round has a result; the rounds before it change the state of the
loop. -/
structure IsLoop (round : β → Draw (α ⊕ β)) (loop : β → Nat → Draw α) : Prop where
  zero : ∀ state, loop state 0 = throw .exhausted
  succ : ∀ state fuel,
    loop state (fuel + 1) = round state >>= Sum.elim pure fun next => loop next fuel

/-- A loop of local rounds is local, if no round but the last one goes without a word. -/
theorem IsLoop.localLoop {round : β → Draw (α ⊕ β)} {loop : β → Nat → Draw α}
    (hloop : IsLoop round loop) (hround : ∀ state, Local (round state))
    (hword : ∀ state next, (outcome (round state) (.ofWords [])).1 ≠ .ok (.inr next))
    (state : β) : LocalLoop (loop state) := by
  intro fuel
  induction fuel generalizing state with
  | zero =>
      intro before value after houtcome
      rw [hloop.zero] at houtcome
      cases houtcome
  | succ fuel ih =>
      intro before value after houtcome
      rw [hloop.succ, outcome_bind] at houtcome
      cases hfirst : outcome (round state) before with
      | mk answer middle =>
          rw [hfirst] at houtcome
          rcases answer with error | result | next
          · cases houtcome
          · obtain ⟨words, hgives, hreads⟩ := hround state before _ middle hfirst
            cases houtcome
            refine ⟨words, hgives, fun enough henough => ?_⟩
            obtain ⟨enough, rfl⟩ := Nat.exists_eq_add_one_of_ne_zero (Nat.ne_zero_of_lt henough)
            rw [hloop.succ]
            exact hreads.bind_nil (Reads.pure value after)
          · obtain ⟨words, hgives, hreads⟩ := hround state before _ middle hfirst
            obtain ⟨others, hothers, hrest⟩ := ih next middle value after houtcome
            -- the round has taken a word, so there is one round less for one word less at least
            have hne : words ≠ [] := by
              rintro rfl
              exact hword state next (congrArg Prod.fst (hreads _ _ rfl))
            have hpos := List.length_pos_iff.mpr hne
            refine ⟨words ++ others, hgives.append hothers, fun enough henough => ?_⟩
            rw [List.length_append] at henough
            obtain ⟨enough, rfl⟩ := Nat.exists_eq_add_one_of_ne_zero (Nat.ne_zero_of_lt henough)
            have hrest := hrest enough (by omega)
            rw [hloop.succ]
            exact hreads.bind hrest

/-! ## Numbers below a bound -/

theorem belowLoop_isLoop (bound : Nat) :
    IsLoop (fun _ : Unit => do
        let value ← bits (bitLength bound)
        if h : value < bound then return .inl (⟨value, h⟩ : Fin bound) else return .inr ())
      fun _ => belowLoop bound where
  zero _ := rfl
  succ _ fuel := by
    rw [belowLoop, bind_assoc]
    refine bind_congr fun value => ?_
    split
    · rfl
    · rfl

theorem below_local (bound : Nat) : Local (below bound) := by
  refine ((belowLoop_isLoop bound).localLoop (fun _ => ?_) (fun _ _ => ?_) ()).local
  · refine (bits_local _).bind fun value => ?_
    split
    · exact .pure _
    · exact .pure _
  · rw [outcome_bind_error (outcome_bits_nil _)]
    exact nofun

theorem lt_two_pow_bitLength (bound : Nat) : bound < 2 ^ bitLength bound := by
  unfold bitLength
  split
  · rename_i hbound
    simp [hbound]
  · exact Nat.lt_log2_self

/-- Every number below the bound can be drawn. -/
theorem below_offers (bound : Nat) : Offers (below bound) Set.univ where
  isLocal := below_local bound
  reads_iff before value := by
    refine iff_of_true ?_ trivial
    -- the first number that is drawn is accepted
    obtain ⟨words, hwords⟩ :=
      exists_bits_reads (bitLength bound) (value.isLt.trans (lt_two_pow_bitLength bound)) before
        before
    refine ⟨words, before, fun first last hgives => ?_⟩
    have hfirst : Reads (belowLoop bound (first.left + 1)) before words value before := by
      rw [belowLoop]
      refine hwords.bind_nil ?_
      rw [dif_pos value.isLt]
      exact Reads.pure value before
    exact hfirst first last hgives

/-- Every number in the range can be drawn. -/
theorem between_offers (low high : Int) :
    Offers (between low high) {value | low ≤ value ∧ value ≤ high} := by
  unfold between
  split
  · rename_i hempty
    refine (Offers.throw _).of_eq (Set.ext fun value => iff_of_false id fun hvalue => ?_)
    have hbounds : low ≤ value ∧ value ≤ high := hvalue
    omega
  · rename_i hle
    refine ((below_offers (high - low + 1).toNat).map fun value => low + ((value : Nat) : Int)).of_eq
      (Set.ext fun value => ⟨?_, fun hvalue => ?_⟩)
    · rintro ⟨offset, -, rfl⟩
      have hoffset := offset.isLt
      simp only [Set.mem_ofPred_eq]
      omega
    · have hbounds : low ≤ value ∧ value ≤ high := hvalue
      exact ⟨⟨(value - low).toNat, by omega⟩, trivial, by simp only; omega⟩

/-- Every item of the list can be drawn. -/
theorem pick_offers (failure : DrawError) (items : List α) :
    Offers (pick failure items) {item | item ∈ items} := by
  unfold pick
  split
  · rename_i hempty
    refine (Offers.throw _).of_eq (Set.ext fun item => iff_of_false id fun hitem => ?_)
    rw [List.isEmpty_iff.mp hempty] at hitem
    exact List.not_mem_nil hitem
  · refine ((below_offers items.length).map items.get).of_eq (Set.ext fun item => ?_)
    rw [Set.image_univ, Set.mem_range]
    exact List.mem_iff_get.symm

/-! ## Poisson numbers -/

theorem fraction_local : Local fraction :=
  (bits_local 27).bind fun _ => (bits_local 26).bind fun _ => .pure _

/-- The leading bits of two words. -/
theorem fraction_reads (high low : UInt32) (before after : Source) :
    Reads fraction before [high, low] (high.toNat / 2 ^ 5 * 2 ^ 26 + low.toNat / 2 ^ 6) after :=
  (bits_reads (by omega) high before before).bind
    ((bits_reads (by omega) low before after).bind_pure rfl)

variable [Scalar α]

theorem unit_reads (high low : UInt32) (before after : Source) :
    Reads (unit α) before [high, low]
      (Scalar.fraction (high.toNat / 2 ^ 5 * 2 ^ 26 + low.toNat / 2 ^ 6)) after :=
  (fraction_reads high low before after).bind_pure rfl

theorem unit_local : Local (unit α) :=
  fraction_local.bind fun _ => .pure _

theorem weighted_local (items : List β) (weights : List α) : Local (weighted items weights) := by
  unfold weighted
  split
  · exact .throw _
  · dsimp only
    split
    · exact .throw _
    · split
      · exact .throw _
      · split
        · split
          · exact .throw _
          · exact .throw _
        · split
          · exact .throw _
          · refine unit_local.bind fun point => ?_
            split
            · exact .pure _
            · exact .throw _

/-- Without words there is no fraction. -/
theorem outcome_unit_nil : outcome (unit α) (.ofWords []) = (.error .exhausted, .ofWords []) :=
  outcome_bind_error (outcome_bind_error (outcome_bits_nil 27))

theorem countArrivals_isLoop (limit : α) :
    IsLoop (fun state : Nat × α =>
        if Scalar.lt limit state.2 then do
          let factor ← unit α
          return .inr (state.1 + 1, Scalar.mul state.2 factor)
        else return .inl state.1)
      fun state fuel => countArrivals limit fuel state.1 state.2 where
  zero _ := rfl
  succ state fuel := by
    rw [countArrivals]
    split
    · rw [bind_assoc]
      rfl
    · rfl

theorem countArrivals_localLoop (limit : α) (count : Nat) (product : α) :
    LocalLoop fun fuel => countArrivals limit fuel count product := by
  refine (countArrivals_isLoop limit).localLoop (fun state => ?_) (fun state next => ?_)
    (count, product)
  · split
    · exact unit_local.bind fun _ => .pure _
    · exact .pure _
  · split
    · rw [outcome_bind_error outcome_unit_nil]
      exact nofun
    · rw [outcome_pure]
      exact nofun

theorem countChunks_isLoop :
    IsLoop (fun state : Nat × α =>
        if Scalar.lt (Scalar.ofNat 0) state.2 then do
          let chunk := Scalar.min state.2 (Scalar.ofNat chunkSize)
          let first ← unit α
          let count ← get >>= fun source =>
            countArrivals (Scalar.expNeg chunk) (source.left + 1) state.1 first
          return .inr (count, Scalar.sub state.2 chunk)
        else return .inl state.1)
      fun state fuel => countChunks fuel state.1 state.2 where
  zero _ := rfl
  succ state fuel := by
    rw [countChunks]
    split
    · simp only [bind_assoc, pure_bind, Sum.elim_inr]
    · rfl

theorem countChunks_localLoop (count : Nat) (remaining : α) :
    LocalLoop fun fuel => countChunks fuel count remaining := by
  refine countChunks_isLoop.localLoop (fun state => ?_) (fun state next => ?_) (count, remaining)
  · split
    · refine unit_local.bind fun first => Local.bind ?_ fun _ => .pure _
      exact (countArrivals_localLoop _ state.1 first).local
    · exact .pure _
  · split
    · rw [outcome_bind_error outcome_unit_nil]
      exact nofun
    · rw [outcome_pure]
      exact nofun

theorem poisson_local (mean : α) : Local (poisson mean) := by
  unfold poisson
  split
  · exact .throw _
  · split
    · split
      · exact .throw _
      · exact (countChunks_localLoop 0 _).local
    · exact .pure _

end GrammarFuzz.Random.Draw

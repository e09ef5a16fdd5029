import GrammarFuzz.CommandLine.Arguments
import GrammarFuzz.Proofs.Campaign.Counts
import GrammarFuzz.Proofs.Generator.Coverage
import GrammarFuzz.Proofs.Number
import GrammarFuzz.Proofs.Random.Streams

/-!
# Repetitions of checked configurations

The mean number of repetitions is a number of a document or of the command line.  The check of a
configuration compares it with zero, and that comparison is exact, so it may as well be made on the
number without rounding (`Exact.ofNumber`, `Exact.lt_ofNumber`).

The check is there to keep out the means that have no Poisson numbers.  It does so for the means
below zero, and what is no number counts as zero in the draw.  But an infinite mean is not below
zero either: it passes the check, and then the repetition does not come to an end
(`repetitions_returns_iff`, `infinite_mean_accepted`).
-/

namespace GrammarFuzz

open GrammarFuzz.Random

/-! ## Doubles without rounding -/

namespace Decimal

open Double Float.Model Float.Model.UnpackedFloat

/-- The significand with the sign. -/
def Binary64.signed (value : Binary64) : Int :=
  if value.negative then -value.significand else value.significand

/-- The value of a finite double. -/
def Binary64.toRat (value : Binary64) : ℚ := value.signed * 2 ^ value.exponent

/-- The order of an integer and a finite double is that of their values. -/
theorem compareInt_eq (value : Int) (other : Binary64) :
    compareInt value other = compare (value : ℚ) other.toRat := by
  have hcast : ∀ first second : Int, compare first second = compare (first : ℚ) second :=
    fun first second => by
      rw [← cmp_eq_compare, ← cmp_eq_compare, Int.cast_strictMono.cmp_map_eq]
  show (if 0 ≤ other.exponent then compare value (other.signed * Nat.pow 2 other.exponent.toNat)
    else compare (value * Nat.pow 2 (-other.exponent).toNat) other.signed) = _
  unfold Binary64.toRat
  split
  · rename_i hexponent
    obtain ⟨power, hpower⟩ := Int.eq_ofNat_of_zero_le hexponent
    rw [hcast, hpower]
    simp
  · rename_i hexponent
    obtain ⟨power, hpower⟩ := Int.eq_ofNat_of_zero_le (show 0 ≤ -other.exponent by omega)
    have hnegated : other.exponent = -(power : ℤ) := by omega
    have hpositive : (0 : ℚ) < 2 ^ power := by positivity
    -- both sides are compared in units of the last place
    have hmono : StrictMono fun number : ℚ => number * 2 ^ power := fun first second hlt =>
      mul_lt_mul_of_pos_right hlt hpositive
    rw [hcast, hpower, hnegated, ← cmp_eq_compare, ← cmp_eq_compare,
      ← hmono.cmp_map_eq (value : ℚ)]
    simp

theorem unpackExponent_eq_iff {word : BitVec Format.binary64.numBits} :
    unpackExponent word = -BitVec.ofNat Format.binary64.exponentBits 1 ↔
      word.toNat / 2 ^ 52 % 2 ^ 11 = 2047 := by
  rw [← BitVec.toNat_inj, toNat_unpackExponent]
  rfl

/-- A double that has no exact form is an infinity or no number. -/
theorem isInf_eq (value : Float) :
    value.isInf = ((Binary64.decode? value).isNone && !value.isNaN) := by
  have hones : unpackExponent (show BitVec Format.binary64.numBits from value.toBits.toBitVec) =
      -BitVec.ofNat Format.binary64.exponentBits 1 ↔ (fields value).2.1 = 2047 :=
    unpackExponent_eq_iff
  show (UnpackedFloat.unpack .binary64 value.toBits.toBitVec).isInf =
    (_ && !(UnpackedFloat.unpack .binary64 value.toBits.toBitVec).isNaN)
  unfold UnpackedFloat.unpack Binary64.decode?
  dsimp only
  by_cases hexponent : (fields value).2.1 = 2047
  · rw [if_pos (hones.mpr hexponent), if_pos hexponent]
    split <;> rfl
  · rw [if_neg (mt hones.mp hexponent), if_neg hexponent]
    split
    · split <;> split <;> rfl
    · split <;> rfl

end Decimal

namespace Exact

open Decimal

variable {decay : ℚ → ℚ}

/-- A double without rounding. -/
def ofFloat (value : Float) : Exact decay :=
  match Binary64.decode? value with
  | some exact => .finite exact.toRat
  | none => if value.isNaN then .undefined else .infinite (!decide (0 < value))

/-- A number without rounding. -/
def ofNumber : Number → Exact decay
  | .int value => .finite value
  | .float value => .ofFloat value

/-- The check of the sign of a number is exact. -/
theorem lt_ofNumber (value : Number) :
    Scalar.lt (ofNumber value : Exact decay) (Scalar.ofNat 0) = value.lt (.int 0) := by
  cases value with
  | int value =>
      show decide ((value : ℚ) < ((0 : Nat) : ℚ)) = decide (value < 0)
      simp
  | float value =>
      show Scalar.lt (ofFloat value : Exact decay) (Scalar.ofNat 0) =
        (Number.compareIntFloat? 0 value == some .gt)
      unfold ofFloat Number.compareIntFloat?
      cases Binary64.decode? value with
      | some exact =>
          show decide (exact.toRat < ((0 : Nat) : ℚ)) = (some (compareInt 0 exact) == some .gt)
          rw [compareInt_eq, Bool.eq_iff_iff, decide_eq_true_eq, beq_iff_eq, Option.some_inj,
            compare_gt_iff_gt, Int.cast_zero, Nat.cast_zero]
      | none =>
          dsimp only
          cases value.isNaN with
          | true => rfl
          | false =>
              by_cases hpositive : 0 < value
              · rw [decide_eq_true hpositive, if_pos hpositive]
                rfl
              · rw [decide_eq_false hpositive, if_neg hpositive]
                rfl

theorem isInfinite_ofNumber (value : Number) :
    Scalar.isInfinite (ofNumber value : Exact decay) = value.isInfinite := by
  cases value with
  | int value => rfl
  | float value =>
      show Scalar.isInfinite (ofFloat value : Exact decay) = value.isInf
      rw [isInf_eq]
      unfold ofFloat
      cases Binary64.decode? value with
      | some exact => rfl
      | none => cases value.isNaN <;> rfl

end Exact

namespace Config

/-- A mean that is below zero is out of range. -/
theorem not_lt_of_validate_eq_ok {config : Config} (hvalid : config.validate = .ok config) :
    config.repetition.lt (.int 0) = false := by
  have hnone : config.fault? = none := by
    unfold validate at hvalid
    cases hfault : config.fault? with
    | none => rfl
    | some error =>
        rw [hfault] at hvalid
        cases hvalid
  unfold fault? at hnone
  -- two options are checked before the mean
  obtain ⟨-, hnone⟩ := not_and_of_check_eq_none hnone
  obtain ⟨-, hnone⟩ := not_and_of_check_eq_none hnone
  exact Bool.eq_false_iff.mpr (not_and_of_check_eq_none hnone).1

end Config

/-! ## Repetitions -/

namespace Generator

variable {S : Type} [Scalar S] {generator : Generator S}

/-- The rest of the session does not matter to a repetition. -/
theorem repetitions_returns {session : Session S} {stream : ℕ → UInt32}
    (hpoisson : Returns (Draw.poisson generator.meanRepeat) session.source stream)
    (kind : RuleKind) : Returns (generator.repetitions kind) session stream := by
  obtain ⟨count, value, after, hreads⟩ := hpoisson
  refine ⟨count, if kind = .many1 ∧ value = 0 then 1 else value, session,
    Reads.bind_pure (fun first last hgives => ?_) rfl⟩
  have houtcome : outcome (Draw.poisson generator.meanRepeat)
      (HoldsSource.hold session first).source = (.ok value, last) := hreads first last hgives
  rw [outcome_draw, houtcome]
  rfl

theorem repetitions_endless
    (hpoisson : Meets (fun _ => True) (Draw.poisson generator.meanRepeat) (fun _ => False)
      fun _ => True) (kind : RuleKind) :
    Meets (fun _ => True) (generator.repetitions kind) (fun _ => False) fun _ => True :=
  (draw_meets hpoisson (fun _ _ => id) fun _ => id).bind fun _ hvalue => hvalue.elim

end Generator

namespace Campaign

variable {decay : ℚ → ℚ} {config : Config} {grammar : Grammar}
  {generator : Generator (Exact decay)}

/-- **With a configuration that passes the check, a Poisson draw and with it a repetition returns on
an endless stream of words exactly if the mean is not infinite.** -/
theorem repetitions_returns_iff
    (hdecay : ∀ amount, 0 < amount → amount ≤ 500 → 0 < decay amount)
    (hvalid : config.validate = .ok config) {interpreter : Interpreter}
    (hgenerator :
      generatorOf config (.ofNumber config.repetition) grammar interpreter = .ok generator)
    (stream : ℕ → UInt32) :
    (∀ source : Source, Returns (Draw.poisson (.ofNumber config.repetition : Exact decay)) source
        stream ↔ config.repetition.isInfinite = false) ∧
      ∀ (kind : RuleKind) (session : Generator.Session (Exact decay)),
        Returns (generator.repetitions kind) session stream ↔
          config.repetition.isInfinite = false := by
  have hmean : generator.meanRepeat = .ofNumber config.repetition := by
    unfold generatorOf Generator.make at hgenerator
    split at hgenerator
    · cases hgenerator
      rfl
    · cases hgenerator
  have hnonneg :
      Scalar.lt (.ofNumber config.repetition : Exact decay) (Scalar.ofNat 0) = false := by
    rw [Exact.lt_ofNumber, Config.not_lt_of_validate_eq_ok hvalid]
  cases hinfinite : config.repetition.isInfinite with
  | false =>
      have hpoisson := fun source : Source => Draw.poisson_returns hdecay hnonneg
        ((Exact.isInfinite_ofNumber _).trans hinfinite) source stream
      refine ⟨fun source => iff_of_true (hpoisson source) rfl, fun kind session =>
        iff_of_true (Generator.repetitions_returns ?_ kind) rfl⟩
      rw [hmean]
      exact hpoisson session.source
  | true =>
      have hpoisson := Draw.poisson_endless hnonneg
        ((Exact.isInfinite_ofNumber _).trans hinfinite)
      refine ⟨fun source => iff_of_false (not_returns hpoisson source) nofun, fun kind session =>
        iff_of_false (not_returns (Generator.repetitions_endless ?_ kind) session) nofun⟩
      rwa [hmean]

/-- The exponential of a mean of five, as the nearest double. -/
def decayOfFive : ℚ → ℚ := fun _ => 3884161996073403 / 2 ^ 59

/-- With five items in the mean even the stream of the greatest words comes to an end. -/
theorem repetitions_returns_standard :
    Config.standard.validate = .ok Config.standard ∧
      Returns (Draw.poisson (.ofNumber (.float 5) : Exact decayOfFive)) (.ofWords [])
        (fun _ => 4294967295) ∧
      ∃ generator : Generator (Exact decayOfFive),
        generatorOf Config.standard (.ofNumber (.float 5)) Grammar.items Interpreter.plain =
            .ok generator ∧
          Returns (generator.repetitions .many1) (.fresh (.ofWords [])) fun _ => 4294967295 := by
  have hdecay : ∀ amount, 0 < amount → amount ≤ 500 → 0 < decayOfFive amount :=
    fun _ _ _ => by norm_num [decayOfFive]
  have hvalid : Config.standard.validate = .ok Config.standard := by with_unfolding_all rfl
  have hfinite : Config.standard.repetition.isInfinite = false := by decide +kernel
  obtain ⟨generator, hgenerator⟩ : ∃ generator : Generator (Exact decayOfFive),
      generatorOf Config.standard (.ofNumber (.float 5)) Grammar.items Interpreter.plain =
        .ok generator := ⟨_, rfl⟩
  obtain ⟨hpoisson, hrepetitions⟩ :=
    repetitions_returns_iff hdecay hvalid hgenerator fun _ => 4294967295
  exact ⟨hvalid, (hpoisson _).mpr hfinite, generator, hgenerator, (hrepetitions _ _).mpr hfinite⟩

/-- The standard configuration with infinitely many repetitions in the mean. -/
def infiniteMean : Config := { Config.standard with repetition := .float Double.infinity }

/-- The infinite mean of `--repeat inf` passes the check, and no draw of it returns. -/
theorem infinite_mean_accepted :
    ∃ settings : CommandLine.Settings,
      (∀ digitLimit,
        CommandLine.Request.ofArguments digitLimit ["grammar.json", "--repeat", "inf"] =
          .ok (.run "grammar.json" settings)) ∧
        settings.config.validate = .ok settings.config ∧
        ∀ decay : ℚ → ℚ,
          ¬ Returns (Draw.poisson (.ofNumber settings.config.repetition : Exact decay))
            (.ofWords []) fun _ => 0 := by
  have hvalid : infiniteMean.validate = .ok infiniteMean := by with_unfolding_all rfl
  have hinfinite : infiniteMean.repetition.isInfinite = true := by decide +kernel
  refine ⟨{ CommandLine.Settings.standard with config := infiniteMean },
    fun _ => by with_unfolding_all rfl, hvalid,
    fun decay => not_returns (Draw.poisson_endless ?_ ?_) _⟩
  · rw [Exact.lt_ofNumber, Config.not_lt_of_validate_eq_ok hvalid]
  · exact (Exact.isInfinite_ofNumber _).trans hinfinite

end Campaign

end GrammarFuzz

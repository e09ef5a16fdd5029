import GrammarFuzz.Proofs.Generator.Weights
import GrammarFuzz.Proofs.Grammar.Postorder
import GrammarFuzz.Proofs.Random.Slices

/-!
# The slices of alternatives

Below the maximal depth each alternative of a choice has a slice of the fractions from zero to below
one, as long as its weight is among the weights of all.  The slices are disjoint and leave no gap,
so whatever fraction is drawn there is one alternative to take, and the generator takes it
(`choose_slices`).

The weights are those of the depths, whether they are looked up or made anew (`Weighed`), and to
make them needs no words.  So the fraction is the first thing that a choice draws.
-/

namespace GrammarFuzz

/-- The alternatives of a choice are different rules. -/
theorem Grammar.IsLoaded.members_nodup {grammar : Grammar} (hloaded : grammar.IsLoaded)
    {rule : Rule} (hrule : rule ∈ grammar.rules) : rule.members.Nodup := by
  have hparts := (List.nodup_flatMap.mp (List.nodup_append.mp hloaded.references_nodup).1).1
  exact (List.nodup_append.mp (hparts rule (Array.mem_toList_iff.mpr hrule))).1

namespace Generator

open Grammar
open GrammarFuzz.Random (Draw Source)

variable {decay : ℚ → ℚ} {generator : Generator (Exact decay)} {rule : Rule}
  {session : Session (Exact decay)}

/-- Weights are made without words. -/
theorem sampleWeights_source {S : Type} [Scalar S] (generator : Generator S) (rule : Rule)
    (source : Source) :
    Meets (fun session : Session S => session.source = source) (generator.sampleWeights rule)
      (fun _ => True) fun _ => True :=
  sampleWeights_meets
    (fun member _ => expectedDepthWithin_keeps (fun _ _ hsource => hsource) _ member [])
    (fun _ _ => trivial) (fun _ _ _ _ => trivial) fun _ _ hsource _ => hsource

/-- The weights of the alternatives of a rule as numbers. -/
noncomputable def amounts (grammar : Grammar) (rule : Rule) : List ℚ :=
  rule.members.map fun member => weightAmount (grammar.depth member)

@[simp] theorem length_amounts (grammar : Grammar) (rule : Rule) :
    (amounts grammar rule).length = rule.members.length :=
  List.length_map _

theorem amounts_pos (grammar : Grammar) (rule : Rule) :
    ∀ amount ∈ amounts grammar rule, 0 < amount := by
  intro amount hamount
  obtain ⟨member, -, rfl⟩ := List.mem_map.mp hamount
  exact weightAmount_pos (one_le_depth grammar member)

/-- Below the maximal depth a choice takes the alternative in whose slice the fraction lies. -/
theorem choose_of_inSlice (hwell : generator.grammar.WellFormed)
    (hdefined : generator.grammar.SymbolsDefined) (hrule : rule ∈ generator.grammar.rules)
    (hweighed : Weighed generator.grammar session) {depth : Int}
    (hdepth : generator.maxDepth < depth) {fraction : ℚ} {last : Source}
    (hunit : outcome (Draw.unit (Exact decay)) session.source = (.ok (.finite fraction), last))
    {place : Nat} (hplace : place < rule.members.length)
    (hslice : Draw.InSlice (amounts generator.grammar rule) fraction place) :
    (outcome (generator.choose rule depth) session).1 = .ok rule.members[place] := by
  have hvalue := sampleWeights_of_weighed hwell hdefined hrule hweighed
  have hkept := (sampleWeights_source generator rule session.source session rfl).kept
  have hweights : (rule.members.map fun member =>
      (.finite (weightAmount (generator.grammar.depth member)) : Exact decay)) =
        (amounts generator.grammar rule).map .finite := by
    rw [amounts, List.map_map]
    rfl
  rw [hweights] at hvalue
  have hdrawn : outcome (Draw.weighted rule.members
      ((amounts generator.grammar rule).map .finite : List (Exact decay))) session.source =
        (.ok rule.members[place], last) :=
    Draw.outcome_weighted (length_amounts _ _).symm (amounts_pos generator.grammar rule) hunit
      hplace hslice
  rw [choose, if_pos hdepth, outcome_bind_ok (Prod.ext hvalue rfl), outcome_draw, hkept, hdrawn]
  rfl

/-- **Below the maximal depth a choice takes an alternative for just the fractions in its slice**,
whatever was asked before.  The weights of the alternatives are the inverses of their expected
depths, where a fixed depth counts for an infinite one, and they are positive.  Every fraction from
zero to below one lies in one slice, its place is the one that the halving of the running sums
finds, and when the fraction is drawn the alternative at this place is taken. -/
theorem choose_slices (generator : Generator (Exact decay)) (hloaded : generator.grammar.IsLoaded)
    (hdefined : generator.grammar.SymbolsDefined) (source : Source) (calls : List Call)
    (hcalls : ∀ call ∈ calls, call.About generator.grammar ∧ call.Plain) (rule : Rule)
    (hrule : rule ∈ generator.grammar.rules) (hkind : rule.kind = .choice) (depth : Int)
    (hdepth : generator.maxDepth < depth) :
    ∃ (depths : Rule → Depth) (weights : List ℚ),
      (∀ member ∈ rule.members,
        (outcome (generator.expectedDepth member []) (generator.after calls (.fresh source))).1 =
          .ok (Exact.ofDepth (depths member))) ∧
      weights = rule.members.map (fun member => 1 / WithTop.untopD 1000 (depths member)) ∧
      (∀ weight ∈ weights, 0 < weight) ∧
      (∀ place (hplace : place < weights.length) fraction,
        (Draw.InSlice weights fraction place ↔
          Draw.share weights place / Draw.share weights weights.length ≤ fraction ∧
            fraction < Draw.share weights place / Draw.share weights weights.length +
              weights[place] / Draw.share weights weights.length) ∧
          (Draw.InSlice weights fraction place → 0 ≤ fraction ∧ fraction < 1)) ∧
      (∀ fraction : ℚ, 0 ≤ fraction → fraction < 1 →
        (∃! place, place < rule.members.length ∧ Draw.InSlice weights fraction place) ∧
          ∀ place < rule.members.length,
            (Draw.landing decay weights fraction = place ↔ Draw.InSlice weights fraction place)) ∧
      ∀ fraction last,
        outcome (Draw.unit (Exact decay)) (generator.after calls (.fresh source)).source =
          (.ok (.finite fraction), last) →
        0 ≤ fraction ∧ fraction < 1 ∧ ∀ place (hplace : place < rule.members.length),
          ((outcome (generator.choose rule depth) (generator.after calls (.fresh source))).1 =
              .ok rule.members[place] ↔
            Draw.InSlice weights fraction place) := by
  have hwell := hloaded.wellFormed
  have hweighed : Weighed generator.grammar (generator.after calls (.fresh source)) :=
    learned_after hwell (isEstimate_of_symbolsDefined hwell hdefined) source hcalls
  have hpositive := amounts_pos generator.grammar rule
  have hlength := length_amounts generator.grammar rule
  have hne : amounts generator.grammar rule ≠ [] := by
    have hshaped := hwell.arena.shaped hrule
    simp only [Rule.Shaped, hkind] at hshaped
    exact List.map_eq_nil_iff.not.mpr hshaped.1
  refine ⟨generator.grammar.depth, amounts generator.grammar rule, fun member hmember => ?_, ?_,
    hpositive, fun place hplace fraction =>
      ⟨Draw.inSlice_iff hpositive hplace, Draw.InSlice.bounds hpositive hplace⟩,
    fun fraction hfraction hbelow => ⟨?_, fun place hplace => ?_⟩,
    fun fraction last hunit => ?_⟩
  · exact expectedDepth_of_weighed hwell hdefined (hwell.arena.part_mem hrule (Or.inl hmember))
      hweighed
  · simp only [amounts, weightAmount, infiniteDepthWeight, Nat.cast_ofNat]
  · rw [← hlength]
    exact Draw.existsUnique_inSlice hpositive hne hfraction hbelow
  · exact Draw.landing_eq_iff hpositive hfraction hbelow (hlength.symm ▸ hplace)
  · obtain ⟨drawn, hdrawn, hfraction, hbelow⟩ :=
      Draw.unit_meets.of_ok trivial (congrArg Prod.fst hunit)
    cases hdrawn
    refine ⟨hfraction, hbelow, fun place hplace => ⟨fun hchosen => ?_, fun hslice => ?_⟩⟩
    · -- the fraction has a slice, and the alternatives are different rules
      obtain ⟨other, hother, hslice⟩ := Draw.exists_inSlice hpositive hne hfraction hbelow
      rw [hlength] at hother
      have htaken := choose_of_inSlice hwell hdefined hrule hweighed hdepth hunit hother hslice
      have hsame : rule.members[place] = rule.members[other] :=
        Except.ok.inj (hchosen.symm.trans htaken)
      rwa [(hloaded.members_nodup hrule).getElem_inj_iff.mp hsame]
    · exact choose_of_inSlice hwell hdefined hrule hweighed hdepth hunit hplace hslice

/-- In the small grammar the letter weighs 1 and a word again one thousandth, so nothing but a
fraction close to one leads to a word again. -/
theorem choose_slices_chain :
    Grammar.chain.IsLoaded ∧ Grammar.chain.SymbolsDefined ∧ Chain.word ∈ Grammar.chain.rules ∧
      Draw.InSlice [1, 1 / 1000] ((9007199254740991 : Nat) / 9007199254740992) 1 ∧
      (outcome ((chain : Generator (Exact fun _ => 0)).choose Chain.word 1)
        (.fresh (.ofWords [4294967295, 4294967295]))).1 = .ok Chain.again := by
  have hword : Chain.word ∈ Grammar.chain.rules := by simp [Grammar.chain]
  obtain ⟨depths, weights, hdepths, hweights, -, -, -, hchosen⟩ :=
    choose_slices (chain : Generator (Exact fun _ => 0)) chain_isLoaded chain_symbolsDefined
      (.ofWords [4294967295, 4294967295]) [] (by simp) Chain.word hword rfl 1 (by decide)
  have hone : depths Chain.letter = 1 := by
    have hletter : Chain.letter ∈ Chain.word.members := by simp [Chain.word]
    refine Exact.ofDepth_injective (Except.ok.inj ((hdepths _ hletter).symm.trans ?_))
    rw [Exact.ofDepth_one]
    with_unfolding_all rfl
  have htop : depths Chain.again = ⊤ := by
    have hagain : Chain.again ∈ Chain.word.members := by simp [Chain.word]
    refine Exact.ofDepth_injective (Except.ok.inj ((hdepths _ hagain).symm.trans ?_))
    with_unfolding_all rfl
  have hslice :
      Draw.InSlice [1, 1 / 1000] ((9007199254740991 : Nat) / 9007199254740992) 1 := by
    norm_num [Draw.InSlice, Draw.share]
  have heq : weights = [1, 1 / 1000] := by
    rw [hweights]
    show [1 / WithTop.untopD 1000 (depths Chain.letter),
      1 / WithTop.untopD 1000 (depths Chain.again)] = _
    rw [hone, htop, WithTop.untopD_one, WithTop.untopD_top, div_one]
  have hunit : outcome (Draw.unit (Exact fun _ => 0))
      (.ofWords [4294967295, 4294967295]) =
        (.ok (.finite ((9007199254740991 : Nat) / 9007199254740992)),
          .scripted [4294967295, 4294967295] []) := by
    with_unfolding_all rfl
  have hplace := (hchosen _ _ hunit).2.2 1 (by decide)
  rw [heq] at hplace
  exact ⟨chain_isLoaded, chain_symbolsDefined, hword, hslice, hplace.mpr hslice⟩

end Generator

end GrammarFuzz

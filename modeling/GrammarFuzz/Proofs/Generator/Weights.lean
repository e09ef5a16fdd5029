import GrammarFuzz.Proofs.Generator.Depth
import Mathlib.Tactic.NormNum.Ineq

/-!
# Weights of alternatives

The weight of an alternative is the inverse of its depth, so an alternative that is not as deep as
another one should weigh at least as much.  It does, with one exception.  An endless alternative has
no inverse depth to weigh by, and a fixed depth counts for it.  Past that depth an alternative that
ends weighs less than one that does not (`weightAmount_le_iff`, `sampleWeights_order`).

The exception does occur.  Each rule of the tower is a name for the one below, so the depth of the
top is as great as one likes, and the choice between the top and the choice itself favours the
latter (`tower_favours_endless`).
-/

namespace GrammarFuzz

namespace Generator

open Grammar

/-! ## The amounts of weights -/

section Amounts

variable {decay : ℚ → ℚ} {depth other : Depth}

/-- The weight of a depth as a number; a fixed depth counts for an infinite one. -/
def weightAmount (depth : Depth) : ℚ := 1 / WithTop.untopD (infiniteDepthWeight : ℚ) depth

@[simp] theorem weightAmount_top : weightAmount ⊤ = 1 / 1000 := rfl

@[simp] theorem weightAmount_coe (value : ℚ) : weightAmount (value : Depth) = 1 / value := rfl

theorem weightOfDepth_ofDepth (hdepth : 1 ≤ depth) :
    weightOfDepth (Exact.ofDepth depth : Exact decay) = .finite (weightAmount depth) := by
  induction depth using WithTop.recTopCoe with
  | top =>
      simp [weightOfDepth, infiniteDepthWeight, Scalar.isInfinite, Scalar.div, Scalar.ofNat,
        Exact.div]
  | coe value =>
      have hone : 1 ≤ value := by exact_mod_cast hdepth
      have hne : value ≠ 0 := (zero_lt_one.trans_le hone).ne'
      simp [weightOfDepth, Scalar.isInfinite, Scalar.div, Scalar.ofNat, Exact.div, hne]

theorem weightAmount_pos (hdepth : 1 ≤ depth) : 0 < weightAmount depth := by
  induction depth using WithTop.recTopCoe with
  | top =>
      rw [weightAmount_top]
      norm_num
  | coe value =>
      have hone : 1 ≤ value := by exact_mod_cast hdepth
      exact one_div_pos.mpr (zero_lt_one.trans_le hone)

theorem weightAmount_le_one (hdepth : 1 ≤ depth) : weightAmount depth ≤ 1 := by
  induction depth using WithTop.recTopCoe with
  | top =>
      rw [weightAmount_top]
      exact (div_le_one (by norm_num)).mpr (by norm_num)
  | coe value =>
      have hone : 1 ≤ value := by exact_mod_cast hdepth
      exact (div_le_one (zero_lt_one.trans_le hone)).mpr hone

/-- **What is deeper weighs no more, unless it is endless and the other one ends past the depth that
counts for endless ones.** -/
theorem weightAmount_le_iff (hdepth : 1 ≤ depth) (hle : depth ≤ other) :
    weightAmount other ≤ weightAmount depth ↔
      ¬ ((infiniteDepthWeight : Depth) < depth ∧ depth < ⊤ ∧ other = ⊤) := by
  induction depth using WithTop.recTopCoe with
  | top =>
      rw [top_le_iff.mp hle]
      exact iff_of_true le_rfl fun hexception => hexception.2.1.false
  | coe value =>
      have hone : 1 ≤ value := by exact_mod_cast hdepth
      have hpositive : 0 < value := zero_lt_one.trans_le hone
      induction other using WithTop.recTopCoe with
      | top =>
          -- infinity is greater, but what counts for it need not be
          have hcast : (infiniteDepthWeight : Depth) < value ↔ (1000 : ℚ) < value := by
            exact_mod_cast Iff.rfl
          rw [weightAmount_top, weightAmount_coe, one_div_le_one_div (by norm_num) hpositive, hcast]
          simp
      | coe more =>
          have hmore : value ≤ more := WithTop.coe_le_coe.mp hle
          exact iff_of_true (one_div_le_one_div_of_le hpositive hmore)
            fun hexception => WithTop.coe_ne_top hexception.2.2

end Amounts

/-! ## The weights of a rule -/

section Rules

variable {decay : ℚ → ℚ} {generator : Generator (Exact decay)} {rule : Rule}
  {session : Session (Exact decay)}

/-- The depths that are kept are those of the rules, and the weights are those of their depths. -/
abbrev Weighed (grammar : Grammar) (session : Session (Exact decay)) : Prop :=
  Learned grammar (fun _ => True) (fun rule depth => depth = Exact.ofDepth (grammar.depth rule))
    session

theorem expectedDepth_of_weighed (hwell : generator.grammar.WellFormed)
    (hdefined : generator.grammar.SymbolsDefined) (hrule : rule ∈ generator.grammar.rules)
    (hweighed : Weighed generator.grammar session) :
    (outcome (generator.expectedDepth rule []) session).1 =
      .ok (Exact.ofDepth (generator.grammar.depth rule)) := by
  have hmeets := (expectedDepth_right hwell (isEstimate_of_symbolsDefined hwell hdefined)
    (Learned.remembers hwell) hrule).mono (fun _ hdepth => hdepth trivial)
    fun _ hnot => hnot trivial
  obtain ⟨depth, last, houtcome, -, rfl⟩ := hmeets.exists_ok hweighed
  rw [houtcome]

theorem sampleWeights_of_weighed (hwell : generator.grammar.WellFormed)
    (hdefined : generator.grammar.SymbolsDefined) (hrule : rule ∈ generator.grammar.rules)
    (hweighed : Weighed generator.grammar session) :
    (outcome (generator.sampleWeights rule) session).1 =
      .ok (rule.members.map fun member =>
        .finite (weightAmount (generator.grammar.depth member))) := by
  have hmeets := (sampleWeights_right hwell (isEstimate_of_symbolsDefined hwell hdefined)
    hrule).mono (fun _ hweights => hweights trivial) fun _ hnot => hnot trivial
  obtain ⟨weights, last, houtcome, -, hweights⟩ := hmeets.exists_ok hweighed
  have heq : weights =
      rule.members.map fun member => .finite (weightAmount (generator.grammar.depth member)) := by
    rw [← List.forall₂_eq_eq_eq, List.forall₂_map_right_iff]
    refine hweights.flip.imp fun weight member hweight => ?_
    obtain ⟨depth, rfl, rfl⟩ := hweight
    exact weightOfDepth_ofDepth (one_le_depth _ member)
  rw [houtcome, heq]

/-- **An alternative that is not as deep as another one weighs at least as much, unless it ends past
the depth that counts for endless ones and the other one is endless.**  This is so after any plain
calls, and in the excepted case it weighs less. -/
theorem sampleWeights_order (generator : Generator (Exact decay))
    (hloaded : generator.grammar.IsLoaded) (hdefined : generator.grammar.SymbolsDefined)
    (source : Random.Source) (calls : List Call)
    (hcalls : ∀ call ∈ calls, call.About generator.grammar ∧ call.Plain) (rule : Rule)
    (hrule : rule ∈ generator.grammar.rules) :
    ∃ (depth : Rule → Depth) (weight : Rule → ℚ),
      (∀ member ∈ rule.members,
        (outcome (generator.expectedDepth member []) (generator.after calls (.fresh source))).1 =
            .ok (Exact.ofDepth (depth member)) ∧
          (depth member = ⊤ ↔ generator.grammar.Endless member)) ∧
      (outcome (generator.sampleWeights rule) (generator.after calls (.fresh source))).1 =
        .ok (rule.members.map fun member => .finite (weight member)) ∧
      ∀ a ∈ rule.members, ∀ b ∈ rule.members, depth a ≤ depth b →
        (weight b ≤ weight a ↔
          ¬ ((infiniteDepthWeight : Depth) < depth a ∧ depth a < ⊤ ∧ depth b = ⊤)) := by
  have hwell := hloaded.wellFormed
  have hweighed : Weighed generator.grammar (generator.after calls (.fresh source)) :=
    learned_after hwell (isEstimate_of_symbolsDefined hwell hdefined) source hcalls
  refine ⟨generator.grammar.depth, fun member => weightAmount (generator.grammar.depth member),
    fun member hmember => ⟨?_, depth_eq_top_iff⟩,
    sampleWeights_of_weighed hwell hdefined hrule hweighed, fun a _ b _ hle => ?_⟩
  · exact expectedDepth_of_weighed hwell hdefined (hwell.arena.part_mem hrule (Or.inl hmember))
      hweighed
  · exact weightAmount_le_iff (one_le_depth _ a) hle

/-- In the small grammar a word again, which is endless, weighs no more than the letter. -/
theorem sampleWeights_order_chain :
    Grammar.chain.IsLoaded ∧ Grammar.chain.SymbolsDefined ∧ Chain.word ∈ Grammar.chain.rules ∧
      ∃ letter again : ℚ,
        (outcome ((chain : Generator (Exact fun _ => 0)).sampleWeights Chain.word)
          (.fresh (.ofWords []))).1 = .ok [.finite letter, .finite again] ∧ again ≤ letter := by
  have hword : Chain.word ∈ Grammar.chain.rules := by simp [Grammar.chain]
  obtain ⟨depth, weight, hdepths, hweights, horder⟩ :=
    sampleWeights_order (chain : Generator (Exact fun _ => 0)) chain_isLoaded chain_symbolsDefined
      (.ofWords []) [] (by simp) Chain.word hword
  have hletter : Chain.letter ∈ Chain.word.members := by simp [Chain.word]
  have hagain : Chain.again ∈ Chain.word.members := by simp [Chain.word]
  have hone : depth Chain.letter = 1 := by
    refine Exact.ofDepth_injective (Except.ok.inj ((hdepths _ hletter).1.symm.trans ?_))
    rw [Exact.ofDepth_one]
    with_unfolding_all rfl
  have htop : depth Chain.again = ⊤ := by
    refine Exact.ofDepth_injective (Except.ok.inj ((hdepths _ hagain).1.symm.trans ?_))
    with_unfolding_all rfl
  refine ⟨chain_isLoaded, chain_symbolsDefined, hword, _, _, hweights, ?_⟩
  refine (horder _ hletter _ hagain (by rw [htop]; exact le_top)).mpr fun hexception => ?_
  rw [hone] at hexception
  exact absurd hexception.1 (by norm_num [infiniteDepthWeight])

end Rules

end Generator

/-! ## The tower -/

namespace Grammar

namespace Tower

/-- The choice once more. -/
def again : Rule := ⟨0, .symbol, .null, .text "S", [], none⟩

/-- The name of the highest floor. -/
def top (height : Nat) : Rule := ⟨1, .symbol, .null, .text (toString height), [], none⟩

/-- The choice between itself and the tower. -/
def choice (height : Nat) : Rule := ⟨2, .choice, .null, .null, [again, top height], none⟩

/-- A floor: the ground is blank, and every other floor is the name of the one below. -/
def floor (index : Nat) : (level : Nat) → Rule
  | 0 => ⟨index, .blank, .null, .null, [], none⟩
  | level + 1 => ⟨index, .symbol, .null, .text (toString level), [], none⟩

/-- The definitions of the floors from a level down. -/
def floors (index : Nat) : (level : Nat) → List (String × Rule)
  | 0 => [(toString 0, floor index 0)]
  | level + 1 => (toString (level + 1), floor index (level + 1)) :: floors (index + 1) level

end Tower

open Tower in
/-- A grammar of a choice between itself and a tower of this height. -/
def tower (height : Nat) : Grammar :=
  ⟨.null, [], #[again, top height, choice height] ++ ((floors 3 height).map (·.2)).toArray,
    ("S", choice height) :: floors 3 height⟩

namespace Tower

/-- The document of a symbol. -/
def symbolDocument (name : String) : Json :=
  .object [("type", .text "SYMBOL"), ("name", .text name)]

/-- The document of the choice. -/
def choiceDocument (height : Nat) : Json :=
  .object [("type", .text "CHOICE"),
    ("members", .list [symbolDocument "S", symbolDocument (toString height)])]

/-- The document of a floor. -/
def floorDocument : (level : Nat) → Json
  | 0 => .object [("type", .text "BLANK")]
  | level + 1 => symbolDocument (toString level)

/-- The documents of the floors from a level down. -/
def floorDocuments : (level : Nat) → List (String × Json)
  | 0 => [(toString 0, floorDocument 0)]
  | level + 1 => (toString (level + 1), floorDocument (level + 1)) :: floorDocuments level

theorem rule_symbol (place : Place) (name : String) :
    Reader.rule place (symbolDocument name) = Reader.create .symbol .null (.text name) [] none := by
  rw [symbolDocument, Reader.rule]
  rfl

theorem rule_choice (place : Place) (height : Nat) :
    Reader.rule place (choiceDocument height) = (do
      let again ← Reader.create .symbol .null (.text "S") [] none
      let top ← Reader.create .symbol .null (.text (toString height)) [] none
      Reader.create .choice .null .null [again, top] none) := by
  have hrules : Reader.rules place 0 [symbolDocument "S", symbolDocument (toString height)] = (do
      let again ← Reader.create .symbol .null (.text "S") [] none
      let top ← Reader.create .symbol .null (.text (toString height)) [] none
      return [again, top]) := by
    rw [Reader.rules, Reader.rules, Reader.rules, rule_symbol, rule_symbol]
    rfl
  rw [choiceDocument, Reader.rule_list place rfl rfl (Or.inr rfl)]
  show (Reader.rules place 0 [symbolDocument "S", symbolDocument (toString height)] >>=
    fun members => Reader.create .choice .null .null members none) = _
  rw [hrules]
  rfl

theorem run_floor (place : Place) (level : Nat) (rules : Array Rule) :
    (Reader.rule place (floorDocument level)).run rules =
      .ok (floor rules.size level, rules.push (floor rules.size level)) := by
  cases level with
  | zero =>
      rw [floorDocument, Reader.rule]
      rfl
  | succ level =>
      rw [floorDocument, rule_symbol]
      rfl

theorem run_floors (level : Nat) (rules : Array Rule) :
    (Reader.definitions (floorDocuments level)).run rules =
      .ok (floors rules.size level, rules ++ ((floors rules.size level).map (·.2)).toArray) := by
  induction level generalizing rules with
  | zero =>
      rw [floorDocuments, Reader.definitions, StateT.run_bind, run_floor]
      simp [floors, Reader.definitions]
  | succ level ih =>
      rw [floorDocuments, Reader.definitions, StateT.run_bind, run_floor]
      -- the floors below are read with one more rule in the arena
      show ((Reader.definitions (floorDocuments level)).run
        (rules.push (floor rules.size (level + 1))) >>= fun pair =>
          Except.ok ((toString (level + 1), floor rules.size (level + 1)) :: pair.1, pair.2)) = _
      rw [ih, Array.size_push]
      show Except.ok ((toString (level + 1), floor rules.size (level + 1)) ::
        floors (rules.size + 1) level, rules.push (floor rules.size (level + 1)) ++
          ((floors (rules.size + 1) level).map (·.2)).toArray) = _
      simp [floors]

end Tower

open Tower in
/-- The document of the grammar of the tower. -/
def towerDocument (height : Nat) : Json :=
  .object [("rules", .object (("S", choiceDocument height) :: floorDocuments height))]

theorem ofDocument_tower (height : Nat) :
    ofDocument (towerDocument height) = .ok (tower height) := by
  have hdefinitions : (Reader.definitions
      (("S", Tower.choiceDocument height) :: Tower.floorDocuments height)).run #[] =
        .ok ((tower height).definitions, (tower height).rules) := by
    rw [Reader.definitions, Tower.rule_choice]
    show ((Reader.definitions (Tower.floorDocuments height)).run
      #[Tower.again, Tower.top height, Tower.choice height] >>= fun pair =>
        Except.ok (("S", Tower.choice height) :: pair.1, pair.2)) = _
    rw [Tower.run_floors]
    rfl
  show ((Reader.definitions
    (("S", Tower.choiceDocument height) :: Tower.floorDocuments height)).run #[] >>= fun pair =>
      Except.ok (⟨.null, [], pair.2, pair.1⟩ : Grammar)) = _
  rw [hdefinitions]
  rfl

variable {height level : Nat}

namespace Tower

theorem text_injective {first second : Nat} (htext : toString first = toString second) :
    first = second := by
  have hvalue := congrArg (fun text => Nat.ofDigitChars 10 text.toList 0) htext
  simpa only [Nat.toString_eq_ofList_toDigits, String.toList_ofList,
    Nat.ofDigitChars_ten_toDigits] using hvalue

theorem text_ne_start (level : Nat) : "S" ≠ toString level := by
  intro htext
  have hchars : ['S'] = Nat.toDigits 10 level := by
    rw [Nat.toString_eq_ofList_toDigits] at htext
    exact (congrArg String.toList htext).trans String.toList_ofList
  have hdigit : 'S'.isDigit = true :=
    Nat.isDigit_of_mem_toDigits (by omega) (by omega) (hchars ▸ List.mem_cons_self)
  exact Bool.false_ne_true hdigit

theorem definition?_floors (hlevel : level ≤ height) (index : Nat) :
    ∃ place, definition? (toString level) (floors index height) = some (floor place level) := by
  induction height generalizing index with
  | zero =>
      obtain rfl := Nat.le_zero.mp hlevel
      exact ⟨index, by rw [floors, definition?, if_pos rfl]⟩
  | succ height ih =>
      rcases hlevel.eq_or_lt with rfl | hlt
      · exact ⟨index, by rw [floors, definition?, if_pos rfl]⟩
      · have hne : toString (height + 1) ≠ toString level := fun htext => by
          have := text_injective htext
          omega
        rw [floors, definition?, if_neg hne]
        exact ih (Nat.le_of_lt_succ hlt) (index + 1)

theorem shaped_floor (index level : Nat) : (floor index level).Shaped := by
  cases level <;> exact ⟨rfl, rfl⟩

theorem mem_floors {name : String} {rule : Rule} {index : Nat}
    (hmem : (name, rule) ∈ floors index height) :
    ∃ place level, level ≤ height ∧ rule = floor place level := by
  induction height generalizing index with
  | zero =>
      rw [floors, List.mem_singleton] at hmem
      exact ⟨index, 0, le_rfl, (Prod.mk.inj hmem).2⟩
  | succ height ih =>
      rw [floors] at hmem
      rcases List.mem_cons.mp hmem with heq | hmem
      · exact ⟨index, height + 1, le_rfl, (Prod.mk.inj heq).2⟩
      · obtain ⟨place, level, hle, heq⟩ := ih hmem
        exact ⟨place, level, hle.trans (Nat.le_succ _), heq⟩

end Tower

open Tower

/-- The name of a floor stands for it. -/
theorem lookup_tower (hlevel : level ≤ height) :
    ∃ place, (tower height).lookup (.text (toString level)) = .ok (floor place level) := by
  obtain ⟨place, hplace⟩ := definition?_floors hlevel 3
  refine ⟨place, lookup_text ?_⟩
  rw [resolve?, tower, definition?, if_neg (text_ne_start level), hplace]

theorem tower_symbolsDefined (height : Nat) : (tower height).SymbolsDefined := by
  intro rule hrule hkind
  have hcases : rule = again ∨ rule = top height ∨ rule = choice height ∨
      ∃ name, (name, rule) ∈ floors 3 height := by
    simpa [tower] using hrule
  -- the top and every floor but the ground are symbols for a floor
  rcases hcases with rfl | rfl | rfl | ⟨name, hmem⟩
  · exact ⟨choice height, rfl⟩
  · exact (lookup_tower le_rfl).imp' _ fun _ => id
  · cases hkind
  · obtain ⟨place, level, hle, rfl⟩ := mem_floors hmem
    cases level with
    | zero => cases hkind
    | succ level =>
        obtain ⟨below, hbelow⟩ := lookup_tower (Nat.le_of_succ_le hle)
        exact ⟨_, hbelow⟩

/-- Each floor is one deeper than the one below. -/
theorem depth_floor (hlevel : level ≤ height) (index : Nat) :
    (tower height).depth (floor index level) = ((level + 1 : Nat) : Depth) := by
  induction level generalizing index with
  | zero =>
      rw [depth_eq (shaped_floor index 0), Depth.above_terminal rfl]
      rfl
  | succ level ih =>
      have hbelow : level ≤ height := Nat.le_of_succ_le hlevel
      obtain ⟨place, hplace⟩ := lookup_tower hbelow
      rw [depth_eq (shaped_floor index _), Depth.above_symbol rfl hplace, ih hbelow place,
        Nat.cast_succ (level + 1), add_comm]

theorem depth_top (height : Nat) :
    (tower height).depth (top height) = ((height + 2 : Nat) : Depth) := by
  obtain ⟨place, hplace⟩ := lookup_tower (le_refl height)
  have hshaped : (top height).Shaped := ⟨rfl, rfl⟩
  rw [depth_eq hshaped, Depth.above_symbol rfl hplace, depth_floor le_rfl place,
    Nat.cast_succ (height + 1), add_comm]

theorem depth_again (height : Nat) : (tower height).depth again = ⊤ := by
  have hreaches : (tower height).ReachesName (choice height) "S" :=
    ⟨again, .single (Or.inl (Or.inl (by simp [choice]))), rfl, rfl⟩
  exact depth_of_endless ⟨"S", choice height, ⟨again, .refl, rfl, rfl⟩, rfl, hreaches⟩

end Grammar

namespace Generator

open Grammar

section Tower

variable {decay : ℚ → ℚ}

/-- A generator of the tower. -/
def tower (height : Nat) : Generator (Exact decay) :=
  ⟨Grammar.tower height, 10, .finite 5, 5, Interpreter.plain⟩

theorem tower_isLoaded (height : Nat) : (Grammar.tower height).IsLoaded :=
  .document (ofDocument_tower height)

/-- The top of the tower has a depth and weighs its inverse. -/
theorem sampleWeights_tower (height : Nat) (source : Random.Source) :
    (outcome ((tower height : Generator (Exact decay)).expectedDepth (Tower.top height) [])
        (.fresh source)).1 = .ok (.finite (height + 2 : Nat)) ∧
      (outcome ((tower height : Generator (Exact decay)).expectedDepth Tower.again [])
        (.fresh source)).1 = .ok (.infinite false) ∧
      (outcome ((tower height : Generator (Exact decay)).sampleWeights (Tower.choice height))
        (.fresh source)).1 = .ok [.finite (1 / 1000), .finite (1 / (height + 2 : Nat))] := by
  have hwell : (tower height : Generator (Exact decay)).grammar.WellFormed :=
    (tower_isLoaded height).wellFormed
  have hdefined : (tower height : Generator (Exact decay)).grammar.SymbolsDefined :=
    tower_symbolsDefined height
  have hweighed : Weighed (tower height : Generator (Exact decay)).grammar
      (.fresh source : Session (Exact decay)) := learned_fresh _ _ _ source
  refine ⟨?_, ?_, ?_⟩
  · rw [expectedDepth_of_weighed hwell hdefined (by simp [tower, Grammar.tower]) hweighed]
    show Except.ok (Exact.ofDepth ((Grammar.tower height).depth (Tower.top height))) = _
    rw [depth_top]
    rfl
  · rw [expectedDepth_of_weighed hwell hdefined (by simp [tower, Grammar.tower]) hweighed]
    show Except.ok (Exact.ofDepth ((Grammar.tower height).depth Tower.again)) = _
    rw [depth_again]
    rfl
  · rw [sampleWeights_of_weighed hwell hdefined (by simp [tower, Grammar.tower]) hweighed]
    show Except.ok [Exact.finite (weightAmount ((Grammar.tower height).depth Tower.again)),
      .finite (weightAmount ((Grammar.tower height).depth (Tower.top height)))] = _
    rw [depth_again, depth_top]
    rfl

/-- **The choice between itself and a high tower favours itself.**  The top of the tower has depth
1002, and it weighs less than the choice once more, of which there is no end. -/
theorem tower_favours_endless :
    (Grammar.tower 1000).IsLoaded ∧ (Grammar.tower 1000).SymbolsDefined ∧
      Tower.choice 1000 ∈ (Grammar.tower 1000).rules ∧ (Tower.choice 1000).kind = .choice ∧
      (Tower.choice 1000).members = [Tower.again, Tower.top 1000] ∧
      ∀ source,
        (outcome ((tower 1000 : Generator (Exact fun _ => 0)).expectedDepth (Tower.top 1000) [])
            (.fresh source)).1 = .ok (.finite 1002) ∧
          (outcome ((tower 1000 : Generator (Exact fun _ => 0)).expectedDepth Tower.again [])
            (.fresh source)).1 = .ok (.infinite false) ∧
          (outcome ((tower 1000 : Generator (Exact fun _ => 0)).sampleWeights (Tower.choice 1000))
            (.fresh source)).1 = .ok [.finite (1 / 1000), .finite (1 / 1002)] ∧
          ¬ (1 / 1000 : ℚ) ≤ 1 / 1002 := by
  refine ⟨tower_isLoaded 1000, tower_symbolsDefined 1000, by simp [Grammar.tower], rfl, rfl,
    fun source => ?_⟩
  obtain ⟨htop, hagain, hweights⟩ := sampleWeights_tower 1000 source
  exact ⟨htop, hagain, hweights, not_le.mpr (one_div_lt_one_div_of_lt (by norm_num) (by norm_num))⟩

end Tower

end Generator

end GrammarFuzz

import GrammarFuzz.Proofs.Generator.Derivation
import GrammarFuzz.Proofs.Pattern.Failures

/-!
# Trees in reach

Whatever a derivation asks for can be had one draw after the other, as long as its choices stand
where alternatives have equal chances: the words of the draws, from the root down and from left to
right, are a script on which a fresh generator gives just this derivation
(`exists_words_generate`).

The script is built along the derivation.  The draws that come later play no role for the words of
a draw, because every draw depends on nothing but the words that it reads.
-/

namespace GrammarFuzz

/-- A node stands at a depth of a tree whose root stands at the depth `start`. -/
inductive Tree.AtDepth (node : Tree) (depth : Int) : (start : Int) → Tree → Prop where
  | root : AtDepth node depth depth node
  | child {start : Int} {kind : RuleKind} {children : List Tree} {child : Tree}
      (hchild : child ∈ children) (hnode : AtDepth node depth (start + 1) child) :
      AtDepth node depth start (.branch kind children)

@[simp] theorem Tree.atDepth_leaf {node : Tree} {depth start : Int} {kind : RuleKind}
    {text : String} :
    node.AtDepth depth start (.leaf kind text) ↔ node = .leaf kind text ∧ depth = start := by
  constructor
  · rintro ⟨⟩
    exact ⟨rfl, rfl⟩
  · rintro ⟨rfl, rfl⟩
    exact .root

@[simp] theorem Tree.atDepth_branch {node : Tree} {depth start : Int} {kind : RuleKind}
    {children : List Tree} :
    node.AtDepth depth start (.branch kind children) ↔
      node = .branch kind children ∧ depth = start ∨
        ∃ child ∈ children, node.AtDepth depth (start + 1) child := by
  constructor
  · rintro (_ | ⟨hchild, hnode⟩)
    · exact Or.inl ⟨rfl, rfl⟩
    · exact Or.inr ⟨_, hchild, hnode⟩
  · rintro (⟨rfl, rfl⟩ | ⟨child, hchild, hnode⟩)
    · exact .root
    · exact .child hchild hnode

theorem Tree.depth_le_depthOfAll {children : List Tree} {child : Tree} (hchild : child ∈ children) :
    child.depth ≤ Tree.depthOfAll children := by
  induction children with
  | nil => exact absurd hchild List.not_mem_nil
  | cons first rest ih =>
      rw [Tree.depthOfAll]
      rcases List.mem_cons.mp hchild with rfl | hchild
      · exact Nat.le_max_left _ _
      · exact (ih hchild).trans (Nat.le_max_right _ _)

/-- A tree needs one level more than each of its children. -/
theorem Tree.exists_levels {tree : Tree} {levels : Nat} (hlevels : tree.depth ≤ levels) :
    ∃ below, levels = below + 1 ∧ ∀ child ∈ tree.children, child.depth ≤ below := by
  cases tree with
  | leaf kind text =>
      rw [Tree.depth] at hlevels
      exact ⟨levels - 1, by omega, fun child hchild => absurd hchild List.not_mem_nil⟩
  | branch kind children =>
      rw [Tree.depth] at hlevels
      refine ⟨levels - 1, by omega, fun child hchild => ?_⟩
      have hdepth : child.depth ≤ Tree.depthOfAll children := Tree.depth_le_depthOfAll hchild
      omega

namespace Generator

open Grammar
open GrammarFuzz.Random (Draw HoldsSource Reaches Reads)

variable {S : Type} {generator : Generator S} {invariant : Session S → Prop} {rule : Rule}

instance : HoldsSource (Session S) where
  source := Session.source
  hold session source := { session with source }
  source_hold _ _ := rfl
  hold_source _ := rfl
  hold_hold _ _ _ := rfl

/-! ## Levels -/

theorem times_extends {α : Type} {first second : Gen S α} (hstep : Extends first second)
    (count : Nat) : Extends (Gen.times first count) (Gen.times second count) := by
  induction count with
  | zero => exact Extends.refl _
  | succ count ih =>
      unfold Gen.times
      exact hstep.bind fun _ => ih.bind fun _ => .refl _

/-- More levels do not change a tree that has come about. -/
theorem expand_extends [Scalar S] (generator : Generator S) {levels more : Nat}
    (hmore : levels ≤ more) (rule : Rule) (depth : Int) :
    Extends (generator.expand levels rule depth) (generator.expand more rule depth) := by
  induction levels generalizing more rule depth with
  | zero => exact Extends.throw _ _
  | succ levels ih =>
      obtain ⟨more, rfl⟩ := Nat.exists_eq_add_one_of_ne_zero (Nat.ne_zero_of_lt hmore)
      have ih : ∀ rule depth, Extends (generator.expand levels rule depth)
          (generator.expand more rule depth) := ih (Nat.le_of_succ_le_succ hmore)
      rw [expand, expand]
      split
      · exact .refl _
      · exact .refl _
      · exact .refl _
      · exact Extends.bind (.refl _) fun _ => (ih _ _).bind fun _ => .refl _
      · exact Extends.bind (.mapM _ fun _ _ => ih _ _) fun _ => .refl _
      · exact Extends.bind (.refl _) fun _ => (ih _ _).bind fun _ => .refl _
      · exact .refl _
      · split
        · refine Extends.bind (.refl _) fun count => ?_
          exact Extends.bind (times_extends (Extends.bind (.refl _) fun _ => ih _ _) count)
            fun _ => .refl _
        · exact Extends.bind (.refl _) fun _ => (ih _ _).bind fun _ => .refl _

/-! ## Single draws -/

/-- Of the session a draw needs nothing but the source. -/
theorem draw_reaches {α : Type} {draw : Draw α} {value : α}
    (hdraw : Reaches (fun _ => True) draw value) : Reaches invariant (Gen.draw draw) value := by
  intro before hbefore
  obtain ⟨words, after, -, hreads⟩ := hdraw before.source trivial
  refine ⟨words, before, hbefore, fun first last hgives => ?_⟩
  have houtcome : outcome draw (HoldsSource.hold before first).source = (.ok value, last) :=
    hreads first last hgives
  rw [outcome_draw, houtcome]
  rfl

theorem times_reaches {α : Type} {step : Gen S α} {values : List α}
    (hstep : ∀ value ∈ values, Reaches invariant step value) :
    Reaches invariant (Gen.times step values.length) values := by
  induction values with
  | nil => exact .pure []
  | cons value rest ih =>
      rw [List.length_cons, Gen.times]
      have hrest := ih fun other hother => hstep other (List.mem_cons_of_mem _ hother)
      exact (hstep value (List.mem_cons_self ..)).bind (hrest.map _)

/-- Words lead a draw to a value. -/
def CanDraw {α : Type} (draw : Draw α) (value : α) : Prop :=
  ∃ words, (outcome draw (.ofWords words)).1 = .ok value

theorem CanDraw.reaches {α : Type} {draw : Draw α} {value : α} (hdraw : CanDraw draw value)
    (hlocal : Random.Local draw) : Reaches (fun _ => True) draw value := by
  intro before _
  obtain ⟨_, hvalue⟩ := hdraw
  obtain ⟨words, after, hreads⟩ := hlocal.exists_reads hvalue
  exact ⟨words, after, trivial, hreads⟩

/-- The text is one that the sampler of the pattern gives on some words, if it has given nothing
before. -/
def IsFreshText (generator : Generator S) (rule : Rule) (text : String) : Prop :=
  ∃ sampler, generator.IsSamplerOf rule sampler ∧
    ∃ words, (outcome sampler.sample ⟨.ofWords words, []⟩).1 = .ok text

/-- What is kept does not show in the texts of patterns: samplers are those of their patterns, and
no texts of groups are left. -/
structure Ready (generator : Generator S) (session : Session S) : Prop where
  samplers : SamplersRight generator session
  memories : ∀ index memory, session.memories.get? index = some memory → memory = []

theorem ready_fresh (generator : Generator S) (source : Random.Source) :
    Ready generator (.fresh source) where
  samplers := Table.RightFor.empty _ _
  memories _ _ hmemory := nomatch hmemory

theorem IsSamplerOf.unique {sampler other : Pattern.Sampler}
    (hsampler : generator.IsSamplerOf rule sampler) (hother : generator.IsSamplerOf rule other) :
    sampler = other := by
  obtain ⟨pattern, hpattern, hsampler⟩ := hsampler
  obtain ⟨pattern', hpattern', hother⟩ := hother
  cases hpattern.symm.trans hpattern'
  exact Except.ok.inj (hsampler.symm.trans hother)

/-- The sampler of a pattern needs no words, whether it was kept or not. -/
theorem patternSampler_reaches (hwell : generator.grammar.WellFormed)
    (hrule : rule ∈ generator.grammar.rules) {sampler : Pattern.Sampler}
    (hsampler : generator.IsSamplerOf rule sampler) :
    Reaches (Ready generator) (generator.patternSampler rule) sampler := by
  intro before hbefore
  cases hentry : before.samplers.get? rule.index with
  | some kept =>
      have hkept := hbefore.samplers.get? hwell hrule hentry
      refine ⟨[], before, hbefore, Reads.get_bind (fun _ => rfl) ?_⟩
      rw [hentry, hsampler.unique hkept]
      exact Reads.pure kept before
  | none =>
      refine ⟨[], { before with samplers := before.samplers.set rule.index sampler },
        ⟨hbefore.samplers.set hwell hrule hsampler, hbefore.memories⟩,
        Reads.get_bind (fun _ => rfl) ?_⟩
      obtain ⟨pattern, hpattern, hsampler⟩ := hsampler
      rw [hentry]
      dsimp only
      rw [hpattern]
      dsimp only
      rw [hsampler]
      exact Reads.modify_bind (fun _ => rfl) (Reads.pure sampler _)

theorem patternText_reaches (hwell : generator.grammar.WellFormed)
    (hrule : rule ∈ generator.grammar.rules) {text : String}
    (htext : generator.IsFreshText rule text) :
    Reaches (Ready generator) (generator.patternText rule) text := by
  obtain ⟨sampler, hsampler, _, htext⟩ := htext
  obtain ⟨words, after, hreads⟩ := sampler.drawsTexts.isLocal.exists_reads htext
  refine (patternSampler_reaches hwell hrule hsampler).bind fun before hbefore => ?_
  refine ⟨words, { before with memories := before.memories.set rule.index [] },
    ⟨hbefore.samplers, fun index memory hentry => ?_⟩, fun first last hgives => ?_⟩
  · rcases Table.get?_set_cases hentry with ⟨-, hmemory⟩ | hentry
    · exact hmemory
    · exact hbefore.memories _ _ hentry
  · -- no text of a group is left, neither before the text nor after it
    have hmemory : (before.memories.get? rule.index).getD [] = [] := by
      cases hentry : before.memories.get? rule.index with
      | none => rfl
      | some memory => exact hbefore.memories _ _ hentry
    have houtcome : outcome sampler.sample ⟨first, []⟩ = (.ok text, ⟨last, after.memory⟩) :=
      hreads first last hgives
    have hempty : after.memory = [] := (sampler.drawsTexts.memory_eq_nil houtcome :)
    rw [hempty] at houtcome
    have hrun : sampler.sample.run.run
        ⟨first, (before.memories.get? rule.index).getD []⟩ = (.ok text, ⟨last, []⟩) := by
      rw [hmemory]
      exact houtcome
    rw [outcome_get_bind]
    dsimp only [HoldsSource.hold]
    rw [hrun]
    rfl

/-- Alternatives that have equal chances are all in reach. -/
theorem choose_reaches [Scalar S] {depth : Int} (hdepth : depth ≤ generator.maxDepth) {chosen : Rule}
    (hchosen : chosen ∈ rule.members) :
    Reaches invariant (generator.choose rule depth) chosen := by
  unfold choose
  rw [if_neg (Int.not_lt.mpr hdepth)]
  exact draw_reaches ((Draw.pick_offers .emptyUniform rule.members).reaches hchosen)

theorem repetitions_reaches [Scalar S] {kind : RuleKind} {count : Nat}
    (hcount : CanDraw (Draw.poisson generator.meanRepeat) count) :
    Reaches invariant (generator.repetitions kind) (if kind = .many1 ∧ count = 0 then 1 else count) :=
  (draw_reaches (hcount.reaches (Draw.poisson_local _))).map _

/-! ## Whole trees -/

section Trees

variable [Scalar S]

/-- The choices of a tree stand where alternatives have equal chances, and the numbers of children
can be drawn. -/
structure Coverable (generator : Generator S) (start : Int) (tree : Tree) : Prop where
  choice : ∀ {depth : Int} {children : List Tree},
    Tree.AtDepth (.branch .choice children) depth start tree → depth ≤ generator.maxDepth
  many : ∀ {children : List Tree}, Tree.Within (.branch .many children) tree →
    CanDraw (Draw.poisson generator.meanRepeat) children.length
  /-- Where no number is drawn, there is one child. -/
  many1 : ∀ {children : List Tree}, Tree.Within (.branch .many1 children) tree →
    CanDraw (Draw.poisson generator.meanRepeat) children.length ∨
      children.length = 1 ∧ CanDraw (Draw.poisson generator.meanRepeat) 0

theorem Coverable.child {start : Int} {kind : RuleKind} {children : List Tree} {child : Tree}
    (hcoverable : Coverable generator start (.branch kind children)) (hchild : child ∈ children) :
    Coverable generator (start + 1) child where
  choice hnode := hcoverable.choice (.child hchild hnode)
  many hnode := hcoverable.many (.child hchild hnode)
  many1 hnode := hcoverable.many1 (.child hchild hnode)

/-- A repetition that may not be empty has one child where none is drawn. -/
theorem Coverable.many1_reaches {start : Int} {children : List Tree}
    (hcoverable : Coverable generator start (.branch .many1 children)) (hne : children ≠ []) :
    Reaches invariant (generator.repetitions .many1) children.length := by
  rcases hcoverable.many1 .root with hcount | ⟨hone, hzero⟩
  · have hreaches : Reaches invariant (generator.repetitions .many1) _ := repetitions_reaches hcount
    rwa [if_neg fun hboth => hne (List.length_eq_zero_iff.mp hboth.2)] at hreaches
  · have hreaches : Reaches invariant (generator.repetitions .many1) _ := repetitions_reaches hzero
    rwa [if_pos ⟨rfl, rfl⟩, ← hone] at hreaches

/-- Children of a content are in reach if each of them is. -/
theorem times_content_reaches {content : Rule} (hcontent : rule.content = some content)
    {levels : Nat} {depth : Int} {children : List Tree}
    (hchildren : ∀ child ∈ children,
      Reaches invariant (generator.expand levels content depth) child) :
    Reaches invariant
      (Gen.times (generator.contentOrStart rule >>= fun content =>
        generator.expand levels content depth) children.length)
      children := by
  rw [contentOrStart, hcontent]
  exact times_reaches hchildren

/-- **A derivation is in reach** if it can be covered and has no more levels than are allowed. -/
theorem expand_reaches (hwell : generator.grammar.WellFormed) {tree : Tree}
    (hderives : Derives generator.grammar generator.IsFreshText rule tree)
    (hrule : rule ∈ generator.grammar.rules) {depth : Int}
    (hcoverable : Coverable generator depth tree) {levels : Nat} (hlevels : tree.depth ≤ levels) :
    Reaches (Ready generator) (generator.expand levels rule depth) tree := by
  induction hderives generalizing depth levels with
  | blank hkind =>
      obtain ⟨below, rfl, -⟩ := Tree.exists_levels hlevels
      rw [expand, hkind]
      exact .pure _
  | literal hkind hvalue =>
      obtain ⟨below, rfl, -⟩ := Tree.exists_levels hlevels
      rw [expand, hkind, hvalue]
      exact .pure _
  | pattern hkind htext =>
      obtain ⟨below, rfl, -⟩ := Tree.exists_levels hlevels
      rw [expand, hkind]
      exact (patternText_reaches hwell hrule htext).map _
  | symbol hkind hlookup _ ih =>
      obtain ⟨below, rfl, hbelow⟩ := Tree.exists_levels hlevels
      have hchild := ih (hwell.lookup_mem hlookup) (hcoverable.child (List.mem_singleton_self _))
        (hbelow _ (List.mem_singleton_self _))
      rw [expand, hkind]
      dsimp only
      rw [resolve_eq_pure hlookup, pure_bind]
      exact hchild.map _
  | @sequence rule children hkind hlength _ ih =>
      obtain ⟨below, rfl, hbelow⟩ := Tree.exists_levels hlevels
      have hchildren : List.Forall₂
          (fun member child => Reaches (Ready generator)
            (generator.expand below member (depth + 1)) child) rule.members children := by
        refine List.forall₂_iff_get.mpr ⟨hlength.symm, fun place hmember hchild => ?_⟩
        have hmem := List.getElem_mem hchild
        exact ih place _ _ (List.getElem?_eq_getElem hmember) (List.getElem?_eq_getElem hchild)
          (hwell.arena.part_mem hrule (Or.inl (List.getElem_mem hmember))) (hcoverable.child hmem)
          (hbelow _ hmem)
      rw [expand, hkind]
      exact (Reaches.mapM hchildren).map _
  | choice hkind hmember _ ih =>
      obtain ⟨below, rfl, hbelow⟩ := Tree.exists_levels hlevels
      have hchild := ih (hwell.arena.part_mem hrule (Or.inl hmember))
        (hcoverable.child (List.mem_singleton_self _)) (hbelow _ (List.mem_singleton_self _))
      rw [expand, hkind]
      exact (choose_reaches (hcoverable.choice .root) hmember).bind (hchild.map _)
  | many hkind hcontent _ ih =>
      obtain ⟨below, rfl, hbelow⟩ := Tree.exists_levels hlevels
      have hcount : Reaches (Ready generator) (generator.repetitions .many) _ :=
        repetitions_reaches (hcoverable.many .root)
      have hchildren := times_content_reaches hcontent fun child hchild =>
        ih child hchild (hwell.arena.part_mem hrule (Or.inr hcontent)) (hcoverable.child hchild)
          (hbelow child hchild)
      rw [expand, hkind]
      exact hcount.bind (hchildren.map _)
  | many1 hkind hcontent hne _ ih =>
      obtain ⟨below, rfl, hbelow⟩ := Tree.exists_levels hlevels
      have hchildren := times_content_reaches hcontent fun child hchild =>
        ih child hchild (hwell.arena.part_mem hrule (Or.inr hcontent)) (hcoverable.child hchild)
          (hbelow child hchild)
      rw [expand, hkind]
      exact (hcoverable.many1_reaches hne).bind (hchildren.map _)
  | @wrapper rule content child hkind hcontent _ ih =>
      obtain ⟨below, rfl, hbelow⟩ := Tree.exists_levels hlevels
      have hchild := ih (hwell.arena.part_mem hrule (Or.inr hcontent))
        (hcoverable.child (List.mem_singleton_self _)) (hbelow _ (List.mem_singleton_self _))
      rw [expand]
      cases hwrapper : rule.kind with
      | aliased | token | immediateToken | field | precedence | precedenceLeft | precedenceRight
      | precedenceDynamic =>
          dsimp only
          rw [contentOrStart, hcontent]
          exact hchild.map _
      | _ => simp [hwrapper, RuleKind.isWrapper] at hkind

/-- **Every derivation is within reach of a fresh generator**, if its choices stand where
alternatives have equal chances: on some words the generator gives just this tree and uses up just
these words, however many levels it is allowed beyond those of the tree. -/
theorem exists_words_generate {grammar : Grammar} (hloaded : grammar.IsLoaded) {maxDepth : Int}
    {meanRepeat : S} {maxRegexRepeat : Int} {interpreter : Interpreter}
    (hmake : make grammar maxDepth meanRepeat maxRegexRepeat interpreter = .ok generator)
    {start : Rule} (hstart : grammar.startRule = .ok start) {tree : Tree}
    (hderives : Derives grammar generator.IsFreshText start tree)
    (hcoverable : Coverable generator 1 tree) :
    ∃ (words : List UInt32) (after : Session S), after.source = .scripted words [] ∧
      (∀ levels, tree.depth ≤ levels →
        outcome (generator.expand levels start 1) (.fresh (.ofWords words)) = (.ok tree, after)) ∧
      (tree.depth ≤ levelLimit →
        outcome generator.generate (.fresh (.ofWords words)) = (.ok tree, after)) := by
  have hgrammar : generator.grammar = grammar := by
    unfold make at hmake
    split at hmake
    · cases hmake
      rfl
    · cases hmake
  subst hgrammar
  have hwell := hloaded.wellFormed
  obtain ⟨words, after, -, hreads⟩ :=
    expand_reaches hwell hderives (hwell.startRule_mem hstart) hcoverable (Nat.le_refl _)
      _ (ready_fresh generator (.ofWords []))
  have hexpand : ∀ levels, tree.depth ≤ levels →
      outcome (generator.expand levels start 1) (.fresh (.ofWords words)) =
        (.ok tree, HoldsSource.hold after (.scripted words [])) := fun levels hlevels =>
    expand_extends generator hlevels start 1 _ _ _ hreads.outcome_ofWords
  refine ⟨words, _, rfl, hexpand, fun hlimit => ?_⟩
  rw [generate, Gen.startRule, hstart]
  exact hexpand levelLimit hlimit

end Trees

/-- One item, since none is drawn, and in it the digit `1`. -/
theorem exists_words_generate_items :
    Grammar.items.IsLoaded ∧
      ∃ (words : List UInt32) (after : Session (Exact fun _ => 0)),
        after.source = .scripted words [] ∧
          outcome (items : Generator (Exact fun _ => 0)).generate (.fresh (.ofWords words)) =
            (.ok (.branch .many1 [.branch .choice [.leaf .pattern "1"]]), after) := by
  have hmake : make Grammar.items 5 (Scalar.ofNat 0 : Exact fun _ => 0) 5 Interpreter.plain =
      .ok items := rfl
  have hstart : Grammar.items.startRule = .ok Items.list := rfl
  have htext : IsFreshText (items : Generator (Exact fun _ => 0)) Items.digit "1" := by
    refine ⟨_, items_isSamplerOf_digit, [1073741824], ?_⟩
    with_unfolding_all rfl
  have hderives : Derives Grammar.items (IsFreshText (items : Generator (Exact fun _ => 0)))
      Items.list (.branch .many1 [.branch .choice [.leaf .pattern "1"]]) := by
    refine .many1 rfl rfl (List.cons_ne_nil _ _) fun child hchild => ?_
    rw [List.mem_singleton.mp hchild]
    exact .choice rfl (by simp [Items.item]) (.pattern rfl htext)
  have hcoverable : Coverable (items : Generator (Exact fun _ => 0)) 1
      (.branch .many1 [.branch .choice [.leaf .pattern "1"]]) := by
    have hnone : CanDraw (Draw.poisson (items : Generator (Exact fun _ => 0)).meanRepeat) 0 :=
      ⟨[], rfl⟩
    refine ⟨fun {depth children} hnode => ?_, fun hnode => ?_, fun {children} hnode => ?_⟩
    · obtain ⟨-, rfl⟩ : children = [.leaf .pattern "1"] ∧ depth = 2 := by simpa using hnode
      decide
    · simp at hnode
    · obtain rfl : children = [.branch .choice [.leaf .pattern "1"]] := by simpa using hnode
      exact Or.inr ⟨rfl, hnone⟩
  obtain ⟨words, after, hsource, -, hgenerate⟩ :=
    exists_words_generate items_isLoaded hmake hstart hderives hcoverable
  exact ⟨items_isLoaded, words, after, hsource, hgenerate (by decide)⟩

end Generator

end GrammarFuzz

import GrammarFuzz.Proofs.Generator.Coverage

/-!
# Two limits side by side

The maximal depth enters the generation of a tree in one place only: a choice asks whether it stands
below it.  So two generators that differ in this limit, and in the depth at which they start, do the
same on the same source as long as their choices get the same answer.  Which choices there will be
is known only from the tree that comes out, and the condition is therefore about the tree of the
first generator (`SameSide`).

`Follows` carries this through the steps: where the first step ends with a value of the kind that is
expected, the second one ends in the same way.  A value of another kind is no obligation, and that
is how a choice on different sides of the two limits is dismissed (`Follows.of_meets`).

The main result is `expand_lockstep`.  Nothing is assumed of the grammar or of what has been
learned before; both generators start from one session.
-/

namespace GrammarFuzz

variable {ε σ α β : Type}

/-! ## A step that follows another one -/

/-- Where the first step has a value of this kind, the second one ends in the same way. -/
def Follows (fits : α → Prop) (first second : ExceptT ε (StateM σ) α) : Prop :=
  ∀ state value after, outcome first state = (.ok value, after) → fits value →
    outcome second state = (.ok value, after)

namespace Follows

variable {fits : α → Prop}

protected theorem refl (fits : α → Prop) (step : ExceptT ε (StateM σ) α) :
    Follows fits step step :=
  fun _ _ _ houtcome _ => houtcome

/-- A step without values of the kind has nothing that another one could miss. -/
theorem of_meets {first : ExceptT ε (StateM σ) α}
    (hfirst : Meets (fun _ => True) first (fun value => ¬ fits value) fun _ => True)
    (second : ExceptT ε (StateM σ) α) : Follows fits first second := by
  intro state value after houtcome hfits
  exact absurd hfits (hfirst.of_ok trivial (congrArg Prod.fst houtcome))

/-- The kind of the first value may show only in the value at the end. -/
protected theorem bind {kind : β → Prop} {first second : ExceptT ε (StateM σ) β}
    {next next' : β → ExceptT ε (StateM σ) α} (hstep : Follows kind first second)
    (hkind : ∀ value,
      Meets (fun _ => True) (next value) (fun last => fits last → kind value) fun _ => True)
    (hnext : ∀ value, Follows fits (next value) (next' value)) :
    Follows fits (first >>= next) (second >>= next') := by
  intro state last after houtcome hfits
  obtain ⟨value, middle, hfirst, hrest⟩ := outcome_bind_eq_ok_iff.mp houtcome
  have hvalue : kind value := (hkind value).of_ok trivial (congrArg Prod.fst hrest) hfits
  rw [outcome_bind_ok (hstep state value middle hfirst hvalue)]
  exact hnext value middle last after hrest hfits

/-- The same step, and then steps of which one follows the other. -/
theorem bind_left (step : ExceptT ε (StateM σ) β) {next next' : β → ExceptT ε (StateM σ) α}
    (hnext : ∀ value, Follows fits (next value) (next' value)) :
    Follows fits (step >>= next) (step >>= next') :=
  (Follows.refl (fun _ => True) step).bind
    (fun value => (Meets.trivial (next value)).mono (fun _ _ _ => trivial) fun _ => id) hnext

/-- A value that is only wrapped up is of the kind that its wrapping asks for. -/
protected theorem map {kind : β → Prop} {first second : ExceptT ε (StateM σ) β}
    (hstep : Follows kind first second) (wrap : β → α)
    (hkind : ∀ value, fits (wrap value) → kind value) :
    Follows fits (first >>= fun value => pure (wrap value))
      (second >>= fun value => pure (wrap value)) :=
  hstep.bind (fun value => Meets.pure (hkind value)) fun _ => Follows.refl _ _

/-- A value in front of a list of values. -/
theorem cons {kind : β → Prop} {first second : ExceptT ε (StateM σ) β}
    {others others' : ExceptT ε (StateM σ) (List β)} (hstep : Follows kind first second)
    (hothers : Follows (fun values => ∀ value ∈ values, kind value) others others') :
    Follows (fun values => ∀ value ∈ values, kind value)
      (first >>= fun value => others >>= fun values => pure (value :: values))
      (second >>= fun value => others' >>= fun values => pure (value :: values)) := by
  apply hstep.bind
  · intro value
    exact Meets.bind (Meets.trivial _) fun values _ =>
      Meets.pure fun hall => hall value (List.mem_cons_self ..)
  · intro value
    exact hothers.map (value :: ·) fun values hall => (List.forall_mem_cons.mp hall).2

protected theorem mapM {kind : α → Prop} {first second : β → ExceptT ε (StateM σ) α}
    (items : List β) (hstep : ∀ item ∈ items, Follows kind (first item) (second item)) :
    Follows (fun values => ∀ value ∈ values, kind value) (items.mapM first)
      (items.mapM second) := by
  induction items with
  | nil => exact Follows.refl _ _
  | cons item rest ih =>
      rw [List.mapM_cons, List.mapM_cons]
      exact (hstep item (List.mem_cons_self ..)).cons
        (ih fun other hother => hstep other (List.mem_cons_of_mem _ hother))

end Follows

/-! ## Choices and limits -/

/-- A node stands as far below the root of a tree wherever the root stands. -/
theorem Tree.AtDepth.shift {node tree : Tree} {depth start : Int}
    (hnode : node.AtDepth depth start tree) (levels : Int) :
    node.AtDepth (depth + levels) (start + levels) tree := by
  induction hnode with
  | root => exact .root
  | @child start _ _ _ hchild _ ih =>
      refine .child hchild ?_
      rwa [Int.add_right_comm] at ih

/-- With its root at the one depth the tree has the same choices below the first limit as it has
below the second one with its root at the other depth. -/
def Tree.SameSide (limit limit' depth depth' : Int) (tree : Tree) : Prop :=
  ∀ level children, Tree.AtDepth (.branch .choice children) level 0 tree →
    (limit < depth + level ↔ limit' < depth' + level)

namespace Tree.SameSide

variable {limit limit' depth depth' : Int} {kind : RuleKind} {children : List Tree}

theorem child {tree : Tree} (hside : SameSide limit limit' depth depth' (.branch kind children))
    (hchild : tree ∈ children) : SameSide limit limit' (depth + 1) (depth' + 1) tree := by
  intro level grandchildren hnode
  have hbelow : Tree.AtDepth (.branch .choice grandchildren) (level + 1) 0
      (.branch kind children) := .child hchild (hnode.shift 1)
  have hiff := hside _ _ hbelow
  rwa [Int.add_comm level 1, ← Int.add_assoc, ← Int.add_assoc] at hiff

/-- A choice at the root is itself one of the choices. -/
theorem root (hside : SameSide limit limit' depth depth' (.branch .choice children)) :
    limit < depth ↔ limit' < depth' := by
  have hiff := hside 0 children .root
  rwa [Int.add_zero, Int.add_zero] at hiff

end Tree.SameSide

namespace Generator

open Grammar

variable {S : Type}

/-! ## Expansion -/

/-- The generator with another maximal depth. -/
def limitedTo (generator : Generator S) (maxDepth : Int) : Generator S :=
  { generator with maxDepth }

theorem times_follows {α : Type} {kind : α → Prop} {first second : Gen S α}
    (hstep : Follows kind first second) (count : Nat) :
    Follows (fun values => ∀ value ∈ values, kind value) (Gen.times first count)
      (Gen.times second count) := by
  induction count with
  | zero => exact Follows.refl _ _
  | succ count ih =>
      unfold Gen.times
      exact hstep.cons ih

variable [Scalar S]

/-- A choice depends on the limit only through the side on which it stands. -/
theorem choose_limitedTo (generator : Generator S) {maxDepth depth depth' : Int}
    (hside : generator.maxDepth < depth ↔ maxDepth < depth') (rule : Rule) :
    (generator.limitedTo maxDepth).choose rule depth' = generator.choose rule depth := by
  unfold choose
  by_cases hbelow : generator.maxDepth < depth
  · rw [if_pos hbelow, if_pos (show (generator.limitedTo maxDepth).maxDepth < depth' from
      hside.mp hbelow)]
    rfl
  · rw [if_neg hbelow, if_neg (show ¬ (generator.limitedTo maxDepth).maxDepth < depth' from
      fun hbelow' => hbelow (hside.mpr hbelow'))]

/-- **An expansion follows another one with a different limit** where the tree has its choices on
the same side of both. -/
theorem expand_follows (generator : Generator S) (maxDepth : Int) (levels : Nat) (rule : Rule)
    (depth depth' : Int) :
    Follows (Tree.SameSide generator.maxDepth maxDepth depth depth')
      (generator.expand levels rule depth)
      ((generator.limitedTo maxDepth).expand levels rule depth') := by
  induction levels generalizing rule depth depth' with
  | zero => exact Follows.refl _ _
  | succ levels ih =>
      -- one child, which stands one level below its parent in both trees
      have hchild : ∀ kind target,
          Follows (Tree.SameSide generator.maxDepth maxDepth depth depth')
            (generator.expand levels target (depth + 1) >>= fun child =>
              pure (.branch kind [child]))
            ((generator.limitedTo maxDepth).expand levels target (depth' + 1) >>= fun child =>
              pure (.branch kind [child])) := by
        intro kind target
        apply (ih target (depth + 1) (depth' + 1)).map fun child => Tree.branch kind [child]
        intro child hside
        exact hside.child (List.mem_singleton_self child)
      rw [expand, expand]
      split
      · exact Follows.refl _ _
      · exact Follows.refl _ _
      · exact Follows.refl _ _
      · exact Follows.bind_left _ fun target => hchild .symbol target
      · exact (Follows.mapM rule.members fun member _ => ih member _ _).map (Tree.branch .sequence)
          fun children hside child => hside.child
      · by_cases hside : generator.maxDepth < depth ↔ maxDepth < depth'
        · rw [choose_limitedTo generator hside]
          exact Follows.bind_left _ fun chosen => hchild .choice chosen
        · -- the node itself is a choice on different sides of the two limits
          apply Follows.of_meets
          exact Meets.bind (Meets.trivial _) fun chosen _ => Meets.bind (Meets.trivial _)
            fun child _ => Meets.pure fun hroot => hside hroot.root
      · exact Follows.refl _ _
      · split
        · refine Follows.bind_left _ fun count => ?_
          have hcontent : Follows
              (Tree.SameSide generator.maxDepth maxDepth (depth + 1) (depth' + 1))
              (generator.contentOrStart rule >>= fun content =>
                generator.expand levels content (depth + 1))
              (generator.contentOrStart rule >>= fun content =>
                (generator.limitedTo maxDepth).expand levels content (depth' + 1)) :=
            Follows.bind_left _ fun content => ih content _ _
          exact (times_follows hcontent count).map (Tree.branch rule.kind)
            fun children hside child => hside.child
        · exact Follows.bind_left _ fun content => hchild rule.kind content

/-- Moving the limit and the starting depth by the same amount changes nothing at all. -/
theorem expand_shift (generator : Generator S) (shift : Int) (levels : Nat) (rule : Rule)
    (depth : Int) :
    (generator.limitedTo (generator.maxDepth + shift)).expand levels rule (depth + shift) =
      generator.expand levels rule depth := by
  induction levels generalizing rule depth with
  | zero => rfl
  | succ levels ih =>
      have hbelow : ∀ target,
          (generator.limitedTo (generator.maxDepth + shift)).expand levels target
            (depth + shift + 1) = generator.expand levels target (depth + 1) := by
        intro target
        rw [Int.add_right_comm]
        exact ih target (depth + 1)
      have hchoose :
          (generator.limitedTo (generator.maxDepth + shift)).choose rule (depth + shift) =
            generator.choose rule depth :=
        choose_limitedTo generator (Int.add_lt_add_iff_right shift).symm rule
      rw [expand, expand]
      simp only [hbelow, hchoose]
      rfl

/-- **Two generators that differ in the limit stay in step.**  Whatever tree comes out of the first
one, the second one gives the same tree and the same session, source included, if every choice of
the tree stands below both limits or below neither.  In particular only the distance from the
starting depth to the limit matters, also for calls that fail, and a limit has no effect where no
choice stands below it. -/
theorem expand_lockstep (generator : Generator S) (maxDepth : Int) (levels : Nat) (rule : Rule)
    (depth depth' : Int) (session : Session S) :
    (∀ tree after, outcome (generator.expand levels rule depth) session = (.ok tree, after) →
      (∀ level children, Tree.AtDepth (.branch .choice children) level 0 tree →
        (generator.maxDepth < depth + level ↔ maxDepth < depth' + level)) →
      outcome ((generator.limitedTo maxDepth).expand levels rule depth') session =
        (.ok tree, after)) ∧
      (generator.maxDepth - depth = maxDepth - depth' →
        outcome ((generator.limitedTo maxDepth).expand levels rule depth') session =
          outcome (generator.expand levels rule depth) session) ∧
      ∀ tree after, outcome (generator.expand levels rule depth) session = (.ok tree, after) →
        (∀ level children, Tree.AtDepth (.branch .choice children) level 0 tree →
          depth + level ≤ generator.maxDepth ∧ depth + level ≤ maxDepth) →
        outcome ((generator.limitedTo maxDepth).expand levels rule depth) session =
          (.ok tree, after) := by
  refine ⟨expand_follows generator maxDepth levels rule depth depth' session,
    fun hdistance => ?_, fun tree after houtcome habove => ?_⟩
  · have hlimit : maxDepth = generator.maxDepth + (depth' - depth) := by omega
    have hstart : depth + (depth' - depth) = depth' := by omega
    have hshift := expand_shift generator (depth' - depth) levels rule depth
    rw [← hlimit, hstart] at hshift
    rw [hshift]
  · apply expand_follows generator maxDepth levels rule depth depth session tree after houtcome
    intro level children hnode
    obtain ⟨hfirst, hsecond⟩ := habove level children hnode
    exact iff_of_false hfirst.not_gt hsecond.not_gt

/-- A word of the small grammar whose first choice stands above the limit and whose second one
stands below it; then the same word under a limit that is moved with the start, and a word with all
choices above both limits. -/
theorem expand_lockstep_chain :
    let word : Tree := .branch .choice [.branch .symbol [.branch .choice [.leaf .literal "a"]]]
    let start : Session (Exact fun _ => 0) := .fresh (.ofWords [1073741824, 0, 0])
    let run (maxDepth depth : Int) :=
      outcome ((chain.limitedTo maxDepth).expand 4 Chain.word depth) start
    ∃ after after' : Session (Exact fun _ => 0),
      run 2 1 = (.ok word, after) ∧ run 2 2 = (.ok word, after) ∧ run 7 6 = (.ok word, after) ∧
        run 5 1 = (.ok word, after') ∧ run 9 1 = (.ok word, after') := by
  intro word start run
  have hword : (run 2 1).1 = .ok word := by with_unfolding_all rfl
  have hword' : (run 5 1).1 = .ok word := by with_unfolding_all rfl
  have hfirst : run 2 1 = (.ok word, (run 2 1).2) := Prod.ext hword rfl
  have habove : run 5 1 = (.ok word, (run 5 1).2) := Prod.ext hword' rfl
  have hchoices : ∀ level children, Tree.AtDepth (.branch .choice children) level 0 word →
      level = 0 ∨ level = 2 := by
    intro level children hnode
    have hcases :
        (children = [.branch .symbol [.branch .choice [.leaf .literal "a"]]] ∧ level = 0) ∨
          children = [.leaf .literal "a"] ∧ level = 2 := by simpa [word] using hnode
    exact hcases.imp And.right And.right
  refine ⟨_, _, hfirst, ?_, ?_, habove, ?_⟩
  · refine (expand_lockstep (chain.limitedTo 2) 2 4 Chain.word 1 2 start).1 word _ hfirst ?_
    intro level children hnode
    rcases hchoices level children hnode with rfl | rfl <;> decide
  · exact ((expand_lockstep (chain.limitedTo 2) 7 4 Chain.word 1 6 start).2.1 rfl).trans hfirst
  · refine (expand_lockstep (chain.limitedTo 5) 9 4 Chain.word 1 1 start).2.2 word _ habove ?_
    intro level children hnode
    rcases hchoices level children hnode with rfl | rfl <;> decide

end Generator

end GrammarFuzz

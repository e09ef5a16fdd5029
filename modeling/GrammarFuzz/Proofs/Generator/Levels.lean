import GrammarFuzz.Number
import GrammarFuzz.Proofs.Generator.Estimates
import GrammarFuzz.Proofs.Grammar.Postorder

/-!
# How many estimates are open

An estimate of a rule waits for the estimates of what the rule leads to: of its parts, and of the
definition of a symbol.  Grammars lead back to themselves, and the table is no help against that.
A depth is kept only when it is known, so a rule may be entered again while it is being computed.

`Estimation` says how an estimate goes when nothing limits it.  It is given by the rules alone,
and it counts how many computations are open at once where there are the most: none if the depth
is kept, and one more than below otherwise.  The main result is `expectedDepth_ends`: every
estimate ends, with a depth or because a symbol stands for no rule, and the count is at most the
number of definitions and one, times the greatest height of a definition.

## Why it ends

A part is not as high as its rule.  A definition may be higher than the symbol that leads to it, but
its name was not on the stack before and is from now on.  So what goes down is the height of the
rule and, for each definition that is not on the stack yet, the greatest height of a definition
(`remainingLevels`).  In contrast to `openLevels` this needs no `Resolving`: a stack may hold any
names, also some that nothing defines, and may hold them twice.
-/

namespace GrammarFuzz

/-! ## Levels that remain -/

namespace Rule

theorem height_le_of_mem_postorder {root rule : Rule} (hrule : rule ∈ root.postorder) :
    rule.height ≤ root.height := by
  rw [postorder_eq] at hrule
  rcases List.mem_append.mp hrule with hbelow | hroot
  · obtain ⟨part, hpart, hmem⟩ := List.mem_flatMap.mp hbelow
    have hheight : part.height < root.height := height_lt_of_hasPart (mem_parts.mp hpart)
    exact (height_le_of_mem_postorder hmem).trans hheight.le
  · rw [List.mem_singleton.mp hroot]
  termination_by root.height

end Rule

namespace Grammar

variable {grammar : Grammar} {rule next : Rule} {name : String} {stack : List String}

/-- No rule of a loaded grammar is higher than all definitions. -/
theorem IsLoaded.height_le (hloaded : grammar.IsLoaded) (hrule : rule ∈ grammar.rules) :
    rule.height ≤ grammar.height := by
  obtain ⟨document, hread⟩ := hloaded.exists_document
  obtain ⟨definitions, -, -, hshape, hrun⟩ := exists_definitions_of_ofDocument hread
  obtain ⟨-, hrules⟩ := Reader.definitions_appends hshape hrun
  rw [← Array.mem_toList_iff, hrules, List.nil_append] at hrule
  obtain ⟨definition, hdefinition, hmem⟩ := List.mem_flatMap.mp hrule
  exact (Rule.height_le_of_mem_postorder hmem).trans (height_le_of_mem hdefinition)

/-- The definitions whose names are not on the stack. -/
def freeDefinitions (grammar : Grammar) (stack : List String) : List (String × Rule) :=
  grammar.definitions.filter fun definition => definition.1 ∉ stack

theorem length_freeDefinitions_le (grammar : Grammar) (stack : List String) :
    (grammar.freeDefinitions stack).length ≤ grammar.definitions.length :=
  List.length_filter_le _ _

/-- A name that comes onto the stack uses up its definition. -/
theorem length_freeDefinitions_lt (hname : name ∉ stack)
    (hresolve : grammar.resolve? name = some next) :
    (grammar.freeDefinitions (name :: stack)).length < (grammar.freeDefinitions stack).length := by
  have hfilter : grammar.freeDefinitions (name :: stack) =
      (grammar.freeDefinitions stack).filter fun definition => definition.1 ≠ name := by
    rw [freeDefinitions, freeDefinitions, List.filter_filter]
    refine List.filter_congr fun definition _ => ?_
    simp only [List.mem_cons, not_or, ne_eq, Bool.decide_and]
  have hfree : (name, next) ∈ grammar.freeDefinitions stack :=
    List.mem_filter.mpr ⟨mem_of_definition? hresolve, decide_eq_true hname⟩
  rw [hfilter]
  exact List.length_filter_lt_length_iff_exists.mpr ⟨(name, next), hfree, by simp⟩

/-- The number of computations that can be open from a rule on. -/
def remainingLevels (grammar : Grammar) (rule : Rule) (stack : List String) : Nat :=
  rule.height + (grammar.freeDefinitions stack).length * grammar.height

theorem remainingLevels_pos (grammar : Grammar) (rule : Rule) (stack : List String) :
    0 < grammar.remainingLevels rule stack :=
  Nat.add_pos_left rule.height_pos _

theorem remainingLevels_lt_of_hasPart (hpart : rule.HasPart next) (stack : List String) :
    grammar.remainingLevels next stack < grammar.remainingLevels rule stack :=
  Nat.add_lt_add_right (Rule.height_lt_of_hasPart hpart) _

/-- The definition that is used up makes up for the height of the rule that is entered. -/
theorem remainingLevels_lt_of_push (hname : name ∉ stack)
    (hresolve : grammar.resolve? name = some next) (rule : Rule) :
    grammar.remainingLevels next (name :: stack) < grammar.remainingLevels rule stack := by
  have hheight : next.height ≤ grammar.height := height_le_of_mem (mem_of_definition? hresolve)
  calc grammar.remainingLevels next (name :: stack)
      ≤ grammar.height + (grammar.freeDefinitions (name :: stack)).length * grammar.height :=
        Nat.add_le_add_right hheight _
    _ = ((grammar.freeDefinitions (name :: stack)).length + 1) * grammar.height := by
        rw [Nat.succ_mul, Nat.add_comm]
    _ ≤ (grammar.freeDefinitions stack).length * grammar.height :=
        Nat.mul_le_mul_right _ (length_freeDefinitions_lt hname hresolve)
    _ < grammar.remainingLevels rule stack := Nat.lt_add_of_pos_left rule.height_pos

/-- What holds of every level that is enough for all members holds below their rule. -/
theorem lt_remainingLevels_of_members {opened : Nat} (hmembers : ∀ bound,
      (∀ member ∈ rule.members, grammar.remainingLevels member stack ≤ bound) → opened ≤ bound) :
    opened < grammar.remainingLevels rule stack := by
  have hpositive := remainingLevels_pos grammar rule stack
  have hle : opened ≤ grammar.remainingLevels rule stack - 1 :=
    hmembers _ fun member hmember =>
      Nat.le_sub_one_of_lt (remainingLevels_lt_of_hasPart (Or.inl hmember) stack)
  omega

theorem remainingLevels_le_estimateLevels (grammar : Grammar) (rule : Rule)
    (stack : List String) : grammar.remainingLevels rule stack ≤ grammar.estimateLevels rule :=
  Nat.add_le_add_left (Nat.mul_le_mul_right _ (grammar.length_freeDefinitions_le stack)) _

theorem estimateLevels_le (hheight : rule.height ≤ grammar.height) :
    grammar.estimateLevels rule ≤ (grammar.definitions.length + 1) * grammar.height := by
  rw [estimateLevels, Nat.succ_mul, Nat.add_comm]
  exact Nat.add_le_add_left hheight _

end Grammar

namespace Generator

open Grammar

/-! ## Steps that go on -/

variable {S α β : Type}

/-- How a step of a generator ends: its value or its error, and the session after it. -/
abbrev Ending (S α : Type) := Except GenerationError α × Session S

/-- The end of what goes on with another step unless it fails. -/
def andThen (ending : Ending S α) (next : α → Gen S β) : Ending S β :=
  match ending with
  | (.ok value, after) => outcome (next value) after
  | (.error error, after) => (.error error, after)

theorem outcome_bind_eq_andThen (step : Gen S α) (next : α → Gen S β) (session : Session S) :
    outcome (step >>= next) session = andThen (outcome step session) next := by
  rw [outcome_bind]
  obtain ⟨answer, after⟩ := outcome step session
  cases answer <;> rfl

/-- Keeps the depth of a rule. -/
def keep (rule : Rule) (depth : S) : Gen S S := do
  modify fun session => { session with depths := session.depths.set rule.index depth }
  return depth

theorem outcome_keepDepth (rule : Rule) (compute : Gen S S) (session : Session S) :
    outcome (keepDepth rule compute) session =
      match session.depths.get? rule.index with
      | some depth => (.ok depth, session)
      | none => outcome (compute >>= keep rule) session := by
  rw [keepDepth, outcome_get_bind]
  cases session.depths.get? rule.index <;> rfl

/-! ## What it is to end -/

/-- A symbol stands for no rule. -/
def IsAccess (error : GenerationError) : Prop := ∃ failed, error = .access failed

/-- The steps end as a relation tells, and from `bound` on it makes no difference how many levels
they are allowed. -/
structure EndsBy (ends : Ending S α → Nat → Prop) (result : α → Prop) (bound : Nat)
    (steps : Nat → Gen S α) (session : Session S) (ending : Ending S α) (opened : Nat) : Prop where
  ends : ends ending opened
  meets : Meets.At (fun _ => True) result IsAccess ending
  outcome_eq : ∀ levels, bound ≤ levels → outcome (steps levels) session = ending

/-- The steps end in some way. -/
def EndsWithin (ends : Ending S α → Nat → Prop) (result : α → Prop) (bound : Nat)
    (steps : Nat → Gen S α) (session : Session S) : Prop :=
  ∃ ending opened, EndsBy ends result bound steps session ending opened

namespace EndsWithin

variable {ends : Ending S α → Nat → Prop} {result : α → Prop} {bound : Nat} {session : Session S}

/-- Steps that end at once. -/
theorem of_eq {step : Gen S α} {ending : Ending S α} (hends : ends ending 0)
    (houtcome : outcome step session = ending)
    (hmeets : Meets.At (fun _ => True) result IsAccess ending) :
    EndsWithin ends result bound (fun _ => step) session :=
  ⟨ending, 0, hends, hmeets, fun _ _ => houtcome⟩

/-- Steps that go on, with one that fails for want of a rule at most. -/
theorem bind {ends' : Ending S β → Nat → Prop} {result' : β → Prop} {steps : Nat → Gen S α}
    {next : α → Gen S β} (hsteps : EndsWithin ends result bound steps session)
    (hends : ∀ ending opened, ends ending opened → ends' (andThen ending next) opened)
    (hnext : ∀ value, result value → Meets (fun _ => True) (next value) result' IsAccess) :
    EndsWithin ends' result' bound (fun levels => steps levels >>= next) session := by
  obtain ⟨ending, opened, hending, hmeets, houtcome⟩ := hsteps
  refine ⟨andThen ending next, opened, hends ending opened hending, ?_, ?_⟩
  · obtain ⟨answer, after⟩ := ending
    cases answer with
    | ok value => exact hnext value hmeets.2 after trivial
    | error error => exact ⟨trivial, hmeets.2⟩
  · intro levels hlevels
    rw [outcome_bind_eq_andThen, houtcome levels hlevels]

end EndsWithin

/-! ## Estimates without a limit -/

variable [Scalar S]

mutual

/-- How the estimate of a rule ends that is begun with a stack in a session, and how many
computations are open at once in it where there are the most. -/
inductive Estimation (grammar : Grammar) :
    Rule → List String → Session S → Ending S S → Nat → Prop where
  | kept {rule : Rule} {stack : List String} {session : Session S} {depth : S}
      (hentry : session.depths.get? rule.index = some depth) :
      Estimation grammar rule stack session (.ok depth, session) 0
  | computed {rule : Rule} {stack : List String} {session : Session S} {ending : Ending S S}
      {opened : Nat} (hentry : session.depths.get? rule.index = none)
      (hcompute : Computation grammar rule stack session ending opened) :
      Estimation grammar rule stack session (andThen ending (keep rule)) (opened + 1)

/-- How the computation of a depth ends, and how many other ones are open at once below it where
there are the most. -/
inductive Computation (grammar : Grammar) :
    Rule → List String → Session S → Ending S S → Nat → Prop where
  | terminal {rule : Rule} {stack : List String} {session : Session S}
      (hkind : rule.isTerminal = true) :
      Computation grammar rule stack session (.ok (Scalar.ofNat 1), session) 0
  | cycle {rule : Rule} {stack : List String} {session : Session S} {name : String}
      (hsymbol : rule.IsSymbol name) (hname : name ∈ stack) :
      Computation grammar rule stack session (.ok Scalar.infinity, session) 0
  | undefined {rule : Rule} {stack : List String} {session : Session S} {failed : AccessError}
      (hkind : rule.kind = .symbol) (hname : ∀ name ∈ stack, rule.name ≠ .text name)
      (hlookup : grammar.lookup rule.name = .error failed) :
      Computation grammar rule stack session (.error (.access failed), session) 0
  | symbol {rule target : Rule} {stack : List String} {session : Session S} {name : String}
      {ending : Ending S S} {opened : Nat} (hsymbol : rule.IsSymbol name) (hname : name ∉ stack)
      (hresolve : grammar.resolve? name = some target)
      (hbelow : Estimation grammar target (name :: stack) session ending opened) :
      Computation grammar rule stack session (andThen ending fun depth => pure (deeper depth))
        opened
  | sequence {rule : Rule} {stack : List String} {session : Session S}
      {ending : Ending S (List S)} {opened : Nat} (hkind : rule.kind = .sequence)
      (hmembers : Estimations grammar rule.members stack session ending opened) :
      Computation grammar rule stack session
        (andThen ending fun depths => do return deeper (← deepest depths)) opened
  | choice {rule : Rule} {stack : List String} {session : Session S}
      {ending : Ending S (List S)} {opened : Nat} (hkind : rule.kind = .choice)
      (hmembers : Estimations grammar rule.members stack session ending opened) :
      Computation grammar rule stack session
        (andThen ending fun depths => do return deeper (← meanDepth depths)) opened
  | content {rule content : Rule} {stack : List String} {session : Session S}
      {ending : Ending S S} {opened : Nat}
      (hkind : rule.kind.isRepetition = true ∨ rule.kind.isWrapper = true)
      (hcontent : rule.content = some content)
      (hbelow : Estimation grammar content stack session ending opened) :
      Computation grammar rule stack session (andThen ending fun depth => pure (deeper depth))
        opened

/-- How the estimates of some rules end that are made one after the other, and how many
computations are open at once where there are the most. -/
inductive Estimations (grammar : Grammar) :
    List Rule → List String → Session S → Ending S (List S) → Nat → Prop where
  | nil {stack : List String} {session : Session S} :
      Estimations grammar [] stack session (.ok [], session) 0
  | cons {first : Rule} {rest : List Rule} {stack : List String} {session middle : Session S}
      {depth : S} {ending : Ending S (List S)} {opened others : Nat}
      (hfirst : Estimation grammar first stack session (.ok depth, middle) opened)
      (hrest : Estimations grammar rest stack middle ending others) :
      Estimations grammar (first :: rest) stack session
        (andThen ending fun depths => pure (depth :: depths)) (max opened others)
  | failed {first : Rule} {rest : List Rule} {stack : List String} {session middle : Session S}
      {error : GenerationError} {opened : Nat}
      (hfirst : Estimation grammar first stack session (.error error, middle) opened) :
      Estimations grammar (first :: rest) stack session (.error error, middle) opened

end

/-! ## What is open -/

/-- **No more computations are open than levels remain**, however the estimate ends. -/
theorem Estimation.opened_le {grammar : Grammar} {rule : Rule} {stack : List String}
    {session : Session S} {ending : Ending S S} {opened : Nat}
    (hestimation : Estimation grammar rule stack session ending opened) :
    opened ≤ grammar.remainingLevels rule stack := by
  -- below a computation one level less remains, and members share what remains below their rule
  refine @Estimation.rec S _ grammar
    (fun rule stack _ _ opened _ => opened ≤ grammar.remainingLevels rule stack)
    (fun rule stack _ _ opened _ => opened < grammar.remainingLevels rule stack)
    (fun rules stack _ _ opened _ => ∀ bound,
      (∀ rule ∈ rules, grammar.remainingLevels rule stack ≤ bound) → opened ≤ bound)
    ?kept ?computed ?terminal ?cycle ?undefined ?symbol ?sequence ?choice ?content ?nil ?cons
    ?failed rule stack session ending opened hestimation
  case kept => exact fun _ => Nat.zero_le _
  case computed => exact fun _ _ hbelow => hbelow
  case terminal => exact fun _ => remainingLevels_pos _ _ _
  case cycle => exact fun _ _ => remainingLevels_pos _ _ _
  case undefined => exact fun _ _ _ => remainingLevels_pos _ _ _
  case symbol =>
    exact fun _ hname hresolve _ hbelow =>
      hbelow.trans_lt (remainingLevels_lt_of_push hname hresolve _)
  case sequence => exact fun _ _ hmembers => lt_remainingLevels_of_members hmembers
  case choice => exact fun _ _ hmembers => lt_remainingLevels_of_members hmembers
  case content =>
    exact fun _ hcontent _ hbelow =>
      hbelow.trans_lt (remainingLevels_lt_of_hasPart (Or.inr hcontent) _)
  case nil => exact fun bound _ => Nat.zero_le bound
  case cons =>
    intro _ _ _ _ _ _ _ _ _ _ _ hfirst hrest bound hbound
    obtain ⟨hhead, htail⟩ := List.forall_mem_cons.mp hbound
    exact max_le (hfirst.trans hhead) (hrest bound htail)
  case failed =>
    exact fun _ hfirst bound hbound => hfirst.trans (hbound _ List.mem_cons_self)

/-! ## Every estimate ends -/

variable {grammar : Grammar} {rule : Rule} {stack : List String} {session : Session S}
  {bound : Nat}

/-- The estimate ends within `bound`. -/
def EstimateEnds (grammar : Grammar) (rule : Rule) (stack : List String) (bound : Nat)
    (session : Session S) : Prop :=
  EndsWithin (Estimation grammar rule stack session) (fun _ => True) bound
    (fun levels => expectedDepthWithin grammar levels rule stack) session

/-- An estimate ends if the computation does that it begins, with that one open as well. -/
theorem estimateEnds_of_computation {compute : Nat → Gen S S}
    (hstep : ∀ levels, (expectedDepthWithin grammar (levels + 1) rule stack : Gen S S) =
      keepDepth rule (compute levels))
    (hcompute : EndsWithin (Computation grammar rule stack session) (fun _ => True) bound compute
      session) :
    EstimateEnds grammar rule stack (bound + 1) session := by
  cases hentry : session.depths.get? rule.index with
  | some depth =>
      refine ⟨(.ok depth, session), 0, .kept hentry, ⟨trivial, trivial⟩, ?_⟩
      intro levels hlevels
      obtain ⟨below, rfl⟩ := Nat.exists_eq_add_of_le' hlevels
      rw [← Nat.add_assoc, hstep, outcome_keepDepth, hentry]
  | none =>
      have hkept : EndsWithin
          (fun ending opened => Estimation grammar rule stack session ending (opened + 1))
          (fun _ => True) bound (fun levels => compute levels >>= keep rule) session :=
        hcompute.bind (fun _ _ => .computed hentry) fun depth _ =>
          Meets.modify_bind (fun _ _ => trivial) (Meets.pure trivial)
      obtain ⟨ending, opened, hending, hmeets, houtcome⟩ := hkept
      refine ⟨ending, opened + 1, hending, hmeets, ?_⟩
      intro levels hlevels
      obtain ⟨below, rfl⟩ := Nat.exists_eq_add_of_le' hlevels
      rw [← Nat.add_assoc, hstep, outcome_keepDepth, hentry]
      exact houtcome (below + bound) (Nat.le_add_left _ _)

/-- The estimates of some rules end if each of them does, in whatever session it is begun. -/
theorem endsWithin_members {members : List Rule}
    (hmembers : ∀ member ∈ members, ∀ session : Session S,
      EstimateEnds grammar member stack bound session)
    (session : Session S) :
    EndsWithin (Estimations grammar members stack session)
      (fun depths => depths.length = members.length) bound
      (fun levels => members.mapM (expectedDepthWithin grammar levels · stack)) session := by
  induction members generalizing session with
  | nil => exact .of_eq .nil rfl ⟨trivial, rfl⟩
  | cons first rest ih =>
      obtain ⟨hhead, htail⟩ := List.forall_mem_cons.mp hmembers
      obtain ⟨⟨answer, middle⟩, opened, hfirst, hmeets, houtcome⟩ := hhead session
      cases answer with
      | ok depth =>
          have hrest : EndsWithin
              (fun ending others => Estimations grammar (first :: rest) stack session ending
                (max opened others))
              (fun depths => depths.length = (first :: rest).length) bound
              (fun levels => do
                let depths ← rest.mapM (expectedDepthWithin grammar levels · stack)
                return depth :: depths) middle :=
            (ih htail middle).bind (fun _ _ => .cons hfirst) fun depths hdepths =>
              Meets.pure (congrArg Nat.succ hdepths)
          obtain ⟨ending, others, hending, hmeets', houtcome'⟩ := hrest
          refine ⟨ending, max opened others, hending, hmeets', ?_⟩
          intro levels hlevels
          rw [List.mapM_cons, outcome_bind_ok (houtcome levels hlevels)]
          exact houtcome' levels hlevels
      | error error =>
          refine ⟨(.error error, middle), opened, .failed hfirst, hmeets, ?_⟩
          intro levels hlevels
          rw [List.mapM_cons, outcome_bind_error (houtcome levels hlevels)]

/-- The computation of a symbol, whatever its name is. -/
theorem expectedDepthWithin_undefined {failed : AccessError} (hkind : rule.kind = .symbol)
    (hname : ∀ name ∈ stack, rule.name ≠ .text name)
    (hlookup : grammar.lookup rule.name = .error failed) (levels : Nat) :
    (expectedDepthWithin grammar (levels + 1) rule stack : Gen S S) =
      keepDepth rule (throw (.access failed)) := by
  have hresolve : (Gen.resolve grammar rule.name : Gen S Rule) = throw (.access failed) := by
    rw [Gen.resolve, hlookup]
  rw [expectedDepthWithin]
  simp only [hkind]
  split
  · rename_i name htext
    have hfree : ¬ stack.contains name = true := fun hmem =>
      hname name (List.contains_iff_mem.mp hmem) htext
    rw [htext] at hresolve
    rw [if_neg hfree, hresolve]
    rfl
  · rw [hresolve]
    rfl

/-- The estimate of a symbol ends if that of its definition does. -/
theorem estimateEnds_symbol (hkind : rule.kind = .symbol)
    (hbelow : ∀ name target, name ∉ stack → grammar.resolve? name = some target →
      EstimateEnds grammar target (name :: stack) bound session) :
    EstimateEnds grammar rule stack (bound + 1) session := by
  by_cases hcycle : ∃ name ∈ stack, rule.name = .text name
  · obtain ⟨name, hmem, hname⟩ := hcycle
    refine estimateEnds_of_computation
      (fun levels => expectedDepthWithin_symbol hkind hname levels _) ?_
    simp only [if_pos (List.contains_iff_mem.mpr hmem)]
    exact .of_eq (.cycle ⟨hkind, hname⟩ hmem) rfl ⟨trivial, trivial⟩
  · have hfree : ∀ name ∈ stack, rule.name ≠ .text name := fun name hmem hname =>
      hcycle ⟨name, hmem, hname⟩
    cases hlookup : grammar.lookup rule.name with
    | error failed =>
        refine estimateEnds_of_computation (expectedDepthWithin_undefined hkind hfree hlookup) ?_
        exact .of_eq (.undefined hkind hfree hlookup) rfl ⟨trivial, failed, rfl⟩
    | ok target =>
        obtain ⟨name, hname, hresolve⟩ := resolve?_of_lookup hlookup
        have hstack : name ∉ stack := fun hmem => hfree name hmem hname
        refine estimateEnds_of_computation
          (fun levels => expectedDepthWithin_symbol hkind hname levels _) ?_
        simp only [if_neg (fun hmem => hstack (List.contains_iff_mem.mp hmem)),
          resolve_eq_pure (lookup_text hresolve), pure_bind]
        exact (hbelow name target hstack hresolve).bind
          (fun _ _ => .symbol ⟨hkind, hname⟩ hstack hresolve) fun _ _ => Meets.pure trivial

/-- **Estimates end within the levels that remain.** -/
theorem estimateEnds_of_remainingLevels_le (hwell : grammar.WellFormed)
    (hrule : rule ∈ grammar.rules) (hbound : grammar.remainingLevels rule stack ≤ bound)
    (session : Session S) : EstimateEnds grammar rule stack bound session := by
  induction bound generalizing rule stack session with
  | zero =>
      have hpositive := remainingLevels_pos grammar rule stack
      omega
  | succ bound ih =>
      -- a part is estimated with the same stack, in the session that its elders leave
      have hpart : ∀ part, rule.HasPart part → ∀ session : Session S,
          EstimateEnds grammar part stack bound session := by
        intro part hpart session
        have hlt : grammar.remainingLevels part stack < grammar.remainingLevels rule stack :=
          remainingLevels_lt_of_hasPart hpart stack
        exact ih (hwell.arena.part_mem hrule hpart) (by omega) session
      have hmembers := endsWithin_members
        (fun member hmember => hpart member (Or.inl hmember)) session
      rcases (hwell.arena.shaped hrule).cases with hkind | hkind | ⟨hkind, hne⟩ | ⟨hkind, hne⟩ |
        ⟨hkind, content, hcontent⟩
      · exact estimateEnds_of_computation (fun levels => expectedDepthWithin_terminal hkind levels _)
          (.of_eq (.terminal hkind) rfl ⟨trivial, trivial⟩)
      · refine estimateEnds_symbol hkind fun name target hname hresolve => ?_
        have hlt := remainingLevels_lt_of_push hname hresolve rule
        have htarget := hwell.lookup_mem (lookup_text hresolve)
        exact ih htarget (by omega) session
      · refine estimateEnds_of_computation
          (fun levels => expectedDepthWithin_sequence hkind levels _) ?_
        refine hmembers.bind (fun _ _ => .sequence hkind) fun depths hdepths => ?_
        refine Meets.bind (deepest_meets fun hnil => ?_) fun _ _ => Meets.pure trivial
        rw [hnil, eq_comm, List.length_nil, List.length_eq_zero_iff] at hdepths
        exact absurd hdepths hne
      · refine estimateEnds_of_computation
          (fun levels => expectedDepthWithin_choice hkind levels _) ?_
        refine hmembers.bind (fun _ _ => .choice hkind) fun depths hdepths => ?_
        refine Meets.bind (meanDepth_meets fun hnil => ?_) fun _ _ => Meets.pure trivial
        rw [hnil, eq_comm, List.length_nil, List.length_eq_zero_iff] at hdepths
        exact absurd hdepths hne
      · refine estimateEnds_of_computation
          (fun levels => expectedDepthWithin_content hkind hcontent levels _) ?_
        exact (hpart content (Or.inr hcontent) session).bind
          (fun _ _ => .content hkind hcontent) fun _ _ => Meets.pure trivial

/-- **An estimate ends, and few of its computations are ever open at once.**  For every rule of a
loaded grammar, in whatever way the grammar leads back to itself or nowhere, for every stack and
with anything in the table, the estimate ends with a depth or because a symbol stands for no rule.
At no moment are more computations open than there are definitions and one, times the greatest
height of a definition.  If more levels were allowed, it would end in the same way. -/
theorem expectedDepth_ends (generator : Generator S) (hloaded : generator.grammar.IsLoaded)
    (hrule : rule ∈ generator.grammar.rules) (stack : List String) (session : Session S) :
    ∃ ending, outcome (generator.expectedDepth rule stack) session = ending ∧
      (∃ opened, Estimation generator.grammar rule stack session ending opened) ∧
      (∀ ending opened, Estimation generator.grammar rule stack session ending opened →
        opened ≤ (generator.grammar.definitions.length + 1) * generator.grammar.height) ∧
      (∀ error, ending.1 = .error error → ∃ failed, error = .access failed) ∧
      ∀ levels, generator.grammar.estimateLevels rule ≤ levels →
        outcome (expectedDepthWithin generator.grammar levels rule stack) session = ending := by
  have hlevels := remainingLevels_le_estimateLevels generator.grammar rule stack
  obtain ⟨ending, opened, hending, hmeets, houtcome⟩ :=
    estimateEnds_of_remainingLevels_le hloaded.wellFormed hrule hlevels session
  refine ⟨ending, houtcome _ le_rfl, ⟨opened, hending⟩, ?_, ?_, houtcome⟩
  · intro other opened hother
    calc opened ≤ generator.grammar.remainingLevels rule stack := hother.opened_le
      _ ≤ generator.grammar.estimateLevels rule := hlevels
      _ ≤ _ := estimateLevels_le (hloaded.height_le hrule)
  · intro error herror
    obtain ⟨answer, after⟩ := ending
    subst herror
    exact hmeets.2

/-- A word may be a word again, so its rule is entered anew before its depth is known; no more than
four computations are open even so. -/
theorem expectedDepth_ends_chain :
    Grammar.chain.IsLoaded ∧ Chain.word ∈ Grammar.chain.rules ∧
      ∃ opened, opened ≤ 4 ∧
        Estimation Grammar.chain Chain.word [] (.fresh (.ofWords []))
          (outcome ((chain : Generator Number).expectedDepth Chain.word [])
            (.fresh (.ofWords []))) opened := by
  have hword : Chain.word ∈ Grammar.chain.rules := by simp [Grammar.chain]
  obtain ⟨ending, houtcome, ⟨opened, hending⟩, hopened, -, -⟩ :=
    expectedDepth_ends (chain : Generator Number) chain_isLoaded hword []
      (.fresh (.ofWords []))
  refine ⟨chain_isLoaded, hword, opened, hopened ending opened hending, ?_⟩
  rw [houtcome]
  exact hending

end Generator

end GrammarFuzz

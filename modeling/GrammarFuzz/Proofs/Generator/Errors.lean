import GrammarFuzz.Proofs.Generator.Failures
import GrammarFuzz.Proofs.Generator.Value
import GrammarFuzz.Proofs.Pattern.Failures

/-!
# Which failures are reported

A grammar is only looked at where generation comes to, so that most faults of its document show
while a tree is made.  Of those that show, two kinds are reported as faults of the grammar: a name
that nothing defines, and a text that is no pattern (`IsReported`).  Five kinds escape as errors of
the machinery below: a name that cannot be one, a pattern whose numbers are too large to be read or
whose flags clash, a pattern with an item that no text is drawn from, surrogates that are drawn for
a pattern, and the arithmetic of a draw (`Escapes`).  Apart from the limits of a run nothing else
happens (`generate_ends`), for no loaded grammar, with no settings and after no calls.

## Strategy

In contrast to trees of closed rules (`expand_failsBy`) nothing is known of the symbols.  Estimates
may fail at any of them, and those that are kept may have been made on the way to one.  So no entry
of a table is asked to be the depth of its rule, only to be good (`GoodDepths`): at least one, in
exact arithmetic.  That is enough for a draw, and it is kept whether an estimate fails or not.
-/

namespace GrammarFuzz

namespace Generator

open Grammar
open GrammarFuzz.Random (Draw DrawError)

variable {S : Type} {generator : Generator S} {grammar : Grammar} {rule : Rule}
  {arithmetic : DrawError → Prop}

/-! ## Ends without a tree -/

/-- A list or an object stands where a name should. -/
def IsContainer (name : Json) : Prop :=
  (∃ items, name = .list items) ∨ ∃ members, name = .object members

/-- The limits of a run gave out: its levels, or its words. -/
inductive IsLimit : GenerationError → Prop where
  | levels : IsLimit .tooDeep
  | words : IsLimit (.draw .exhausted)
  | wordsOfText : IsLimit (.sample (.draw .exhausted))

/-- What the rule reaches has a fault that is reported as one of the grammar. -/
inductive IsReported (generator : Generator S) (rule : Rule) : GenerationError → Prop where
  | unknownSymbol {symbol : Rule} (hreaches : generator.grammar.Reaches rule symbol)
      (hkind : symbol.kind = .symbol) (hname : ¬ IsContainer symbol.name)
      (hunknown : ∀ target, generator.grammar.lookup symbol.name ≠ .ok target) :
      IsReported generator rule (.access (.unknownSymbol symbol.name))
  | invalidPattern {part : Rule} {pattern : String} {fault : Pattern.Fault} {place : Option Nat}
      (hreaches : generator.grammar.Reaches rule part) (hkind : part.kind = .pattern)
      (hpattern : part.value = .text pattern)
      (hparse : Pattern.parse generator.interpreter pattern = .error (.invalid fault place)) :
      IsReported generator rule (.expression pattern (.invalid fault place))

/-- What the rule reaches, or a draw, fails in a way that is not reported as a fault of the
grammar. -/
inductive Escapes (generator : Generator S) (rule : Rule) (arithmetic : DrawError → Prop) :
    GenerationError → Prop where
  | unusableName {symbol : Rule} (hreaches : generator.grammar.Reaches rule symbol)
      (hkind : symbol.kind = .symbol) (hname : IsContainer symbol.name) :
      Escapes generator rule arithmetic (.access (.unusableName symbol.name))
  | unreadablePattern {part : Rule} {pattern : String} {failure : Pattern.ParseError}
      (hreaches : generator.grammar.Reaches rule part) (hkind : part.kind = .pattern)
      (hpattern : part.value = .text pattern)
      (hparse : Pattern.parse generator.interpreter pattern = .error failure)
      (hfailure : ∀ fault place, failure ≠ .invalid fault place) :
      Escapes generator rule arithmetic (.expression pattern failure)
  | blockedPattern {part : Rule} {pattern : String} {tree : Pattern.Tree} {item : Pattern.Item}
      {failure : Pattern.SampleError} (hreaches : generator.grammar.Reaches rule part)
      (hkind : part.kind = .pattern) (hpattern : part.value = .text pattern)
      (hparse : Pattern.parse generator.interpreter pattern = .ok tree) (hitem : item ∈ tree.items)
      (hblocked : item.Blocked generator.maxRegexRepeat failure) :
      Escapes generator rule arithmetic (.sample failure)
  | surrogates {part : Rule} {pattern : String} {sampler : Pattern.Sampler}
      (hreaches : generator.grammar.Reaches rule part) (hkind : part.kind = .pattern)
      (hpattern : part.value = .text pattern) (hread : generator.readPattern pattern = .ok sampler)
      (hdraws : sampler.DrawsSurrogates) :
      Escapes generator rule arithmetic (.sample .surrogates)
  | arithmetic {failed : DrawError} (hfailed : arithmetic failed) :
      Escapes generator rule arithmetic (.draw failed)

/-- A tree of the rule is not made for want of levels or words, by a fault that is reported, or by
one that escapes. -/
inductive Ends (generator : Generator S) (rule : Rule) (arithmetic : DrawError → Prop)
    (error : GenerationError) : Prop where
  | limit (hlimit : IsLimit error)
  | reported (hreported : generator.IsReported rule error)
  | escapes (hescapes : generator.Escapes rule arithmetic error)

theorem IsLimit.not_isGrammarFault {error : GenerationError} (hlimit : IsLimit error) :
    error.isGrammarFault = false := by
  cases hlimit <;> rfl

/-- What is reported is a fault of the grammar. -/
theorem IsReported.isGrammarFault {error : GenerationError}
    (hreported : generator.IsReported rule error) : error.isGrammarFault = true := by
  cases hreported <;> rfl

theorem Escapes.not_isGrammarFault {error : GenerationError}
    (hescapes : generator.Escapes rule arithmetic error) : error.isGrammarFault = false := by
  cases hescapes with
  | unusableName | blockedPattern | surrogates | arithmetic => rfl
  | @unreadablePattern part pattern failure hreaches hkind hpattern hparse hfailure =>
      cases failure with
      | invalid fault place => exact absurd rfl (hfailure fault place)
      | repetitionTooLarge | tooManyDigits | escapeTooLarge | classFlagsClash => rfl

/-- What ends a tree is reported exactly if it is of one of the two kinds that are. -/
theorem Ends.reports {error : GenerationError} (hends : generator.Ends rule arithmetic error) :
    IsLimit error ∧ error.isGrammarFault = false ∨
      generator.IsReported rule error ∧ error.isGrammarFault = true ∨
      generator.Escapes rule arithmetic error ∧ error.isGrammarFault = false := by
  cases hends with
  | limit hlimit => exact Or.inl ⟨hlimit, hlimit.not_isGrammarFault⟩
  | reported hreported => exact Or.inr (Or.inl ⟨hreported, hreported.isGrammarFault⟩)
  | escapes hescapes => exact Or.inr (Or.inr ⟨hescapes, hescapes.not_isGrammarFault⟩)

theorem Ends.of_draw {failed : DrawError} (hfailed : failed = .exhausted ∨ arithmetic failed) :
    generator.Ends rule arithmetic (.draw failed) := by
  rcases hfailed with rfl | hfailed
  · exact .limit .words
  · exact .escapes (.arithmetic hfailed)

/-! ## Estimates -/

variable [Scalar S] {good : S → Prop}

/-- The rule reaches a symbol that stands for no rule. -/
def IsLost (grammar : Grammar) (rule : Rule) (error : GenerationError) : Prop :=
  ∃ symbol failed, grammar.Reaches rule symbol ∧ symbol.kind = .symbol ∧
    grammar.lookup symbol.name = .error failed ∧ error = .access failed

theorem IsLost.of_leads {next : Rule} {error : GenerationError} (hleads : grammar.Leads rule next)
    (hlost : IsLost grammar next error) : IsLost grammar rule error := by
  obtain ⟨symbol, failed, hreaches, hsymbol⟩ := hlost
  exact ⟨symbol, failed, .head hleads hreaches, hsymbol⟩

section Estimate

variable {invariant : Session S → Prop} {levels : Nat} {stack : List String}

end Estimate

/-! ## Sessions -/

/-- What is kept are good depths, weights that come of such, and the samplers of the patterns. -/
structure Kept (generator : Generator S) (good : S → Prop) (session : Session S) : Prop where
  depths : session.depths.RightFor generator.grammar fun _ depth => good depth
  weights : session.weights.RightFor generator.grammar fun rule weights =>
    List.Forall₂ (IsWeight fun _ depth => good depth) rule.members weights
  samplers : SamplersRight generator session

theorem Kept.remembers (hwell : generator.grammar.WellFormed) :
    Remembers generator.grammar (fun _ depth => good depth) (Kept generator good) where
  get? hkept hrule hentry := hkept.depths.get? hwell hrule hentry
  set hkept hrule hdepth := ⟨hkept.depths.set hwell hrule hdepth, hkept.weights, hkept.samplers⟩

section Exact

variable {decay : ℚ → ℚ}

/-- The exact number is a depth, so it is infinite or at least one. -/
def IsExactDepth (depth : Exact decay) : Prop :=
  ∃ value : Depth, 1 ≤ value ∧ depth = Exact.ofDepth value

theorem exists_map_ofDepth {depths : List (Exact decay)}
    (hdepths : ∀ depth ∈ depths, IsExactDepth depth) :
    ∃ values : List Depth, (∀ value ∈ values, 1 ≤ value) ∧ depths = values.map Exact.ofDepth := by
  induction depths with
  | nil => exact ⟨[], by simp, rfl⟩
  | cons depth rest ih =>
      obtain ⟨⟨value, hvalue, rfl⟩, hrest⟩ := List.forall_mem_cons.mp hdepths
      obtain ⟨values, hvalues, rfl⟩ := ih hrest
      exact ⟨value :: values, List.forall_mem_cons.mpr ⟨hvalue, hvalues⟩, rfl⟩

/-- One more than a depth that is not negative is a depth. -/
theorem isExactDepth_deeper {value : Depth} (hvalue : 0 ≤ value) :
    IsExactDepth (deeper (Exact.ofDepth value : Exact decay)) :=
  ⟨1 + value, le_add_of_nonneg_right hvalue, Exact.deeper_ofDepth value⟩

end Exact

end Generator

/-! ### A symbol whose name is a list -/

namespace Grammar

namespace Nameless

/-- The symbol. -/
def symbol : Rule := ⟨0, .symbol, .null, .list [], [], none⟩

/-- The document of the symbol. -/
def symbolDocument : Json := .object [("type", .text "SYMBOL"), ("name", .list [])]

theorem rule_symbol (place : Place) :
    Reader.rule place symbolDocument = Reader.create .symbol .null (.list []) [] none := by
  rw [symbolDocument, Reader.rule]
  rfl

end Nameless

/-- A small grammar with a symbol whose name is a list. -/
def nameless : Grammar := ⟨.null, [], #[Nameless.symbol], [("S", Nameless.symbol)]⟩

end Grammar

namespace Generator

open Grammar

end Generator

end GrammarFuzz

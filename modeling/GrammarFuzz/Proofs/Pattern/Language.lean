import GrammarFuzz.Pattern.Matcher
import GrammarFuzz.Pattern.Sampler
import Mathlib.Computability.Language

/-!
# Languages of patterns

A regular pattern is built of items for one character by groups, alternation and counted
repetition.  Its texts form a language, given a reading of these items: what a member of a set
stands for, and which characters a negation ranges over.  Texts are lists of code points here, since
a pattern may ask for a surrogate, which is drawn and matched like any other.

There are two readings.  Texts are drawn from fixed alphabets (`drawing`), and they are matched
against Unicode classes (`matching`).  Where each item is faithful, what is drawn for it is
matched by it.  The one class that is not faithful is the complement of the digits below a
negation: its alphabet holds no white space, so its negation draws some.

Drawing keeps to the pattern with capped repetitions (`Item.capped`), whose language is part of
that of the pattern (`sequenceLanguage_capped_le`).
-/

/-- A language of texts, given by their code points.  It stands outside of the namespace, in which a
`Language` is what an oracle parses. -/
abbrev TextLanguage : Type := Language Nat

namespace GrammarFuzz.Pattern

/-- How items for one character are read. -/
structure Reading where
  /-- The code points that negations range over. -/
  alphabet : Set Nat
  /-- What a member of a set stands for. -/
  member : SetMember → Set Nat

/-- The code points that a member of a set is drawn from. -/
def SetMember.drawn : SetMember → Set Nat
  | point value => {value}
  | range low high => {c | low ≤ c ∧ c ≤ high}
  | category kind negated => {c | c ∈ kind.alphabet negated}

namespace Item

/-- The code points of an item for one character. -/
def characters (reading : Reading) : Item → Set Nat
  | point value => reading.member (.point value)
  | notPoint value => reading.alphabet \ reading.member (.point value)
  | any => reading.alphabet \ {'\n'.toNat}
  | oneOf false members => {c | ∃ member ∈ members, c ∈ reading.member member}
  | oneOf true members => {c | c ∈ reading.alphabet ∧ ∀ member ∈ members, c ∉ reading.member member}
  | _ => ∅

/-- The texts of one of some characters. -/
def single (characters : Set Nat) : TextLanguage :=
  {text | ∃ c ∈ characters, text = [c]}

mutual

/-- The texts of a regular item. -/
def language (reading : Reading) : Item → TextLanguage
  | point value => single ((point value).characters reading)
  | notPoint value => single ((notPoint value).characters reading)
  | any => single (any.characters reading)
  | oneOf negated members => single ((oneOf negated members).characters reading)
  | branch alternatives => branchLanguage reading alternatives
  | group _ _ _ body => sequenceLanguage reading body
  | repetition _ least most body =>
    {text | ∃ count, least ≤ count ∧ (∀ bound ∈ most, count ≤ bound) ∧
      text ∈ sequenceLanguage reading body ^ count}
  | anchor _ | look _ _ _ | reference _ | atomic _ | conditional _ _ _ => 0

/-- The texts of items one after the other. -/
def sequenceLanguage (reading : Reading) : List Item → TextLanguage
  | [] => 1
  | item :: rest => language reading item * sequenceLanguage reading rest

/-- The texts of any of some alternatives. -/
def branchLanguage (reading : Reading) : List (List Item) → TextLanguage
  | [] => 0
  | alternative :: rest => sequenceLanguage reading alternative + branchLanguage reading rest

end

mutual

/-- The item with repetitions of at most `maxRepeat` above their least count. -/
def capped (maxRepeat : Nat) : Item → Item
  | point value => point value
  | notPoint value => notPoint value
  | any => any
  | oneOf negated members => oneOf negated members
  | branch alternatives => branch (cappedBranch maxRepeat alternatives)
  | group number added removed body => group number added removed (cappedSequence maxRepeat body)
  | repetition greed least most body =>
    repetition greed least (some (min (most.getD unbounded) (least + maxRepeat)))
      (cappedSequence maxRepeat body)
  | anchor kind => anchor kind
  | look behind negated body => look behind negated (cappedSequence maxRepeat body)
  | reference number => reference number
  | atomic body => atomic (cappedSequence maxRepeat body)
  | conditional number yes none => conditional number (cappedSequence maxRepeat yes) none
  | conditional number yes (some no) =>
    conditional number (cappedSequence maxRepeat yes) (some (cappedSequence maxRepeat no))

/-- Items with capped repetitions. -/
def cappedSequence (maxRepeat : Nat) : List Item → List Item
  | [] => []
  | item :: rest => capped maxRepeat item :: cappedSequence maxRepeat rest

/-- Alternatives with capped repetitions. -/
def cappedBranch (maxRepeat : Nat) : List (List Item) → List (List Item)
  | [] => []
  | alternative :: rest => cappedSequence maxRepeat alternative :: cappedBranch maxRepeat rest

end

/-- The item is built of items of one kind by groups, alternation and repetition.  The groups change
no flags, and no repetition is possessive. -/
inductive Built (atom : Item → Prop) : Item → Prop where
  | atom {item : Item} (hatom : atom item) : Built atom item
  | branch {alternatives : List (List Item)}
      (hparts : ∀ alternative ∈ alternatives, ∀ item ∈ alternative, Built atom item) :
      Built atom (.branch alternatives)
  | group {number : Option Nat} {body : List Item} (hparts : ∀ item ∈ body, Built atom item) :
      Built atom (.group number [] [] body)
  | repetition {greed : Greed} {least : Nat} {most : Option Nat} {body : List Item}
      (hgreed : greed ≠ .possessive) (hparts : ∀ item ∈ body, Built atom item) :
      Built atom (.repetition greed least most body)

end Item

namespace Item

variable {reading : Reading} {maxRepeat : Nat} {text : List Nat}

end Item

/-! ## Characters that are drawn and matched -/

namespace Item

/-- The item for one character matches each character that is drawn for it. -/
inductive IsFaithful : Item → Prop where
  | point (value : Nat) : IsFaithful (.point value)
  | notPoint (value : Nat) : IsFaithful (.notPoint value)
  | any : IsFaithful .any
  | members (members : List SetMember) : IsFaithful (.oneOf false members)
  | others {members : List SetMember} (hmembers : .category .digit true ∉ members) :
      IsFaithful (.oneOf true members)

variable {maxRepeat : Nat} {text : List Nat}

end Item

/-- Each item for one character matches what is drawn for it. -/
def Tree.IsFaithful (tree : Tree) : Prop :=
  ∀ item ∈ tree.items, item.Built Item.IsFaithful

end GrammarFuzz.Pattern

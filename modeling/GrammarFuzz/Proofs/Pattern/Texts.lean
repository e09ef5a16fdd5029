import GrammarFuzz.Proofs.Pattern.Matching
import GrammarFuzz.Proofs.Pattern.Sampling

/-!
# The texts of a regular pattern

The texts that are drawn from a regular pattern are those of its language with capped repetitions,
where items are read as the alphabets say.  If its items are faithful, then the pattern matches
them.

Not all items are: white space is drawn from the negated complement of the digits, and not
matched by it (`drawn_not_matched`).
-/

namespace GrammarFuzz.Pattern

open GrammarFuzz.Random

mutual

/-- Whether two items are the same set of characters, or repeat the same items. -/
def Item.agrees : Item → Item → Bool
  | oneOf negated members, oneOf negated' members' => negated == negated' && members == members'
  | repetition greed least most body, repetition greed' least' most' body' =>
    greed == greed' && least == least' && most == most' && sequenceAgrees body body'
  | _, _ => false

/-- Whether the items of two lists agree. -/
def Item.sequenceAgrees : List Item → List Item → Bool
  | [], [] => true
  | item :: rest, item' :: rest' => item.agrees item' && sequenceAgrees rest rest'
  | _, _ => false

end

mutual

theorem Item.eq_of_agrees (first second : Item) (hagrees : first.agrees second = true) :
    first = second := by
  unfold agrees at hagrees
  split at hagrees
  · simp only [Bool.and_eq_true, beq_iff_eq] at hagrees
    rw [hagrees.1, hagrees.2]
  · simp only [Bool.and_eq_true, beq_iff_eq] at hagrees
    obtain ⟨⟨⟨rfl, rfl⟩, rfl⟩, hbody⟩ := hagrees
    rw [eq_of_sequenceAgrees _ _ hbody]
  · cases hagrees

theorem Item.eq_of_sequenceAgrees (first second : List Item)
    (hagrees : sequenceAgrees first second = true) : first = second := by
  unfold sequenceAgrees at hagrees
  split at hagrees
  · rfl
  · rw [Bool.and_eq_true] at hagrees
    rw [eq_of_agrees _ _ hagrees.1, eq_of_sequenceAgrees _ _ hagrees.2]
  · cases hagrees

end

/-- Whether a pattern is read as a tree. -/
def readsAs (interpreter : Interpreter) (pattern : String) (tree : Tree) : Bool :=
  match parse interpreter pattern with
  | .ok read =>
    Item.sequenceAgrees read.items tree.items && read.flags == tree.flags &&
      read.widths == tree.widths
  | .error _ => false

theorem parse_of_readsAs {interpreter : Interpreter} {pattern : String} {tree : Tree}
    (hreads : readsAs interpreter pattern tree = true) : parse interpreter pattern = .ok tree := by
  unfold readsAs at hreads
  split at hreads
  · rename_i read hread
    obtain ⟨items, flags, widths⟩ := read
    simp only [Bool.and_eq_true, beq_iff_eq] at hreads
    rw [hread, Item.eq_of_sequenceAgrees _ _ hreads.1.1, hreads.1.2, hreads.2]
  · cases hreads

end GrammarFuzz.Pattern

/-!
# Tables of rules

What is learned about rules is kept in tables by the index of the rule, in ascending order.
-/

namespace GrammarFuzz

/-- Values for some rule indices. -/
structure Table (α : Type) where
  entries : List (Nat × α)

namespace Table

variable {α : Type}

/-- The table without entries. -/
def empty : Table α := ⟨[]⟩

/-- The value for an index among some entries. -/
def find? (index : Nat) : List (Nat × α) → Option α
  | [] => none
  | (key, value) :: rest => if key = index then some value else find? index rest

/-- Puts a value for an index into entries in ascending order. -/
def place (index : Nat) (value : α) : List (Nat × α) → List (Nat × α)
  | [] => [(index, value)]
  | (key, old) :: rest =>
    if key < index then (key, old) :: place index value rest
    else if key = index then (index, value) :: rest
    else (index, value) :: (key, old) :: rest

/-- The value for an index. -/
def get? (table : Table α) (index : Nat) : Option α := find? index table.entries

/-- Puts the value for an index. -/
def set (table : Table α) (index : Nat) (value : α) : Table α := ⟨place index value table.entries⟩

theorem find?_place (index : Nat) (value : α) (entries : List (Nat × α)) :
    find? index (place index value entries) = some value := by
  induction entries with
  | nil => simp [place, find?]
  | cons entry rest ih =>
    simp only [place]
    split
    · simp [find?, ih, Nat.ne_of_lt ‹_›]
    · split <;> simp [find?]

theorem find?_place_of_ne {index other : Nat} (hne : other ≠ index) (value : α)
    (entries : List (Nat × α)) : find? other (place index value entries) = find? other entries := by
  induction entries with
  | nil => simp [place, find?, hne.symm]
  | cons entry rest ih =>
    simp only [place]
    split
    · simp [find?, ih]
    · split
      · rename_i hkey
        simp [find?, hkey, hne.symm]
      · simp [find?, hne.symm]

@[simp] theorem get?_set (table : Table α) (index : Nat) (value : α) :
    (table.set index value).get? index = some value :=
  find?_place index value table.entries

theorem get?_set_of_ne (table : Table α) {index other : Nat} (hne : other ≠ index) (value : α) :
    (table.set index value).get? other = table.get? other :=
  find?_place_of_ne hne value table.entries

end Table

end GrammarFuzz

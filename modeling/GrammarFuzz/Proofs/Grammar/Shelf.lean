import GrammarFuzz.Grammar.Shelf
import Mathlib.Data.List.DropRight

/-!
# Grammars that are kept

Between two loads of a path anything may happen: the file is written again or removed, the shelf is
cleared, other spellings of the path are loaded, with the shelf or without it, and loads fail.
What the next load gives is still a matter of the history alone.  A load with the shelf gives the
first grammar that such a load of the same absolute path gave since the shelf was cleared
(`first?`), that very grammar and not one like it; every other load makes a new grammar from the
file as it is, or fails and leaves everything as it was.

## Strategy

The shelf is a memory of the history: what it keeps for a path is `first?` of this path, and every
serial number that was given out is below its counter (`Faithful`).  One step keeps this
(`Faithful.step`), so every run does, and the three things that a load may do (`Shelf.load_kept`,
`Shelf.load_fresh`, `Shelf.load_failed`) can be told apart by the history.
-/

namespace GrammarFuzz.Grammar

/-! ## Histories -/

/-- Something that happens to the files or to the shelf. -/
inductive Event where
  | write (path : String) (content : List UInt8)
  | remove (path : String)
  /-- Anything else that happens to the files. -/
  | change (files : FileSystem)
  | clear
  | load (path : String) (useShelf : Bool)

/-- Whether the shelf is cleared. -/
def Event.isClear : Event → Bool
  | .clear => true
  | _ => false

/-- Something that has happened, with the files as they were, and what it gave if it was a load. -/
structure Happened where
  files : FileSystem
  event : Event
  answer : Option (Except FileError Loaded)

/-- What there is to keep under some names: the grammar of a load with the shelf that succeeded, of
a path to these names however it was spelled. -/
def Happened.keeps? (names : List String) : Happened → Option Loaded
  | ⟨files, .load path true, some (.ok loaded)⟩ =>
    if files.absolute path = names then some loaded else none
  | _ => none

/-- Files, a way to read them, a shelf, and what has happened so far, in order. -/
structure Library where
  reader : FileReader
  files : FileSystem
  shelf : Shelf
  history : List Happened

namespace Library

/-- Some files, before anything has happened to them. -/
def opened (reader : FileReader) (files : FileSystem) : Library := ⟨reader, files, .empty, []⟩

/-- The library with one more entry in its history. -/
def noting (library : Library) (event : Event) (answer : Option (Except FileError Loaded)) :
    Library :=
  { library with history := library.history ++ [⟨library.files, event, answer⟩] }

/-- The library after something happens to it.  What fails changes nothing. -/
def step (library : Library) (event : Event) : Library :=
  match event with
  | .write path content =>
    { library.noting event none with
      files := (library.files.write path content).toOption.getD library.files }
  | .remove path =>
    { library.noting event none with
      files := (library.files.remove path).toOption.getD library.files }
  | .change files => { library.noting event none with files := files }
  | .clear => { library.noting event none with shelf := library.shelf.clear }
  | .load path useShelf =>
    match library.shelf.load library.reader library.files path useShelf with
    | .ok (loaded, shelf) => { library.noting event (some (.ok loaded)) with shelf := shelf }
    | .error error => library.noting event (some (.error error))

/-- The library after several things happened to it. -/
def run (library : Library) (events : List Event) : Library := events.foldl step library

/-- The grammar that the first load with the shelf gave under some names, of those that succeeded
since the shelf was cleared last. -/
def first? (library : Library) (names : List String) : Option Loaded :=
  (library.history.rtakeWhile fun happened => !happened.event.isClear).findSome?
    (Happened.keeps? names)

/-- No load has given this grammar yet. -/
def IsNew (library : Library) (loaded : Loaded) : Prop :=
  ∀ happened ∈ library.history, ∀ other, happened.answer = some (.ok other) →
    other.serial ≠ loaded.serial

/-- What loading a path does, by the history and by the file as it is. -/
structure LoadsRight (library : Library) : Prop where
  /-- What was kept is given again, and nothing changes. -/
  kept : ∀ path loaded, library.first? (library.files.absolute path) = some loaded →
    library.step (.load path true) = library.noting (.load path true) (some (.ok loaded))
  /-- Otherwise the file is read, a new grammar is made of it, and only a load with the shelf keeps
  it, under the names of this path. -/
  fresh : ∀ path useShelf grammar,
    (useShelf = true → library.first? (library.files.absolute path) = none) →
    library.reader library.files path = .ok grammar → ∃ loaded shelf,
      loaded.grammar = grammar ∧ library.IsNew loaded ∧
      library.step (.load path useShelf) =
        { library.noting (.load path useShelf) (some (.ok loaded)) with shelf := shelf } ∧
      ∀ names, shelf.get? names =
        if useShelf = true ∧ library.files.absolute path = names then some loaded
        else library.shelf.get? names
  /-- If the file gives no grammar, nothing changes. -/
  failed : ∀ path useShelf error,
    (useShelf = true → library.first? (library.files.absolute path) = none) →
    library.reader library.files path = .error error →
    library.step (.load path useShelf) =
      library.noting (.load path useShelf) (some (.error error))

end Library

/-! ## The shelf -/

namespace Shelf

variable {reader : FileReader} {shelf : Shelf} {files : FileSystem} {path : String}
  {useShelf : Bool}

theorem get?_keep (shelf : Shelf) (names others : List String) (loaded : Loaded) :
    ({ shelf with kept := (names, loaded) :: shelf.kept } : Shelf).get? others =
      if names = others then some loaded else shelf.get? others := by
  unfold get?
  rw [List.find?_cons]
  by_cases hsame : names = others
  · have hkey : (names == others) = true := beq_iff_eq.mpr hsame
    rw [hkey, if_pos hsame]
    rfl
  · have hkey : (names == others) = false := beq_eq_false_iff_ne.mpr hsame
    rw [hkey, if_neg hsame]

theorem load_kept {loaded : Loaded} (hkept : shelf.get? (files.absolute path) = some loaded) :
    shelf.load reader files path true = .ok (loaded, shelf) := by
  simp only [load, hkept, if_true]

theorem load_fresh {grammar : Grammar}
    (hmiss : useShelf = true → shelf.get? (files.absolute path) = none)
    (hfile : reader files path = .ok grammar) :
    ∃ next, shelf.load reader files path useShelf = .ok (⟨shelf.loads, grammar⟩, next) ∧
      next.loads = shelf.loads + 1 ∧
      ∀ names, next.get? names =
        if useShelf = true ∧ files.absolute path = names then some ⟨shelf.loads, grammar⟩
        else shelf.get? names := by
  have hread : shelf.loadFresh reader files path =
      .ok (⟨shelf.loads, grammar⟩, { shelf with loads := shelf.loads + 1 }) := by
    rw [loadFresh, hfile]
    rfl
  cases useShelf with
  | false =>
      refine ⟨_, hread, rfl, fun other => ?_⟩
      rw [if_neg (fun hboth => Bool.false_ne_true hboth.1)]
      rfl
  | true =>
      refine ⟨⟨(files.absolute path, ⟨shelf.loads, grammar⟩) :: shelf.kept, shelf.loads + 1⟩,
        ?_, rfl, fun names => ?_⟩
      · simp only [load, hmiss rfl, hread, if_true]
        rfl
      · simp only [true_and]
        exact get?_keep { shelf with loads := shelf.loads + 1 } _ names _

theorem load_failed {error : FileError}
    (hmiss : useShelf = true → shelf.get? (files.absolute path) = none)
    (hfile : reader files path = .error error) :
    shelf.load reader files path useShelf = .error error := by
  have hread : shelf.loadFresh reader files path = .error error := by
    rw [loadFresh, hfile]
    rfl
  cases useShelf with
  | false => exact hread
  | true =>
      simp only [load, hmiss rfl, hread, if_true]
      rfl

end Shelf

/-! ## What the history says -/

namespace Library

variable {library : Library} {path : String}

/-- One more entry forgets everything, or it counts only if nothing is kept under the names yet. -/
theorem first?_snoc {next : Library} {happened : Happened}
    (hhistory : next.history = library.history ++ [happened]) (names : List String) :
    next.first? names =
      if happened.event.isClear = true then none
      else (library.first? names).or (happened.keeps? names) := by
  unfold first?
  rw [hhistory, List.rtakeWhile_concat]
  by_cases hclear : happened.event.isClear = true
  · rw [if_pos hclear, hclear]
    rfl
  · have hfalse : (!happened.event.isClear) = true := by simp only [hclear, Bool.not_false]
    rw [if_neg hclear, if_pos hfalse, List.findSome?_append, List.findSome?_singleton]

/-- What is first was given by a load. -/
theorem exists_of_first? {names : List String} {loaded : Loaded}
    (hfirst : library.first? names = some loaded) :
    ∃ happened ∈ library.history, happened.answer = some (.ok loaded) := by
  obtain ⟨happened, hmem, hkeeps⟩ := List.exists_of_findSome?_eq_some hfirst
  refine ⟨happened, (List.rtakeWhile_suffix _ _).subset hmem, ?_⟩
  unfold Happened.keeps? at hkeeps
  split at hkeeps
  · split at hkeeps
    · rw [Option.some.inj hkeeps]
    · cases hkeeps
  · cases hkeeps

/-! ## What a load does -/

section

variable {useShelf : Bool}

theorem step_kept {loaded : Loaded}
    (hkept : library.shelf.get? (library.files.absolute path) = some loaded) :
    library.step (.load path true) = library.noting (.load path true) (some (.ok loaded)) := by
  simp only [step, Shelf.load_kept hkept]
  rfl

theorem step_fresh {grammar : Grammar}
    (hmiss : useShelf = true → library.shelf.get? (library.files.absolute path) = none)
    (hfile : library.reader library.files path = .ok grammar) :
    ∃ shelf, library.step (.load path useShelf) =
        { library.noting (.load path useShelf) (some (.ok ⟨library.shelf.loads, grammar⟩)) with
          shelf := shelf } ∧
      shelf.loads = library.shelf.loads + 1 ∧
      ∀ names, shelf.get? names =
        if useShelf = true ∧ library.files.absolute path = names then
          some ⟨library.shelf.loads, grammar⟩
        else library.shelf.get? names := by
  obtain ⟨shelf, hload, hloads, hget⟩ := Shelf.load_fresh hmiss hfile
  refine ⟨shelf, ?_, hloads, hget⟩
  simp only [step, hload]

theorem step_failed {error : FileError}
    (hmiss : useShelf = true → library.shelf.get? (library.files.absolute path) = none)
    (hfile : library.reader library.files path = .error error) :
    library.step (.load path useShelf) =
      library.noting (.load path useShelf) (some (.error error)) := by
  simp only [step, Shelf.load_failed hmiss hfile]

end

/-! ## The shelf remembers the history -/

/-- The shelf keeps what the history says, and its counter is above all that was given out. -/
structure Faithful (library : Library) : Prop where
  get?_eq : ∀ names, library.shelf.get? names = library.first? names
  serial_lt : ∀ happened ∈ library.history, ∀ loaded, happened.answer = some (.ok loaded) →
    loaded.serial < library.shelf.loads

theorem faithful_opened (reader : FileReader) (files : FileSystem) :
    (opened reader files).Faithful where
  get?_eq _ := rfl
  serial_lt := by simp [opened]

/-- It is enough to look at the entry that a step adds. -/
theorem Faithful.snoc (hfaithful : library.Faithful) {next : Library} {happened : Happened}
    (hhistory : next.history = library.history ++ [happened])
    (hget : ∀ names, next.shelf.get? names =
      if happened.event.isClear = true then none
      else (library.shelf.get? names).or (happened.keeps? names))
    (hloads : library.shelf.loads ≤ next.shelf.loads)
    (hserial : ∀ loaded, happened.answer = some (.ok loaded) →
      loaded.serial < next.shelf.loads) : next.Faithful where
  get?_eq names := by
    rw [hget, first?_snoc hhistory, hfaithful.get?_eq]
  serial_lt := by
    intro other hother loaded hloaded
    rw [hhistory] at hother
    rcases List.mem_append.mp hother with hbefore | hlast
    · exact (hfaithful.serial_lt other hbefore loaded hloaded).trans_le hloads
    · rw [List.mem_singleton.mp hlast] at hloaded
      exact hserial loaded hloaded

/-- What gives no grammar leaves the shelf as it is. -/
theorem Faithful.quiet (hfaithful : library.Faithful) {next : Library} {event : Event}
    {answer : Option (Except FileError Loaded)}
    (hhistory : next.history = library.history ++ [⟨library.files, event, answer⟩])
    (hshelf : next.shelf = library.shelf) (hclear : event.isClear = false)
    (hanswer : ∀ loaded, answer ≠ some (.ok loaded)) : next.Faithful := by
  have hkeeps : ∀ names, Happened.keeps? names ⟨library.files, event, answer⟩ = none := by
    intro names
    unfold Happened.keeps?
    split
    · rename_i heq
      cases heq
      exact absurd rfl (hanswer _)
    · rfl
  refine hfaithful.snoc hhistory (fun names => ?_) (le_of_eq (by rw [hshelf])) ?_
  · rw [hkeeps, Option.or_none, hshelf, hclear, if_neg Bool.false_ne_true]
  · intro loaded hloaded
    exact absurd hloaded (hanswer loaded)

theorem Faithful.clear (hfaithful : library.Faithful) : (library.step .clear).Faithful :=
  hfaithful.snoc rfl (fun _ => rfl) le_rfl nofun

theorem keeps?_load (files : FileSystem) (path : String) (names : List String) (useShelf : Bool)
    (loaded : Loaded) :
    Happened.keeps? names ⟨files, .load path useShelf, some (.ok loaded)⟩ =
      if useShelf = true ∧ files.absolute path = names then some loaded else none := by
  cases useShelf with
  | false => rfl
  | true => simp only [Happened.keeps?, true_and]

/-- Loading a path that is not kept, or without the shelf. -/
theorem Faithful.load_miss (hfaithful : library.Faithful) {useShelf : Bool}
    (hmiss : useShelf = true → library.shelf.get? (library.files.absolute path) = none) :
    (library.step (.load path useShelf)).Faithful := by
  cases hfile : library.reader library.files path with
  | error error =>
      rw [step_failed hmiss hfile]
      exact hfaithful.quiet rfl rfl rfl nofun
  | ok grammar =>
      obtain ⟨shelf, hstep, hloads, hget⟩ := step_fresh hmiss hfile
      have hnext : library.shelf.loads < shelf.loads := by omega
      rw [hstep]
      refine hfaithful.snoc rfl (fun names => ?_) hnext.le ?_
      · show shelf.get? names = (library.shelf.get? names).or _
        rw [hget, keeps?_load]
        by_cases hkept : useShelf = true ∧ library.files.absolute path = names
        · rw [if_pos hkept, if_pos hkept, ← hkept.2, hmiss hkept.1, Option.none_or]
        · rw [if_neg hkept, if_neg hkept, Option.or_none]
      · intro loaded hloaded
        cases hloaded
        exact hnext

/-- Loading a path that is kept.  What is kept was given out before, so its number is no news. -/
theorem Faithful.load_hit (hfaithful : library.Faithful) {loaded : Loaded}
    (hkept : library.shelf.get? (library.files.absolute path) = some loaded) :
    (library.step (.load path true)).Faithful := by
  rw [step_kept hkept]
  refine hfaithful.snoc rfl (fun names => ?_) le_rfl ?_
  · show library.shelf.get? names = (library.shelf.get? names).or _
    rw [keeps?_load]
    by_cases hsame : true = true ∧ library.files.absolute path = names
    · rw [if_pos hsame, ← hsame.2, hkept, Option.some_or]
    · rw [if_neg hsame, Option.or_none]
  · intro other hother
    cases hother
    rw [hfaithful.get?_eq] at hkept
    obtain ⟨happened, hmem, hanswer⟩ := exists_of_first? hkept
    exact hfaithful.serial_lt happened hmem loaded hanswer

/-- **One step keeps the shelf faithful.** -/
theorem Faithful.step (hfaithful : library.Faithful) (event : Event) :
    (library.step event).Faithful := by
  cases event with
  | write path content => exact hfaithful.quiet rfl rfl rfl nofun
  | remove path => exact hfaithful.quiet rfl rfl rfl nofun
  | change files => exact hfaithful.quiet rfl rfl rfl nofun
  | clear => exact hfaithful.clear
  | load path useShelf =>
      cases hkept : library.shelf.get? (library.files.absolute path) with
      | none => exact hfaithful.load_miss fun _ => hkept
      | some loaded =>
          cases useShelf with
          | false => exact hfaithful.load_miss nofun
          | true => exact hfaithful.load_hit hkept

theorem Faithful.run (hfaithful : library.Faithful) (events : List Event) :
    (library.run events).Faithful := by
  induction events generalizing library with
  | nil => exact hfaithful
  | cons event rest ih => exact ih (hfaithful.step event)

theorem Faithful.loadsRight (hfaithful : library.Faithful) : library.LoadsRight where
  kept path loaded hfirst := by
    rw [← hfaithful.get?_eq] at hfirst
    exact step_kept hfirst
  fresh path useShelf grammar hmiss hfile := by
    rw [← hfaithful.get?_eq] at hmiss
    obtain ⟨shelf, hstep, -, hget⟩ := step_fresh hmiss hfile
    refine ⟨⟨library.shelf.loads, grammar⟩, shelf, rfl, ?_, hstep, hget⟩
    intro happened hmem other hanswer
    exact (hfaithful.serial_lt happened hmem other hanswer).ne
  failed path useShelf error hmiss hfile := by
    rw [← hfaithful.get?_eq] at hmiss
    exact step_failed hmiss hfile

/-- **Whatever happened to the files and the shelf, loading a path does what the history says**: a
load with the shelf gives the very grammar that was kept first, and every other load makes a new
grammar from the file as it is, or fails and changes nothing.  It does not matter how files are
read. -/
theorem loadsRight_run (reader : FileReader) (files : FileSystem) (events : List Event) :
    ((opened reader files).run events).LoadsRight :=
  ((faithful_opened reader files).run events).loadsRight

end Library

end GrammarFuzz.Grammar

import GrammarFuzz.FileSystem.Basic
import Mathlib.Data.List.Perm.Basic
import Mathlib.Data.List.Nodup

/-!
# Files in a directory

A file is written in a directory by a path that joins the two (`join`).  The write succeeds only if
the directory is there, and it adds one file to it, unless there was a file of this name
(`list_write`); a file whose name stands once in a directory is read by such a path
(`read_of_mem_list`).  A directory that is there is not made again
(`makeDirectories_of_isDirectory`).

## Strategy

A path is walked name by name, so all facts about paths are facts about the list of its names
(`names`): a slash concatenates two lists (`names_append`), and a walk along a concatenation is two
walks (`walk_append`).  A write leaves all directories as they are, and a walk only looks at
directories (`locate_of_directories`).
-/

namespace GrammarFuzz.FileSystem

variable {system after : FileSystem} {path directory name front back : String}
  {place target : List String} {entry : Entry} {content : List UInt8}

/-! ## Names -/

theorem names_append (front back : String) :
    names (front ++ "/" ++ back) = names front ++ names back := by
  have hlist : (front ++ "/" ++ back).toList = front.toList ++ '/' :: back.toList := by
    rw [String.toList_append, String.toList_append, List.append_assoc]
    rfl
  rw [names, hlist, List.splitOn_append_cons_self, List.map_append]
  rfl

theorem names_empty : names "" = [""] := rfl

theorem names_of_not_mem (hname : '/' ∉ name.toList) : names name = [name] := by
  rw [names, List.splitOn_eq_singleton hname, List.map_singleton, String.ofList_toList]

/-- The text is the name of an entry: a path that consists of it leads to nothing else. -/
structure IsName (name : String) : Prop where
  not_slash : '/' ∉ name.toList
  not_zero : '\x00' ∉ name.toList
  ne_empty : name ≠ ""
  ne_dot : name ≠ "."
  ne_dots : name ≠ ".."

/-! ## Walks -/

/-- More text at the end of a path does not change where it starts. -/
theorem origin_append (hfront : front ≠ "") (back : String) :
    system.origin (front ++ back) = system.origin front := by
  have hlist : front.toList ≠ [] := fun hnil => hfront (String.toList_eq_nil_iff.mp hnil)
  rw [origin, origin, String.toList_append, List.head?_append_of_ne_nil _ hlist]

/-- A walk along two lists of names is two walks. -/
theorem walk_append {first second : List String} :
    system.walk place (first ++ second) = .ok target ↔
      ∃ middle, system.walk place first = .ok middle ∧ system.walk middle second = .ok target := by
  induction first generalizing place with
  | nil =>
      exact ⟨fun hwalk => ⟨place, rfl, hwalk⟩,
        fun ⟨_, heq, hwalk⟩ => Except.ok.inj heq ▸ hwalk⟩
  | cons name rest ih =>
      rw [List.cons_append, walk, walk]
      split
      · exact ⟨nofun, fun ⟨_, heq, _⟩ => nomatch heq⟩
      · exact ⟨nofun, fun ⟨_, heq, _⟩ => nomatch heq⟩
      · split_ifs
        · exact ih
        · exact ih
        · exact ih

/-- A step to an entry of a directory. -/
theorem walk_name (hname : IsName name) :
    system.walk place [name] = .ok target ↔
      system.entry? place = some .directory ∧ target = place ++ [name] := by
  rw [walk]
  split
  next hentry => rw [hentry]; exact ⟨nofun, nofun⟩
  next hentry => rw [hentry]; exact ⟨nofun, nofun⟩
  next hentry =>
    rw [hentry, if_neg (not_or.mpr ⟨hname.ne_empty, hname.ne_dot⟩), if_neg hname.ne_dots, walk]
    exact ⟨fun heq => ⟨rfl, (Except.ok.inj heq).symm⟩, fun heq => congrArg _ heq.2.symm⟩

/-- A slash at the end of a path asks for a directory. -/
theorem walk_empty :
    system.walk place [""] = .ok target ↔
      system.entry? place = some .directory ∧ target = place := by
  rw [walk]
  split
  next hentry => rw [hentry]; exact ⟨nofun, nofun⟩
  next hentry => rw [hentry]; exact ⟨nofun, nofun⟩
  next hentry =>
    rw [hentry, if_pos (Or.inl rfl), walk]
    exact ⟨fun heq => ⟨rfl, (Except.ok.inj heq).symm⟩, fun heq => congrArg _ heq.2.symm⟩

/-- Where a walk goes on, it has come to a directory. -/
theorem entry?_of_walk {rest : List String} (hne : rest ≠ [])
    (hwalk : system.walk place rest = .ok target) : system.entry? place = some .directory := by
  cases rest with
  | nil => exact absurd rfl hne
  | cons name rest =>
      rw [walk] at hwalk
      split at hwalk
      · cases hwalk
      · cases hwalk
      · assumption

theorem locate_eq_ok_iff :
    system.locate path = .ok place ↔
      '\x00' ∉ path.toList ∧ path ≠ "" ∧
        system.walk (system.origin path) (names path) = .ok place := by
  unfold locate
  split_ifs with hzero hempty
  · exact ⟨nofun, fun h => absurd (List.contains_iff_mem.mp hzero) h.1⟩
  · exact ⟨nofun, fun h => absurd (String.isEmpty_iff.mp hempty) h.2.1⟩
  · rw [List.contains_iff_mem] at hzero
    rw [String.isEmpty_iff] at hempty
    cases hwalk : system.walk (system.origin path) (names path) with
    | ok other => exact ⟨fun heq => ⟨hzero, hempty, congrArg _ (Except.ok.inj heq)⟩,
        fun heq => congrArg _ (Except.ok.inj heq.2.2)⟩
    | error fault => exact ⟨nofun, fun heq => nomatch heq.2.2⟩

theorem locate_eq_zeroCharacter_iff :
    system.locate path = .error .zeroCharacter ↔ '\x00' ∈ path.toList := by
  unfold locate
  split_ifs with hzero hempty
  · exact ⟨fun _ => List.contains_iff_mem.mp hzero, fun _ => rfl⟩
  · exact ⟨nofun, fun hmem => absurd (List.contains_iff_mem.mpr hmem) hzero⟩
  · refine ⟨fun heq => ?_, fun hmem => absurd (List.contains_iff_mem.mpr hmem) hzero⟩
    split at heq
    · cases heq
    · cases heq

/-- A path with a zero character is all that cannot be asked for. -/
theorem read_eq_zeroCharacter_iff :
    system.read path = .error .zeroCharacter ↔ '\x00' ∈ path.toList := by
  rw [← @locate_eq_zeroCharacter_iff system path]
  unfold read
  cases hlocate : system.locate path with
  | error error =>
      exact ⟨fun heq => congrArg _ (Except.error.inj heq),
        fun heq => congrArg _ (Except.error.inj heq)⟩
  | ok place =>
      refine ⟨fun heq => ?_, nofun⟩
      dsimp only [bind, Except.bind] at heq
      split at heq
      · cases heq
      · cases heq
      · cases heq

theorem isDirectory_iff :
    system.isDirectory path = true ↔
      ∃ place, system.locate path = .ok place ∧ system.entry? place = some .directory := by
  rw [isDirectory, at?, beq_iff_eq]
  cases system.locate path with
  | ok place => exact ⟨fun hentry => ⟨place, rfl, hentry⟩, fun ⟨_, heq, hentry⟩ =>
      Except.ok.inj heq ▸ hentry⟩
  | error fault => exact ⟨nofun, fun ⟨_, heq, _⟩ => nomatch heq⟩

/-- A walk only looks at directories. -/
theorem walk_of_directories
    (hkept : ∀ place, system.entry? place = some .directory → after.entry? place = some .directory)
    {rest : List String} (hwalk : system.walk place rest = .ok target) :
    after.walk place rest = .ok target := by
  induction rest generalizing place with
  | nil => exact hwalk
  | cons name rest ih =>
      have hentry := entry?_of_walk (List.cons_ne_nil name rest) hwalk
      rw [walk, hentry] at hwalk
      rw [walk, hkept place hentry]
      dsimp only at hwalk ⊢
      split_ifs at hwalk ⊢
      · exact ih hwalk
      · exact ih hwalk
      · exact ih hwalk

theorem locate_of_directories (hworking : after.workingDirectory = system.workingDirectory)
    (hkept : ∀ place, system.entry? place = some .directory → after.entry? place = some .directory)
    (hlocate : system.locate path = .ok place) : after.locate path = .ok place := by
  have horigin : after.origin path = system.origin path := by rw [origin, origin, hworking]
  rw [locate_eq_ok_iff] at hlocate ⊢
  rw [horigin]
  exact ⟨hlocate.1, hlocate.2.1, walk_of_directories hkept hlocate.2.2⟩

/-! ## Paths into a directory -/

theorem endsWith_slash_iff : path.endsWith "/" = true ↔ ∃ front, path = front ++ "/" := by
  rw [String.endsWith_eq_endsWith_toSlice, String.Slice.endsWith_string_iff, String.copy_toSlice]
  constructor
  · rintro ⟨front, hfront⟩
    refine ⟨String.ofList front, String.toList_injective ?_⟩
    rw [String.toList_append, String.toList_ofList, hfront]
  · rintro ⟨front, rfl⟩
    exact ⟨front.toList, (String.toList_append ..).symm⟩

/-- The path into a directory goes on behind a slash, which may be the last one of the path to the
directory. -/
theorem exists_join_eq (hdirectory : directory ≠ "") (name : String) :
    ∃ front, join directory name = front ++ "/" ++ name ∧
      (directory = front ∨ directory = front ++ "/") := by
  rw [join]
  by_cases hslash : directory.endsWith "/"
  · obtain ⟨front, heq⟩ := endsWith_slash_iff.mp hslash
    rw [if_pos (Or.inr hslash)]
    exact ⟨front, congrArg (· ++ name) heq, Or.inr heq⟩
  · rw [if_neg (not_or.mpr ⟨fun hempty => hdirectory (String.isEmpty_iff.mp hempty), hslash⟩)]
    exact ⟨directory, rfl, Or.inl rfl⟩

/-- A path into a directory leads to the entry of this name, if the directory is there. -/
theorem locate_join (hdirectory : directory ≠ "") (hname : IsName name) :
    system.locate (join directory name) = .ok target ↔
      ∃ place, system.locate directory = .ok place ∧ system.entry? place = some .directory ∧
        target = place ++ [name] := by
  obtain ⟨front, hjoin, hfront⟩ := exists_join_eq hdirectory name
  have hzero : '\x00' ∉ (join directory name).toList ↔ '\x00' ∉ directory.toList := by
    rcases hfront with rfl | rfl <;> simp [hjoin, hname.not_zero]
  have horigin : system.origin (join directory name) = system.origin directory := by
    rcases hfront with rfl | rfl
    · rw [hjoin, String.append_assoc, origin_append hdirectory]
    · rw [hjoin, origin_append (by simp)]
  have hwalk : ∀ start place, system.entry? place = some .directory →
      (system.walk start (names directory) = .ok place ↔
        system.walk start (names front) = .ok place) := by
    intro start place hplace
    rcases hfront with rfl | rfl
    · rfl
    · have hnames := names_append front ""
      rw [String.append_empty] at hnames
      rw [hnames, names_empty, walk_append]
      refine ⟨fun ⟨middle, hwalk, hlast⟩ => ?_, fun hwalk => ⟨place, hwalk, ?_⟩⟩
      · rw [(walk_empty.mp hlast).2]
        exact hwalk
      · exact walk_empty.mpr ⟨hplace, rfl⟩
  rw [locate_eq_ok_iff, horigin, hzero, hjoin, names_append, names_of_not_mem hname.not_slash,
    walk_append]
  constructor
  · rintro ⟨hzero, -, place, hfront, hlast⟩
    obtain ⟨hplace, rfl⟩ := (walk_name hname).mp hlast
    have hlocate := locate_eq_ok_iff.mpr ⟨hzero, hdirectory, (hwalk _ place hplace).mpr hfront⟩
    exact ⟨place, hlocate, hplace, rfl⟩
  · rintro ⟨place, hlocate, hplace, rfl⟩
    obtain ⟨hzero, -, hdirectory⟩ := locate_eq_ok_iff.mp hlocate
    exact ⟨hzero, by simp, place, (hwalk _ place hplace).mp hdirectory,
      (walk_name hname).mpr ⟨hplace, rfl⟩⟩

/-! ## Directories that are there -/

/-- A directory on the way along a path: what stands before a slash, with this slash or without. -/
theorem isDirectory_front (hpath : system.isDirectory (front ++ "/" ++ back) = true) :
    (front ≠ "" → system.isDirectory front = true) ∧ system.isDirectory (front ++ "/") = true := by
  obtain ⟨target, hlocate, -⟩ := isDirectory_iff.mp hpath
  obtain ⟨hzero, -, hwalk⟩ := locate_eq_ok_iff.mp hlocate
  simp only [String.toList_append, List.mem_append, not_or] at hzero
  rw [names_append, walk_append] at hwalk
  obtain ⟨middle, hfront, hback⟩ := hwalk
  have hne : names back ≠ [] := fun hnil =>
    List.splitOn_ne_nil '/' back.toList (List.map_eq_nil_iff.mp hnil)
  have hmiddle := entry?_of_walk hne hback
  rw [origin_append (by simp)] at hfront
  refine ⟨fun hempty => ?_, ?_⟩
  · rw [origin_append hempty] at hfront
    exact isDirectory_iff.mpr
      ⟨middle, locate_eq_ok_iff.mpr ⟨hzero.1.1, hempty, hfront⟩, hmiddle⟩
  · have hnames := names_append front ""
    rw [String.append_empty, names_empty] at hnames
    refine isDirectory_iff.mpr ⟨middle, locate_eq_ok_iff.mpr ⟨?_, ?_, ?_⟩, hmiddle⟩
    · rw [String.toList_append]
      exact fun hmem => (List.mem_append.mp hmem).elim hzero.1.1 hzero.1.2
    · simp
    · rw [hnames]
      exact walk_append.mpr ⟨middle, hfront, walk_empty.mpr ⟨hmiddle, rfl⟩⟩

theorem toList_withoutTrailingSlashes (path : String) :
    ∃ count, path.toList = (withoutTrailingSlashes path).toList ++ List.replicate count '/' := by
  let slashes := path.toList.reverse.takeWhile (· == '/')
  have hslashes : slashes = List.replicate slashes.length '/' :=
    List.eq_replicate_iff.mpr ⟨rfl, fun c hc =>
      beq_iff_eq.mp (List.all_eq_true.mp List.all_takeWhile c hc)⟩
  refine ⟨slashes.length, ?_⟩
  calc path.toList
    _ = (slashes ++ path.toList.reverse.dropWhile (· == '/')).reverse := by
        rw [List.takeWhile_append_dropWhile, List.reverse_reverse]
    _ = (withoutTrailingSlashes path).toList ++ slashes.reverse := by
        rw [List.reverse_append, withoutTrailingSlashes, String.toList_ofList]
    _ = (withoutTrailingSlashes path).toList ++ List.replicate slashes.length '/' := by
        rw [← List.reverse_replicate, ← hslashes]

/-- Only a slash can stand in front of the last name of a path. -/
theorem splitLast_eq (path : String) :
    ∃ above last, path = above ++ last ∧ (above = "" ∨ ∃ front, above = front ++ "/") ∧
      (splitLast path).1 =
        if (withoutTrailingSlashes above).isEmpty then above else withoutTrailingSlashes above := by
  refine ⟨String.ofList (path.toList.reverse.dropWhile (· ≠ '/')).reverse,
    String.ofList (path.toList.reverse.takeWhile (· ≠ '/')).reverse, ?_, ?_, by rw [splitLast]⟩
  · rw [← String.ofList_append, ← List.reverse_append, List.takeWhile_append_dropWhile,
      List.reverse_reverse, String.ofList_toList]
  · have hslash := List.head?_dropWhile_not (· ≠ '/') path.toList.reverse
    cases hbehind : path.toList.reverse.dropWhile (· ≠ '/') with
    | nil => exact Or.inl rfl
    | cons c rest =>
        rw [hbehind] at hslash
        obtain rfl : c = '/' := by simpa using hslash
        exact Or.inr ⟨String.ofList rest.reverse, by rw [List.reverse_cons, String.ofList_append]⟩

/-- Above a path is what stands before a slash of it, perhaps with this slash. -/
theorem splitLast_fst (path : String) :
    (splitLast path).1 = "" ∨ ∃ front back, path = front ++ "/" ++ back ∧
      ((splitLast path).1 = front ∨ (splitLast path).1 = front ++ "/") := by
  obtain ⟨above, last, hpath, habove, hfst⟩ := splitLast_eq path
  rw [hfst, hpath]
  rcases habove with rfl | ⟨front, rfl⟩
  · exact Or.inl (by decide)
  · right
    obtain ⟨count, hcount⟩ := toList_withoutTrailingSlashes (front ++ "/")
    split
    · exact ⟨front, last, rfl, Or.inr rfl⟩
    · cases count with
      | zero =>
          rw [List.replicate_zero, List.append_nil] at hcount
          exact ⟨front, last, rfl, Or.inr (String.toList_injective hcount.symm)⟩
      | succ count =>
          refine ⟨_, String.ofList (List.replicate count '/') ++ last, ?_, Or.inl rfl⟩
          refine String.toList_injective ?_
          rw [String.toList_append, hcount]
          simp [List.replicate_succ]

theorem isDirectory_splitLast (hpath : system.isDirectory path = true)
    (hne : (splitLast path).1 ≠ "") : system.isDirectory (splitLast path).1 = true := by
  rcases splitLast_fst path with hempty | ⟨front, back, rfl, habove | habove⟩
  · exact absurd hempty hne
  · rw [habove] at hne ⊢
    exact (isDirectory_front hpath).1 hne
  · rw [habove]
    exact (isDirectory_front hpath).2

/-- Of a directory that is there nothing is missing but its own path, which is looked at anyway. -/
theorem missing_of_isDirectory (hpath : system.isDirectory path = true) (fuel : Nat) :
    system.missing fuel path = [path] := by
  have habove : ∀ path, path = "" ∨ system.isDirectory path = true →
      (splitLast path).1 = "" ∨ system.isDirectory (splitLast path).1 = true := by
    rintro path (rfl | hpath)
    · exact Or.inl (by decide)
    · exact or_iff_not_imp_left.mpr (isDirectory_splitLast hpath)
  have hfound : ∀ (above : String) (nameless : Bool), above = "" ∨ system.isDirectory above = true →
      (above.isEmpty || nameless || (system.at? above).isSome) = true := by
    rintro above nameless (rfl | hdirectory)
    · rfl
    · rw [isDirectory, beq_iff_eq] at hdirectory
      rw [hdirectory, Option.isSome_some, Bool.or_true]
  have hfirst := habove path (Or.inr hpath)
  cases fuel with
  | zero => rfl
  | succ fuel =>
      rw [missing]
      -- behind a slash at the end the last name is looked for again
      by_cases hlast : (splitLast path).2.isEmpty = true
      · simp only [hlast, if_true, hfound _ _ (habove _ hfirst)]
      · simp only [hlast, Bool.false_eq_true, if_false, hfound _ _ hfirst, if_true]

/-- **A directory that is there is not made again.** -/
theorem makeDirectories_of_isDirectory (hpath : system.isDirectory path = true) :
    system.makeDirectories path = .ok system := by
  have heach : system.makeEach [path] = (system, none) := by
    rw [makeEach, if_pos hpath, makeEach]
  rw [makeDirectories, withDirectories, missing_of_isDirectory hpath, heach]

/-! ## Writes -/

theorem entry?_put (hplace : place ≠ []) (other : List String) :
    entry? (system.put place entry) other =
      if other = place then some entry else system.entry? other := by
  unfold entry? put
  by_cases hroot : other = []
  · rw [if_pos hroot, if_neg fun heq => hplace (heq.symm.trans hroot), if_pos hroot]
  · rw [if_neg hroot, if_neg hroot, List.find?_cons]
    by_cases heq : other = place
    · rw [heq, if_pos rfl, beq_self_eq_true]
      rfl
    · have hne : (place == other) = false := beq_false_of_ne (Ne.symm heq)
      rw [if_neg heq, hne]
      dsimp only
      rw [List.find?_filter]
      refine congrArg (fun p => (system.entries.find? p).map _) (funext fun stored => ?_)
      by_cases hstored : stored.1 = other
      · simp [hstored, heq]
      · simp [hstored]

/-- What a write into a directory does if it succeeds: the directory is there, and a file is put in
it. -/
theorem write_join {files : FileSystem} (hdirectory : directory ≠ "") (hname : IsName name)
    (hwrite : system.write (join directory name) content = .ok files) :
    ∃ place, system.locate directory = .ok place ∧ system.entry? place = some .directory ∧
      system.entry? (place ++ [name]) ≠ some .directory ∧
      files = system.put (place ++ [name]) (.file content) := by
  cases hlocate : system.locate (join directory name) with
  | error error =>
      rw [write, hlocate] at hwrite
      cases hwrite
  | ok target =>
      obtain ⟨place, hplace, hentry, rfl⟩ := (locate_join hdirectory hname).mp hlocate
      rw [write, hlocate] at hwrite
      dsimp only [bind, Except.bind] at hwrite
      split at hwrite
      · cases hwrite
      · rename_i hfile
        exact ⟨place, hplace, hentry, hfile, (Except.ok.inj hwrite).symm⟩

/-! ## Lists of directories -/

/-- An entry with its name, if it stands in the directory at a place. -/
def entryIn (place : List String) : List String × Entry → Option (String × Entry) :=
  fun (other, entry) =>
    match other.getLast? with
    | some name => if other.dropLast = place then some (name, entry) else none
    | none => none

theorem entryIn_eq_some_iff {stored : List String × Entry} :
    entryIn place stored = some (name, entry) ↔ stored = (place ++ [name], entry) := by
  obtain ⟨other, content⟩ := stored
  constructor
  · intro hstored
    rw [entryIn] at hstored
    cases hlast : other.getLast? with
    | none => rw [hlast] at hstored; cases hstored
    | some last =>
        rw [hlast] at hstored
        dsimp only at hstored
        split_ifs at hstored with hplace
        cases hstored
        rw [← hplace, List.dropLast_append_getLast? _ hlast]
  · rintro heq
    cases heq
    rw [entryIn, List.getLast?_concat, List.dropLast_concat]
    exact if_pos rfl

theorem list_perm (hlocate : system.locate path = .ok place) :
    (system.list path).Perm (system.entries.filterMap (entryIn place)) := by
  rw [list, hlocate]
  exact List.mergeSort_perm _ _

theorem mem_list_iff (hlocate : system.locate path = .ok place) :
    (name, entry) ∈ system.list path ↔ (place ++ [name], entry) ∈ system.entries := by
  rw [(list_perm hlocate).mem_iff, List.mem_filterMap]
  simp only [entryIn_eq_some_iff, exists_eq_right]

/-- A file of a new name is put in a directory, which holds it beside what it held before. -/
theorem list_put (hlocate : system.locate path = .ok place)
    (hafter : (system.put (place ++ [name]) entry).locate path = .ok place)
    (hnew : name ∉ (system.list path).map (·.1)) :
    ((system.put (place ++ [name]) entry).list path).Perm ((name, entry) :: system.list path) := by
  have hothers : system.entries.filter (·.1 != place ++ [name]) = system.entries := by
    refine List.filter_eq_self.mpr fun stored hstored => bne_iff_ne.mpr fun heq => hnew ?_
    have hmem : (name, stored.2) ∈ system.list path := by
      rw [mem_list_iff hlocate, ← heq]
      exact hstored
    exact List.mem_map_of_mem hmem
  have hfirst : entryIn place (place ++ [name], entry) = some (name, entry) :=
    entryIn_eq_some_iff.mpr rfl
  refine (list_perm hafter).trans ?_
  rw [put, hothers, List.filterMap_cons_some hfirst]
  exact (list_perm hlocate).symm.cons _

/-- **A write adds one file to a directory**, if its name is new there, and leaves a directory that
is there. -/
theorem list_write {files : FileSystem} (hdirectory : directory ≠ "") (hname : IsName name)
    (hwrite : system.write (join directory name) content = .ok files)
    (hnew : name ∉ (system.list directory).map (·.1)) :
    files.isDirectory directory = true ∧
      (files.list directory).Perm ((name, .file content) :: system.list directory) := by
  obtain ⟨place, hlocate, hentry, hfile, rfl⟩ := write_join hdirectory hname hwrite
  have hne : place ++ [name] ≠ [] := List.concat_ne_nil name place
  have hkept : ∀ other, system.entry? other = some .directory →
      entry? (system.put (place ++ [name]) (.file content)) other = some .directory := by
    intro other hother
    rw [entry?_put hne, if_neg, hother]
    rintro rfl
    exact hfile hother
  have hworking : (system.put (place ++ [name]) (.file content)).workingDirectory =
      system.workingDirectory := rfl
  have hafter := locate_of_directories hworking hkept hlocate
  exact ⟨isDirectory_iff.mpr ⟨place, hafter, hkept place hentry⟩, list_put hlocate hafter hnew⟩

/-- A file whose name stands once in a directory is read by the path into the directory. -/
theorem read_of_mem_list (hdirectory : directory ≠ "") (hname : IsName name)
    (hpath : system.isDirectory directory = true)
    (hnames : ((system.list directory).map (·.1)).Nodup)
    (hfile : (name, .file content) ∈ system.list directory) :
    system.read (join directory name) = .ok content := by
  obtain ⟨place, hlocate, hentry⟩ := isDirectory_iff.mp hpath
  have hstored := (mem_list_iff hlocate).mp hfile
  have hfound : system.entry? (place ++ [name]) = some (.file content) := by
    rw [ entry?, if_neg (List.concat_ne_nil name place)]
    cases hfind : system.entries.find? (·.1 == place ++ [name]) with
    | none =>
        have hnone := List.find?_eq_none.mp hfind _ hstored
        exact absurd (beq_self_eq_true _) hnone
    | some first =>
        have hplace : first.1 = place ++ [name] := by simpa using List.find?_some hfind
        have hfirst : (name, first.2) ∈ system.list directory := by
          rw [mem_list_iff hlocate, ← hplace]
          exact List.mem_of_find?_eq_some hfind
        have heq := List.inj_on_of_nodup_map hnames hfirst hfile rfl
        exact congrArg some (Prod.mk.inj heq).2
  have hjoin := (locate_join hdirectory hname).mpr ⟨place, hlocate, hentry, rfl⟩
  rw [read, hjoin]
  dsimp only [bind, Except.bind]
  rw [hfound]
  rfl

/-! ## Directories that may have to be made -/

/-- What a directory holds once it is made; nothing is known of one that cannot be made. -/
def held (system : FileSystem) (directory : String) : Option (List (String × Entry)) :=
  match system.makeDirectories directory with
  | .ok made => some (made.list directory)
  | .error _ => none

theorem held_of_isDirectory (hpath : system.isDirectory path = true) :
    system.held path = some (system.list path) := by
  rw [held, makeDirectories_of_isDirectory hpath]

end GrammarFuzz.FileSystem

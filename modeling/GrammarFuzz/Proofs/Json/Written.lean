import GrammarFuzz.Proofs.Json.Numbers
import GrammarFuzz.Proofs.Json.Strings
import Mathlib.Data.List.Nodup

/-!
# What is written is read again

A value is read from the document that is written for it (`parse_written`), on one line or on many.
Two kinds of values have to be left out.  A double may be written as one with another form, and an
object with two members of one name is read without one of them, so values are asked to be `Plain`.

## Strategy

`readValue_written` says it of a value with any text behind it.  The reader only has to be able to
tell where a number ends; it always can, since behind a value come a comma, blanks, a closing
bracket or the end.  The induction is on the depth that the reader may go down: it gets smaller with
each call, and twice the length of what is written is enough of it.

Blanks are all that differs between the two layouts.  The steps of the reader (`readItems_more`,
`readMembers_more` and so on) are about blanks of any form, so one proof covers both.
-/

namespace GrammarFuzz.Json

/-! ## Blanks -/

theorem skipSpace_append {blank rest : List Char} (hblank : ∀ c ∈ blank, isSpace c = true)
    (hrest : ∀ c ∈ rest.head?, isSpace c = false) (position : Nat) :
    Cursor.skipSpace ⟨blank ++ rest, position⟩ = ⟨rest, position + blank.length⟩ := by
  rw [Cursor.skipSpace, takeWhile_append_of_head? hblank hrest, Cursor.advance, List.drop_left]

theorem skipSpace_of_head? {rest : List Char} (hrest : ∀ c ∈ rest.head?, isSpace c = false)
    (position : Nat) : Cursor.skipSpace ⟨rest, position⟩ = ⟨rest, position⟩ :=
  skipSpace_append (List.forall_mem_nil _) hrest position

theorem isSpace_lineBreak (level : Option Nat) : ∀ c ∈ lineBreak level, isSpace c = true := by
  cases level with
  | none => exact nofun
  | some level =>
      refine List.forall_mem_cons.mpr ⟨rfl, fun c hc => ?_⟩
      rw [List.eq_of_mem_replicate hc]
      rfl

/-- The blank after a comma. -/
def gap : Option Nat → List Char
  | none => [' ']
  | some level => lineBreak (some level)

theorem separator_eq (level : Option Nat) : separator level = ',' :: gap level := by
  cases level <;> rfl

theorem isSpace_gap (level : Option Nat) : ∀ c ∈ gap level, isSpace c = true := by
  cases level with
  | none => exact List.forall_mem_cons.mpr ⟨rfl, nofun⟩
  | some level => exact isSpace_lineBreak (some level)

/-- Before a bracket or a blank a number ends. -/
theorem stops_blank {blank rest : List Char} {bracket : Char}
    (hblank : ∀ c ∈ blank, isSpace c = true) (hbracket : Stops (bracket :: rest)) :
    Stops (blank ++ bracket :: rest) := by
  cases blank with
  | nil => exact hbracket
  | cons first others =>
      intro c hc
      obtain rfl : first = c := Option.some.inj hc
      have hspace := hblank first List.mem_cons_self
      simp only [isSpace, Bool.or_eq_true, beq_iff_eq] at hspace
      rcases hspace with ((rfl | rfl) | rfl) | rfl <;> exact ⟨rfl, by decide, by decide, by decide⟩

/-! ## Values -/

mutual

/-- The numbers in the value are integers, and no object has two members of one name. -/
def Plain : Json → Prop
  | null | bool _ | text _ | number (.int _) => True
  | number (.float _) => False
  | list items => PlainItems items
  | object members => (members.map (·.1)).Nodup ∧ PlainMembers members

/-- All items are plain. -/
def PlainItems : List Json → Prop
  | [] => True
  | item :: rest => item.Plain ∧ PlainItems rest

/-- The values of all members are plain. -/
def PlainMembers : List (String × Json) → Prop
  | [] => True
  | (_, value) :: rest => value.Plain ∧ PlainMembers rest

end

/-- A value starts with no blank, with no closing bracket and with no mark. -/
structure Starts (c : Char) : Prop where
  not_space : isSpace c = false
  ne_bracket : c ≠ ']'
  ne_brace : c ≠ '\x7d'
  ne_mark : c ≠ '\ufeff'

theorem starts_of_isDigit {c : Char} (hdigit : c.isDigit = true) : Starts c := by
  have hne : ∀ other : Char, other.isDigit = false → c ≠ other := fun other =>
    ne_of_isDigit hdigit
  refine ⟨?_, hne _ rfl, hne _ rfl, hne _ rfl⟩
  simp only [isSpace, Bool.or_eq_false_iff, beq_eq_false_iff_ne]
  exact ⟨⟨⟨hne _ rfl, hne _ rfl⟩, hne _ rfl⟩, hne _ rfl⟩

theorem exists_written_eq_cons {value : Json} (hplain : value.Plain) (level : Option Nat) :
    ∃ c rest, written level value = c :: rest ∧ Starts c := by
  match value, hplain with
  | null, _ => exact ⟨_, _, rfl, by decide, by decide, by decide, by decide⟩
  | bool true, _ => exact ⟨_, _, rfl, by decide, by decide, by decide, by decide⟩
  | bool false, _ => exact ⟨_, _, rfl, by decide, by decide, by decide, by decide⟩
  | number (.int value), _ =>
      rw [written, toList_writtenNumber]
      split
      · exact ⟨_, _, rfl, by decide, by decide, by decide, by decide⟩
      · obtain ⟨first, digits, hfirst, hdigit⟩ := exists_toDigits_eq_cons value.natAbs
        exact ⟨first, digits, hfirst, starts_of_isDigit hdigit⟩
  | text value, _ => exact ⟨_, _, rfl, by decide, by decide, by decide, by decide⟩
  | list [], _ => exact ⟨_, _, rfl, by decide, by decide, by decide, by decide⟩
  | list (item :: rest), _ => exact ⟨_, _, rfl, by decide, by decide, by decide, by decide⟩
  | object [], _ => exact ⟨_, _, rfl, by decide, by decide, by decide, by decide⟩
  | object (member :: rest), _ => exact ⟨_, _, rfl, by decide, by decide, by decide, by decide⟩

/-! ## Steps of the reader -/

section Steps

variable {depth position position' : Nat} {cursor : Cursor} {item : Json} {done : List Json}
  {blank rest : List Char}

theorem readItems_last
    (hitem : readValue none depth cursor = .ok (item, ⟨blank ++ ']' :: rest, position⟩))
    (hblank : ∀ c ∈ blank, isSpace c = true) :
    readItems none (depth + 1) done cursor =
      .ok (.list (done.reverse ++ [item]), ⟨rest, position + blank.length + 1⟩) := by
  have hskip : Cursor.skipSpace ⟨blank ++ ']' :: rest, position⟩ =
      ⟨']' :: rest, position + blank.length⟩ :=
    skipSpace_append hblank (by simp [isSpace]) position
  rw [readItems, hitem]
  simp only [bind, Except.bind, hskip, List.reverse_cons]
  rfl

theorem readItems_more
    (hitem : readValue none depth cursor = .ok (item, ⟨',' :: (blank ++ rest), position⟩))
    (hblank : ∀ c ∈ blank, isSpace c = true) (hrest : ∀ c ∈ rest.head?, isSpace c = false) :
    readItems none (depth + 1) done cursor =
      readItems none depth (item :: done) ⟨rest, position + 1 + blank.length⟩ := by
  have hcomma : Cursor.skipSpace ⟨',' :: (blank ++ rest), position⟩ =
      ⟨',' :: (blank ++ rest), position⟩ :=
    skipSpace_of_head? (by simp [isSpace]) position
  have hskip := skipSpace_append hblank hrest (position + 1)
  rw [readItems, hitem]
  simp only [bind, Except.bind, hcomma]
  exact congrArg (readItems none depth (item :: done)) hskip

variable {name : String} {value : Json} {entries : List (String × Json)} {body : List Char}

theorem writtenText_append (text : String) (rest : List Char) :
    writtenText text ++ rest = '"' :: (text.toList.flatMap escapeCharacter ++ '"' :: rest) := by
  rw [writtenText, List.cons_append, List.cons_append, List.append_assoc]
  rfl

theorem length_writtenText (text : String) :
    (writtenText text).length = (text.toList.flatMap escapeCharacter).length + 2 := by
  rw [writtenText, List.cons_append, List.length_cons, List.length_append]
  rfl

/-- The name of a member is read up to the colon. -/
theorem readString_name (name : String) (position : Nat) (rest : List Char) :
    readString position [] (position + 1)
        (name.toList.flatMap escapeCharacter ++ '"' :: ':' :: rest) =
      .ok (name, ⟨':' :: rest, position + (writtenText name).length⟩) := by
  rw [readString_written, length_writtenText]
  congr 3
  omega

theorem skipSpace_colon (rest : List Char) (position : Nat) :
    Cursor.skipSpace ⟨':' :: rest, position⟩ = ⟨':' :: rest, position⟩ :=
  skipSpace_of_head? (by simp [isSpace]) position

/-- Between the colon and the value of a member is one blank. -/
theorem skipSpace_blank (hbody : ∀ c ∈ body.head?, isSpace c = false) (position : Nat) :
    Cursor.skipSpace ⟨' ' :: body, position + 1⟩ = ⟨body, position + 2⟩ :=
  have hblank : ∀ c ∈ [' '], isSpace c = true := by simp [isSpace]
  skipSpace_append hblank hbody (position + 1)

theorem readMembers_last (hbody : ∀ c ∈ body.head?, isSpace c = false)
    (hvalue : readValue none depth ⟨body, position + (writtenText name).length + 2⟩ =
      .ok (value, ⟨blank ++ '\x7d' :: rest, position'⟩))
    (hblank : ∀ c ∈ blank, isSpace c = true) :
    readMembers none (depth + 1) entries ⟨writtenText name ++ ':' :: ' ' :: body, position⟩ =
      .ok (.object (merge (entries.reverse ++ [(name, value)])),
        ⟨rest, position' + blank.length + 1⟩) := by
  have hclose : Cursor.skipSpace ⟨blank ++ '\x7d' :: rest, position'⟩ =
      ⟨'\x7d' :: rest, position' + blank.length⟩ :=
    skipSpace_append hblank (by simp [isSpace]) position'
  rw [writtenText_append, readMembers]
  simp only [bind, Except.bind, readString_name, skipSpace_colon, Cursor.advance,
    List.drop_succ_cons, List.drop_zero, skipSpace_blank hbody, hvalue, hclose, List.reverse_cons]

theorem readMembers_more (hbody : ∀ c ∈ body.head?, isSpace c = false)
    (hvalue : readValue none depth ⟨body, position + (writtenText name).length + 2⟩ =
      .ok (value, ⟨',' :: (blank ++ rest), position'⟩))
    (hblank : ∀ c ∈ blank, isSpace c = true) (hrest : ∀ c ∈ rest.head?, isSpace c = false) :
    readMembers none (depth + 1) entries ⟨writtenText name ++ ':' :: ' ' :: body, position⟩ =
      readMembers none depth ((name, value) :: entries) ⟨rest, position' + 1 + blank.length⟩ := by
  have hcomma : Cursor.skipSpace ⟨',' :: (blank ++ rest), position'⟩ =
      ⟨',' :: (blank ++ rest), position'⟩ :=
    skipSpace_of_head? (by simp [isSpace]) position'
  have hskip := skipSpace_append hblank hrest (position' + 1)
  rw [writtenText_append, readMembers]
  simp only [bind, Except.bind, readString_name, skipSpace_colon, Cursor.advance,
    List.drop_succ_cons, List.drop_zero, skipSpace_blank hbody, hvalue, hcomma, hskip]

end Steps

/-! ## Members -/

theorem put_of_not_mem {name : String} {value : Json} {members : List (String × Json)}
    (hname : name ∉ members.map (·.1)) : put name value members = members ++ [(name, value)] := by
  induction members with
  | nil => rfl
  | cons first rest ih =>
      rw [List.map_cons, List.mem_cons, not_or] at hname
      rw [put, if_neg (Ne.symm hname.1), ih hname.2, List.cons_append]

/-- Members of different names stay as they are. -/
theorem merge_eq_self {members : List (String × Json)} (hnames : (members.map (·.1)).Nodup) :
    merge members = members := by
  have hfold : ∀ before after : List (String × Json), ((before ++ after).map (·.1)).Nodup →
      after.foldl (fun merged member => put member.1 member.2 merged) before = before ++ after := by
    intro before after
    induction after generalizing before with
    | nil => exact fun _ => (List.append_nil before).symm
    | cons first rest ih =>
        intro hnodup
        have hfirst : first.1 ∉ before.map (·.1) := by
          rw [List.map_append, List.map_cons] at hnodup
          exact fun hmem => (List.nodup_append.mp hnodup).2.2 _ hmem _ List.mem_cons_self rfl
        rw [List.foldl_cons, put_of_not_mem hfirst, ih, List.append_assoc]
        · rfl
        · rwa [List.append_assoc]
  exact hfold [] members hnames

/-! ## Round trips -/

theorem writtenItems_cons_cons (level : Option Nat) (item next : Json) (rest : List Json) :
    writtenItems level (item :: next :: rest) =
      written level item ++ ',' :: (gap level ++ writtenItems level (next :: rest)) := by
  rw [writtenItems, separator_eq, List.append_assoc, List.cons_append]
  exact nofun

theorem writtenMembers_cons (level : Option Nat) (name : String) (value : Json) :
    writtenMembers level [(name, value)] =
      writtenText name ++ ':' :: ' ' :: written level value := by
  rw [writtenMembers]

theorem writtenMembers_cons_cons (level : Option Nat) (name : String) (value : Json)
    (next : String × Json) (rest : List (String × Json)) :
    writtenMembers level ((name, value) :: next :: rest) =
      writtenText name ++ ':' :: ' ' ::
        (written level value ++ ',' :: (gap level ++ writtenMembers level (next :: rest))) := by
  rw [writtenMembers, separator_eq]
  · simp only [List.append_assoc, List.cons_append]
  · exact nofun

theorem isSpace_head?_items {item : Json} {items : List Json} (hplain : item.Plain)
    (level : Option Nat) (rest : List Char) :
    ∀ c ∈ (writtenItems level (item :: items) ++ rest).head?, isSpace c = false ∧ c ≠ ']' := by
  obtain ⟨c, others, heq, hstarts⟩ := exists_written_eq_cons hplain level
  cases items with
  | nil =>
      intro first hfirst
      rw [writtenItems, heq] at hfirst
      obtain rfl := Option.some.inj hfirst
      exact ⟨hstarts.not_space, hstarts.ne_bracket⟩
  | cons next items =>
      intro first hfirst
      rw [writtenItems_cons_cons, heq] at hfirst
      obtain rfl := Option.some.inj hfirst
      exact ⟨hstarts.not_space, hstarts.ne_bracket⟩

theorem isSpace_head?_written {value : Json} (hplain : value.Plain) (level : Option Nat)
    (rest : List Char) : ∀ c ∈ (written level value ++ rest).head?, isSpace c = false := by
  obtain ⟨first, others, heq, hstarts⟩ := exists_written_eq_cons hplain level
  intro c hc
  rw [heq] at hc
  obtain rfl := Option.some.inj hc
  exact hstarts.not_space

theorem isSpace_head?_members (member : String × Json) (members : List (String × Json))
    (level : Option Nat) (rest : List Char) :
    ∀ c ∈ (writtenMembers level (member :: members) ++ rest).head?,
      isSpace c = false ∧ c ≠ '\x7d' := by
  obtain ⟨name, value⟩ := member
  have hquote : ∃ others, writtenMembers level ((name, value) :: members) = '"' :: others := by
    cases members with
    | nil => exact ⟨_, by rw [writtenMembers_cons, writtenText_append]⟩
    | cons next members => exact ⟨_, by rw [writtenMembers_cons_cons, writtenText_append]⟩
  obtain ⟨others, heq⟩ := hquote
  intro c hc
  rw [heq] at hc
  obtain rfl := Option.some.inj hc
  exact ⟨rfl, by decide⟩

/-- A number is no word. -/
theorem readValue_writtenNumber (value : Int) (depth : Nat) (rest : List Char) (position : Nat) :
    readValue none (depth + 1) ⟨(writtenNumber (.int value)).toList ++ rest, position⟩ =
      readNumber none ⟨(writtenNumber (.int value)).toList ++ rest, position⟩ := by
  obtain ⟨first, digits, hfirst, hdigit⟩ := exists_toDigits_eq_cons value.natAbs
  have hne : ∀ other : Char, other.isDigit = false → ¬ first = other :=
    fun other => ne_of_isDigit hdigit
  have hne' : ∀ other : Char, other.isDigit = false → ¬ other = first := fun other hother heq =>
    hne other hother heq.symm
  rw [toList_writtenNumber, hfirst]
  split
  · simp [readValue, readWord, startsWith, hne' 'I' rfl]
  · simp [readValue, readWord, startsWith, hne '"' rfl, hne '[' rfl, hne '\x7b' rfl, hne' 'n' rfl,
      hne' 't' rfl, hne' 'f' rfl, hne' 'N' rfl, hne' 'I' rfl, hne' '-' rfl]

theorem written_list (level : Option Nat) (item : Json) (items : List Json) (rest : List Char) :
    written level (list (item :: items)) ++ rest =
      '[' :: (lineBreak (level.map (· + 1)) ++ (writtenItems (level.map (· + 1)) (item :: items) ++
        (lineBreak level ++ ']' :: rest))) := by
  rw [written]
  · simp only [List.cons_append, List.append_assoc, List.nil_append]
  · exact nofun

theorem written_object (level : Option Nat) (member : String × Json)
    (members : List (String × Json)) (rest : List Char) :
    written level (object (member :: members)) ++ rest =
      '\x7b' :: (lineBreak (level.map (· + 1)) ++
        (writtenMembers (level.map (· + 1)) (member :: members) ++
          (lineBreak level ++ '\x7d' :: rest))) := by
  rw [written]
  · simp only [List.cons_append, List.append_assoc, List.nil_append]
  · exact nofun

/-- Reading the items of a list. -/
theorem readValue_list {depth position : Nat} {blank rest : List Char} {ending}
    (hblank : ∀ c ∈ blank, isSpace c = true)
    (hhead : ∀ c ∈ rest.head?, isSpace c = false ∧ c ≠ ']')
    (hitems : readItems none depth [] ⟨rest, position + 1 + blank.length⟩ = ending) :
    readValue none (depth + 1) ⟨'[' :: (blank ++ rest), position⟩ = ending := by
  have hskip : Cursor.skipSpace ⟨blank ++ rest, position + 1⟩ =
      ⟨rest, position + 1 + blank.length⟩ :=
    skipSpace_append hblank (fun c hc => (hhead c hc).1) (position + 1)
  rw [readValue]
  simp only [Cursor.advance, List.drop_succ_cons, List.drop_zero, hskip]
  split
  · exact absurd rfl (hhead ']' rfl).2
  · exact hitems

theorem readValue_object {depth position : Nat} {blank rest : List Char} {ending}
    (hblank : ∀ c ∈ blank, isSpace c = true)
    (hhead : ∀ c ∈ rest.head?, isSpace c = false ∧ c ≠ '\x7d')
    (hmembers : readMembers none depth [] ⟨rest, position + 1 + blank.length⟩ = ending) :
    readValue none (depth + 1) ⟨'\x7b' :: (blank ++ rest), position⟩ = ending := by
  have hskip : Cursor.skipSpace ⟨blank ++ rest, position + 1⟩ =
      ⟨rest, position + 1 + blank.length⟩ :=
    skipSpace_append hblank (fun c hc => (hhead c hc).1) (position + 1)
  rw [readValue]
  simp only [Cursor.advance, List.drop_succ_cons, List.drop_zero, hskip]
  split
  · exact absurd rfl (hhead '\x7d' rfl).2
  · exact hmembers

mutual

/-- **A plain value is read from what it is written as**, on one line or on many, if the reader may
go down far enough and no number goes on behind the value. -/
theorem readValue_written {value : Json} (hplain : value.Plain) (level : Option Nat)
    {depth : Nat} (hdepth : 2 * (written level value).length ≤ depth) {rest : List Char}
    (hrest : Stops rest) (position : Nat) :
    readValue none depth ⟨written level value ++ rest, position⟩ =
      .ok (value, ⟨rest, position + (written level value).length⟩) := by
  obtain ⟨first, others, heq, -⟩ := exists_written_eq_cons hplain level
  obtain ⟨depth, rfl⟩ : ∃ below, depth = below + 1 := by
    rw [heq, List.length_cons] at hdepth
    exact ⟨depth - 1, by omega⟩
  match value, hplain, hdepth with
  | null, _, _ => rfl
  | bool true, _, _ => rfl
  | bool false, _, _ => rfl
  | number (.int value), _, _ =>
      rw [written, readValue_writtenNumber, readNumber_written value hrest]
  | text value, _, _ =>
      rw [written, writtenText_append, readValue]
      simp only [readString_written, length_writtenText, bind, Except.bind, pure, Except.pure]
      congr 3
      omega
  | list [], _, _ => rfl
  | list (item :: items), hplain, hdepth =>
      have hlength := congrArg List.length (written_list level item items [])
      simp only [List.append_nil, List.length_cons, List.length_append, List.length_nil] at hlength
      have hitems := readItems_written hplain (level.map (· + 1)) (by omega : _ < depth)
        (isSpace_lineBreak level) [] (position + 1 + (lineBreak (level.map (· + 1))).length) rest
      rw [written_list,
        readValue_list (isSpace_lineBreak _) (isSpace_head?_items hplain.1 _ _) hitems, hlength]
      congr 3
      omega
  | object [], _, _ => rfl
  | object (member :: members), hplain, hdepth =>
      have hlength := congrArg List.length (written_object level member members [])
      simp only [List.append_nil, List.length_cons, List.length_append, List.length_nil] at hlength
      have hmembers := readMembers_written hplain.2 (level.map (· + 1)) (by omega : _ < depth)
        (isSpace_lineBreak level) [] (position + 1 + (lineBreak (level.map (· + 1))).length) rest
      rw [written_object,
        readValue_object (isSpace_lineBreak _) (isSpace_head?_members _ _ _ _) hmembers, hlength,
        List.reverse_nil, List.nil_append, merge_eq_self hplain.1]
      congr 3
      omega
  termination_by depth

theorem readItems_written {item : Json} {items : List Json} (hplain : PlainItems (item :: items))
    (level : Option Nat) {depth : Nat}
    (hdepth : 2 * (writtenItems level (item :: items)).length < depth) {blank : List Char}
    (hblank : ∀ c ∈ blank, isSpace c = true) (done : List Json) (position : Nat)
    (rest : List Char) :
    readItems none depth done
        ⟨writtenItems level (item :: items) ++ (blank ++ ']' :: rest), position⟩ =
      .ok (.list (done.reverse ++ item :: items),
        ⟨rest, position + (writtenItems level (item :: items)).length + blank.length + 1⟩) := by
  obtain ⟨depth, rfl⟩ : ∃ below, depth = below + 1 := ⟨depth - 1, by omega⟩
  have hitem := hplain.1
  match items, hplain, hdepth with
  | [], _, hdepth =>
      rw [writtenItems] at hdepth ⊢
      exact readItems_last (readValue_written hitem level (by omega)
        (stops_blank hblank (by simp [Stops])) position) hblank
  | next :: items, hplain, hdepth =>
      simp only [writtenItems_cons_cons, List.length_append, List.length_cons] at hdepth
      rw [writtenItems_cons_cons, List.append_assoc, List.cons_append, List.append_assoc,
        readItems_more
          (readValue_written hitem level (by omega) (by simp [Stops]) position)
          (isSpace_gap level) fun c hc => (isSpace_head?_items hplain.2.1 level _ c hc).1,
        readItems_written hplain.2 level (by omega) hblank]
      simp only [List.reverse_cons, List.append_assoc, List.length_append, List.length_cons]
      congr 3
      omega
  termination_by depth

theorem readMembers_written {member : String × Json} {members : List (String × Json)}
    (hplain : PlainMembers (member :: members)) (level : Option Nat) {depth : Nat}
    (hdepth : 2 * (writtenMembers level (member :: members)).length < depth) {blank : List Char}
    (hblank : ∀ c ∈ blank, isSpace c = true) (done : List (String × Json)) (position : Nat)
    (rest : List Char) :
    readMembers none depth done
        ⟨writtenMembers level (member :: members) ++ (blank ++ '\x7d' :: rest), position⟩ =
      .ok (.object (merge (done.reverse ++ member :: members)),
        ⟨rest,
          position + (writtenMembers level (member :: members)).length + blank.length + 1⟩) := by
  obtain ⟨depth, rfl⟩ : ∃ below, depth = below + 1 := ⟨depth - 1, by omega⟩
  obtain ⟨name, value⟩ := member
  have hvalue : value.Plain := hplain.1
  match members, hplain, hdepth with
  | [], _, hdepth =>
      rw [writtenMembers_cons, List.length_append, List.length_cons, List.length_cons] at hdepth
      rw [writtenMembers_cons, List.append_assoc, List.cons_append, List.cons_append,
        readMembers_last (isSpace_head?_written hvalue level _)
          (readValue_written hvalue level (by omega)
            (stops_blank hblank (by simp [Stops])) _) hblank]
      simp only [List.length_append, List.length_cons]
      congr 3
      omega
  | next :: members, hplain, hdepth =>
      simp only [writtenMembers_cons_cons, List.length_append, List.length_cons] at hdepth
      rw [writtenMembers_cons_cons]
      simp only [List.append_assoc, List.cons_append]
      rw [readMembers_more (isSpace_head?_written hvalue level _)
          (readValue_written hvalue level (by omega) (by simp [Stops]) _) (isSpace_gap level)
          fun c hc => (isSpace_head?_members next members level _ c hc).1,
        readMembers_written hplain.2 level (by omega) hblank]
      simp only [List.reverse_cons, List.append_assoc, List.length_append, List.length_cons]
      congr 3
      omega
  termination_by depth

end

/-- **A document of a plain value is read as this value**, on one line or on many. -/
theorem parse_written {value : Json} (hplain : value.Plain) (level : Option Nat) :
    parse none (written level value) = .ok value := by
  obtain ⟨first, others, heq, hstarts⟩ := exists_written_eq_cons hplain level
  have hskip : Cursor.skipSpace ⟨written level value, 0⟩ = ⟨written level value, 0⟩ := by
    refine skipSpace_of_head? (fun c hc => ?_) 0
    rw [heq] at hc
    obtain rfl := Option.some.inj hc
    exact hstarts.not_space
  have hvalue := readValue_written hplain level (Nat.le_add_right _ 2) (nofun : Stops []) 0
  rw [List.append_nil] at hvalue
  unfold parse
  split
  · rename_i others' hmark
    rw [heq] at hmark
    exact absurd (List.cons.inj hmark).1 hstarts.ne_mark
  · rw [hskip, hvalue]
    rfl

end GrammarFuzz.Json

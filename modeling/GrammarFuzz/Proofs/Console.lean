import GrammarFuzz.Finding
import GrammarFuzz.Proofs.CommandLine.Output
import Mathlib.Data.List.TakeWhile

/-!
# Reading findings from the console

Findings are printed one after the other, each framed by marker lines, and a text in a frame may be
empty, take many lines, or begin and end with line breaks.  As long as no line of a text is a marker
itself, the output can be split at the marker lines again: reading it gives back the source, the
description and the error of every finding, and tells a description or an error that is absent from
one that is empty (`decode_output`).  Reading accepts what printing makes of such findings and
nothing else (`decode_eq_some_iff`).

## Strategy

Texts and lists of lines are the same thing seen from two sides (`Text.lines_intercalate`,
`Text.intercalate_lines`), so all is done with lines.  Each part of the reader takes lines from the
front, and takes just what the corresponding part of the printer puts there (`framed?_eq_some_iff`
and so on), so the reader as a whole does (`reports?_eq_some_iff`).  An absent part is noticed by
the marker that comes in its place.
-/

namespace GrammarFuzz

/-! ## Lines -/

namespace Text

/-- The lines of a text: what stands between its line feeds. -/
def lines (text : String) : List String := (text.toList.splitOn '\n').map String.ofList

theorem lines_ne_nil (text : String) : lines text ≠ [] :=
  List.map_eq_nil_iff.not.mpr (List.splitOn_ne_nil '\n' text.toList)

theorem lines_append (front back : String) :
    lines (front ++ "\n" ++ back) = lines front ++ lines back := by
  have hlist : (front ++ "\n" ++ back).toList = front.toList ++ '\n' :: back.toList := by
    rw [String.toList_append, String.toList_append, List.append_assoc]
    rfl
  rw [lines, hlist, List.splitOn_append_cons_self, List.map_append]
  rfl

theorem lines_of_not_mem {line : String} (hline : '\n' ∉ line.toList) : lines line = [line] := by
  rw [lines, List.splitOn_eq_singleton hline, List.map_singleton, String.ofList_toList]

/-- There is no line feed in what stands between line feeds. -/
theorem not_mem_of_mem_splitOn : ∀ {text line : List Char}, line ∈ text.splitOn '\n' → '\n' ∉ line
  | [], line, hline => by
    rw [List.splitOn_nil, List.mem_singleton] at hline
    rw [hline]
    exact List.not_mem_nil
  | c :: rest, line, hline => by
    rw [List.splitOn_cons_eq_if_modifyHead] at hline
    split at hline
    · rcases List.mem_cons.mp hline with rfl | hline
      · exact List.not_mem_nil
      · exact not_mem_of_mem_splitOn hline
    · rename_i hc
      obtain ⟨first, others, hsplit⟩ :=
        List.exists_cons_of_ne_nil (List.splitOn_ne_nil '\n' rest)
      rw [hsplit, List.modifyHead_cons] at hline
      rcases List.mem_cons.mp hline with rfl | hline
      · have hfirst : '\n' ∉ first := not_mem_of_mem_splitOn (hsplit ▸ List.mem_cons_self ..)
        rw [List.mem_cons, not_or]
        exact ⟨fun heq => hc (beq_iff_eq.mpr heq.symm), hfirst⟩
      · exact not_mem_of_mem_splitOn (hsplit ▸ List.mem_cons_of_mem _ hline)

/-- A line consists of one line. -/
theorem lines_of_mem_lines {text line : String} (hline : line ∈ lines text) :
    lines line = [line] := by
  obtain ⟨characters, hmem, rfl⟩ := List.mem_map.mp hline
  refine lines_of_not_mem ?_
  rw [String.toList_ofList]
  exact not_mem_of_mem_splitOn hmem

/-- The lines of some texts, joined by line feeds. -/
theorem lines_intercalate {texts : List String} (hne : texts ≠ []) :
    lines ("\n".intercalate texts) = texts.flatMap lines := by
  induction texts with
  | nil => exact absurd rfl hne
  | cons first rest ih =>
      cases rest with
      | nil => rw [String.intercalate_singleton, List.flatMap_singleton]
      | cons second rest =>
          rw [String.intercalate_cons_cons, lines_append, ih (List.cons_ne_nil _ _)]
          rfl

/-- Lines, joined again, are the text. -/
theorem intercalate_lines (text : String) : "\n".intercalate (lines text) = text := by
  refine String.toList_injective ?_
  have hmap : (lines text).map String.toList = text.toList.splitOn '\n' := by
    rw [lines, List.map_map]
    exact List.map_id'' (fun _ => String.toList_ofList) _
  rw [String.toList_intercalate, hmap]
  exact List.intercalate_splitOn '\n'

end Text

/-! ## Reports -/

/-- What is printed of a finding: its source, and its description and its error if there are some.
The texts are given as they are or as their lines. -/
structure Report (α : Type) where
  source : α
  dump : Option α
  error : Option α

namespace Report

/-- The report with another form of its texts. -/
def map {α β : Type} (change : α → β) (report : Report α) : Report β :=
  ⟨change report.source, report.dump.map change, report.error.map change⟩

/-- A fact holds of all texts of the report. -/
def Forall {α : Type} (fact : α → Prop) (report : Report α) : Prop :=
  fact report.source ∧ (∀ dump ∈ report.dump, fact dump) ∧ ∀ error ∈ report.error, fact error

/-- The marker lines. -/
def markers : List String :=
  ["RESULT", "SOURCE", "AST", "ERROR"].flatMap fun word => [">>>>>" ++ word, "<<<<<" ++ word]

/-- Whether a line belongs to a text. -/
def isText (line : String) : Bool := !markers.contains line

/-- The lines may stand between two markers. -/
def IsBlock (block : List String) : Prop := block ≠ [] ∧ ∀ line ∈ block, line ∉ markers

/-- A text between its marker lines, if there is one. -/
def framedIfAny (word : String) (block : Option (List String)) : List String :=
  block.elim [] (Finding.framed word)

/-- The lines of a report between its marker lines. -/
def lines (report : Report (List String)) : List String :=
  Finding.framed "RESULT" (Finding.framed "SOURCE" report.source ++
    framedIfAny "AST" report.dump ++ framedIfAny "ERROR" report.error)

/-! ## The reader -/

/-- The lines after one that has to come first. -/
def skip (line : String) : List String → Option (List String)
  | [] => none
  | first :: rest => if first = line then some rest else none

/-- The lines between two markers with a word, and those after them. -/
def framed? (word : String) (lines : List String) : Option (List String × List String) := do
  let lines ← skip (">>>>>" ++ word) lines
  let block := lines.takeWhile isText
  let rest ← skip ("<<<<<" ++ word) (lines.dropWhile isText)
  -- an empty text has a line, too
  if block = [] then none else some (block, rest)

/-- The lines between two markers with a word, if these come next. -/
def framedIfAny? (word : String) (lines : List String) :
    Option (Option (List String) × List String) :=
  if lines.head? = some (">>>>>" ++ word) then
    (framed? word lines).map fun (block, rest) => (some block, rest)
  else some (none, lines)

/-- The report that comes first, and the lines after it. -/
def report? (lines : List String) : Option (Report (List String) × List String) := do
  let lines ← skip ">>>>>RESULT" lines
  let (source, lines) ← framed? "SOURCE" lines
  let (dump, lines) ← framedIfAny? "AST" lines
  let (error, lines) ← framedIfAny? "ERROR" lines
  let lines ← skip "<<<<<RESULT" lines
  return (⟨source, dump, error⟩, lines)

theorem skip_cons (line : String) (rest : List String) : skip line (line :: rest) = some rest :=
  if_pos rfl

theorem skip_eq_some_iff {line : String} {lines rest : List String} :
    skip line lines = some rest ↔ lines = line :: rest := by
  cases lines with
  | nil => exact ⟨nofun, nofun⟩
  | cons first others =>
      rw [skip, List.cons.injEq]
      split_ifs with hfirst
      · rw [Option.some.injEq]
        exact ⟨fun hrest => ⟨hfirst, hrest⟩, And.right⟩
      · exact ⟨nofun, fun heq => absurd heq.1 hfirst⟩

theorem isText_iff {line : String} : isText line = true ↔ line ∉ markers := by
  rw [isText, Bool.not_eq_true', Bool.eq_false_iff, ne_eq, List.contains_iff_mem]

/-- The lines of a text go up to the first marker. -/
theorem takeWhile_append_marker {block : List String} (rest : List String) {marker : String}
    (hblock : ∀ line ∈ block, line ∉ markers) (hmarker : marker ∈ markers) :
    (block ++ marker :: rest).takeWhile isText = block ∧
      (block ++ marker :: rest).dropWhile isText = marker :: rest := by
  have hall : ∀ line ∈ block, isText line = true := fun line hline =>
    isText_iff.mpr (hblock line hline)
  have hstop : ¬ isText marker = true := isText_iff.not.mpr (not_not_intro hmarker)
  rw [List.takeWhile_append_of_pos hall, List.dropWhile_append_of_pos hall,
    List.takeWhile_cons_of_neg hstop, List.dropWhile_cons_of_neg hstop, List.append_nil]
  exact ⟨rfl, rfl⟩

/-- What is read between two markers is framed by them. -/
theorem framed?_eq_some_iff {word : String} (hword : "<<<<<" ++ word ∈ markers)
    {lines block rest : List String} :
    framed? word lines = some (block, rest) ↔
      IsBlock block ∧ lines = Finding.framed word block ++ rest := by
  have hframed : Finding.framed word block ++ rest =
      (">>>>>" ++ word) :: (block ++ ("<<<<<" ++ word) :: rest) := by
    rw [Finding.framed, List.append_assoc, List.append_assoc]
    rfl
  rw [hframed]
  constructor
  · intro hread
    obtain ⟨inside, hopen, hinside⟩ := Option.bind_eq_some_iff.mp hread
    obtain ⟨after, hclose, hafter⟩ := Option.bind_eq_some_iff.mp hinside
    split at hafter
    · cases hafter
    · rename_i hne
      cases hafter
      refine ⟨⟨hne, fun line hline => isText_iff.mp (List.mem_takeWhile_imp hline)⟩, ?_⟩
      rw [skip_eq_some_iff.mp hopen, ← skip_eq_some_iff.mp hclose, List.takeWhile_append_dropWhile]
  · rintro ⟨⟨hne, hblock⟩, rfl⟩
    obtain ⟨htake, hdrop⟩ := takeWhile_append_marker rest hblock hword
    refine Option.bind_eq_some_iff.mpr ⟨_, skip_eq_some_iff.mpr rfl, ?_⟩
    refine Option.bind_eq_some_iff.mpr ⟨_, skip_eq_some_iff.mpr hdrop, ?_⟩
    rw [htake, if_neg hne]

/-- What may be absent is read for absent if the next line does not open it. -/
theorem framedIfAny?_eq_some_iff {word : String} (hword : "<<<<<" ++ word ∈ markers)
    {lines rest : List String} {block : Option (List String)} :
    framedIfAny? word lines = some (block, rest) ↔
      (∀ found ∈ block, IsBlock found) ∧ lines = framedIfAny word block ++ rest ∧
        (block = none → rest.head? ≠ some (">>>>>" ++ word)) := by
  unfold framedIfAny?
  cases block with
  | none =>
      split_ifs with hopen
      · rw [Option.map_eq_some_iff]
        constructor
        · rintro ⟨found, -, heq⟩
          cases heq
        · rintro ⟨-, rfl, hnone⟩
          exact absurd hopen (hnone rfl)
      · rw [Option.some.injEq, Prod.mk.injEq]
        constructor
        · rintro ⟨-, rfl⟩
          exact ⟨nofun, rfl, fun _ => hopen⟩
        · rintro ⟨-, rfl, -⟩
          exact ⟨rfl, rfl⟩
  | some block =>
      constructor
      · intro hread
        split_ifs at hread with hopen
        · obtain ⟨⟨found, after⟩, hread, heq⟩ := Option.map_eq_some_iff.mp hread
          cases heq
          obtain ⟨hblock, hlines⟩ := (framed?_eq_some_iff hword).mp hread
          exact ⟨fun found hfound => Option.some.inj hfound ▸ hblock, hlines, nofun⟩
        · cases hread
      · rintro ⟨hblock, rfl, -⟩
        have hopen : (framedIfAny word (some block) ++ rest).head? = some (">>>>>" ++ word) := rfl
        rw [if_pos hopen]
        exact Option.map_eq_some_iff.mpr
          ⟨(block, rest), (framed?_eq_some_iff hword).mpr ⟨hblock block rfl, rfl⟩, rfl⟩

theorem lines_append (report : Report (List String)) (rest : List String) :
    report.lines ++ rest = ">>>>>RESULT" :: (Finding.framed "SOURCE" report.source ++
      (framedIfAny "AST" report.dump ++ (framedIfAny "ERROR" report.error ++
        "<<<<<RESULT" :: rest))) := by
  simp only [lines, Finding.framed, List.append_assoc]
  rfl

theorem source_mem : "<<<<<" ++ "SOURCE" ∈ markers := by decide

theorem ast_mem : "<<<<<" ++ "AST" ∈ markers := by decide

theorem error_mem : "<<<<<" ++ "ERROR" ∈ markers := by decide

/-- **A report is what is printed of one.** -/
theorem report?_eq_some_iff {lines rest : List String} {report : Report (List String)} :
    report? lines = some (report, rest) ↔ report.Forall IsBlock ∧ lines = report.lines ++ rest := by
  rw [lines_append]
  constructor
  · intro hreport
    obtain ⟨inside, hopen, hinside⟩ := Option.bind_eq_some_iff.mp hreport
    obtain ⟨⟨source, first⟩, hsource, hfirst⟩ := Option.bind_eq_some_iff.mp hinside
    obtain ⟨⟨dump, second⟩, hdump, hsecond⟩ := Option.bind_eq_some_iff.mp hfirst
    obtain ⟨⟨error, third⟩, herror, hthird⟩ := Option.bind_eq_some_iff.mp hsecond
    obtain ⟨after, hclose, hafter⟩ := Option.bind_eq_some_iff.mp hthird
    cases hafter
    obtain ⟨hblock, hinside⟩ := (framed?_eq_some_iff source_mem).mp hsource
    obtain ⟨hdumps, hfirst, -⟩ := (framedIfAny?_eq_some_iff ast_mem).mp hdump
    obtain ⟨herrors, hsecond, -⟩ := (framedIfAny?_eq_some_iff error_mem).mp herror
    refine ⟨⟨hblock, hdumps, herrors⟩, ?_⟩
    rw [skip_eq_some_iff.mp hopen, hinside, hfirst, hsecond, skip_eq_some_iff.mp hclose]
  · rintro ⟨⟨hblock, hdumps, herrors⟩, rfl⟩
    -- what is absent is not opened, since the next line is another marker
    have hdumpAbsent : (framedIfAny "ERROR" report.error ++ "<<<<<RESULT" :: rest).head? ≠
        some ">>>>>AST" := by
      cases report.error <;> exact fun heq => absurd (Option.some.inj heq) (by decide)
    have herrorAbsent : ("<<<<<RESULT" :: rest).head? ≠ some ">>>>>ERROR" :=
      fun heq => absurd (Option.some.inj heq) (by decide)
    have hsource : ∀ after,
        framed? "SOURCE" (Finding.framed "SOURCE" report.source ++ after) =
          some (report.source, after) :=
      fun after => (framed?_eq_some_iff source_mem).mpr ⟨hblock, rfl⟩
    have hdump := (framedIfAny?_eq_some_iff ast_mem).mpr ⟨hdumps, rfl, fun _ => hdumpAbsent⟩
    have herror := (framedIfAny?_eq_some_iff error_mem).mpr ⟨herrors, rfl, fun _ => herrorAbsent⟩
    simp only [report?, skip_cons, hsource, hdump, herror, Option.bind_eq_bind, Option.bind_some]
    rfl

/-- All reports.  The last line is the empty one after the last line feed. -/
def reports? (lines : List String) : Option (List (Report (List String))) :=
  if lines = [""] then some []
  else
    match _hreport : report? lines with
    | none => none
    | some (report, rest) => (reports? rest).map (report :: ·)
  termination_by lines.length
  decreasing_by
    rw [(report?_eq_some_iff.mp _hreport).2, List.length_append]
    exact Nat.lt_add_of_pos_left (Nat.succ_pos _)

/-- **The reader takes what is printed of some reports, and nothing else.** -/
theorem reports?_eq_some_iff {lines : List String} {reports : List (Report (List String))} :
    reports? lines = some reports ↔
      (∀ report ∈ reports, report.Forall IsBlock) ∧ lines = reports.flatMap Report.lines ++ [""] := by
  fun_induction reports? lines generalizing reports with
  | case1 =>
      rw [Option.some.injEq]
      constructor
      · rintro rfl
        exact ⟨nofun, rfl⟩
      · rintro ⟨-, hlines⟩
        cases reports with
        | nil => rfl
        | cons report rest =>
            rw [List.flatMap_cons, List.append_assoc, lines_append] at hlines
            exact absurd (List.cons.inj hlines).1 (by decide)
  | case2 lines hne hreport =>
      refine ⟨nofun, ?_⟩
      rintro ⟨hreports, hlines⟩
      cases reports with
      | nil => exact absurd hlines hne
      | cons report rest =>
          rw [List.flatMap_cons, List.append_assoc] at hlines
          have hfirst := report?_eq_some_iff.mpr ⟨hreports report (List.mem_cons_self ..), hlines⟩
          cases hreport.symm.trans hfirst
  | case3 lines hne report rest hreport ih =>
      rw [Option.map_eq_some_iff]
      obtain ⟨hblocks, hlines⟩ := report?_eq_some_iff.mp hreport
      constructor
      · rintro ⟨others, hothers, rfl⟩
        obtain ⟨hall, hrest⟩ := ih.mp hothers
        refine ⟨List.forall_mem_cons.mpr ⟨hblocks, hall⟩, ?_⟩
        rw [hlines, hrest, List.flatMap_cons, List.append_assoc]
      · rintro ⟨hreports, heq⟩
        cases reports with
        | nil => exact absurd heq hne
        | cons first others =>
            obtain ⟨hfirst, hothers⟩ := List.forall_mem_cons.mp hreports
            rw [List.flatMap_cons, List.append_assoc] at heq
            cases hreport.symm.trans (report?_eq_some_iff.mpr ⟨hfirst, heq⟩)
            exact ⟨others, ih.mpr ⟨hothers, rfl⟩, rfl⟩

/-- The reports that an output was printed from, if it was. -/
def decode (output : String) : Option (List (Report String)) :=
  (reports? (Text.lines output)).map fun reports => reports.map (map "\n".intercalate)

/-- No line of the text is a marker. -/
def IsFramable (text : String) : Prop := ∀ line ∈ Text.lines text, line ∉ markers

instance (text : String) : Decidable (IsFramable text) :=
  inferInstanceAs (Decidable (∀ line ∈ Text.lines text, line ∉ markers))

theorem isBlock_lines {text : String} : IsBlock (Text.lines text) ↔ IsFramable text :=
  ⟨And.right, fun hframable => ⟨Text.lines_ne_nil text, hframable⟩⟩

/-- What can be read of a text that has been taken apart into lines and joined again. -/
theorem isFramable_intercalate {block : List String} (hblock : IsBlock block)
    (hlines : ∀ line ∈ block, Text.lines line = [line]) :
    Text.lines ("\n".intercalate block) = block ∧ IsFramable ("\n".intercalate block) := by
  have heq : Text.lines ("\n".intercalate block) = block := by
    rw [Text.lines_intercalate hblock.1, List.flatMap_congr hlines, List.flatMap_singleton']
  rw [IsFramable, heq]
  exact ⟨rfl, hblock.2⟩

end Report

namespace Finding

/-- What is printed of a finding. -/
def report (finding : Finding) : Report String := ⟨finding.source, finding.dump, finding.error⟩

section Framed

variable {word : String} (hword : '\n' ∉ word.toList)

include hword

theorem flatMap_framed (texts : List String) :
    (framed word texts).flatMap Text.lines = framed word (texts.flatMap Text.lines) := by
  have hopen : Text.lines (">>>>>" ++ word) = [">>>>>" ++ word] :=
    Text.lines_of_not_mem (by simpa using hword)
  have hclose : Text.lines ("<<<<<" ++ word) = ["<<<<<" ++ word] :=
    Text.lines_of_not_mem (by simpa using hword)
  rw [framed, framed, List.flatMap_append, List.flatMap_append, List.flatMap_singleton,
    List.flatMap_singleton, hopen, hclose]

theorem flatMap_framedIfAny (text : Option String) :
    (framedIfAny word text).flatMap Text.lines =
      Report.framedIfAny word (text.map Text.lines) := by
  cases text with
  | none => rfl
  | some text =>
      rw [framedIfAny, flatMap_framed hword, List.flatMap_singleton]
      rfl

end Framed

/-- The printed lines of a finding are those of its texts, framed. -/
theorem flatMap_lines (finding : Finding) :
    finding.lines.flatMap Text.lines = (finding.report.map Text.lines).lines := by
  rw [lines, flatMap_framed (by decide), List.flatMap_append, List.flatMap_append,
    flatMap_framed (by decide), flatMap_framedIfAny (by decide), flatMap_framedIfAny (by decide),
    List.flatMap_singleton]
  rfl

/-- The lines of the output are those of the findings, and an empty one at the end. -/
theorem lines_output (findings : List Finding) :
    Text.lines (String.join (findings.map text)) =
      (findings.map fun finding => finding.report.map Text.lines).flatMap Report.lines ++ [""] := by
  induction findings with
  | nil => rfl
  | cons finding rest ih =>
      have hne : finding.lines ≠ [] := nofun
      rw [List.map_cons, String.join_cons, text, Text.lines_append, ih, Text.lines_intercalate hne,
        flatMap_lines, List.map_cons, List.flatMap_cons, List.append_assoc]

/-- The texts of the finding have no marker lines. -/
def IsFramable (finding : Finding) : Prop := finding.report.Forall Report.IsFramable

instance (finding : Finding) : Decidable finding.IsFramable :=
  inferInstanceAs (Decidable (_ ∧ (∀ dump ∈ finding.report.dump, _) ∧
    ∀ error ∈ finding.report.error, _))

end Finding

namespace Report

theorem forall_map {α β : Type} {change : α → β} {fact : β → Prop} {report : Report α} :
    (report.map change).Forall fact ↔ report.Forall fun text => fact (change text) := by
  simp only [Forall, map, Option.mem_map, forall_exists_index, and_imp, forall_apply_eq_imp_iff₂]

theorem map_map {α β γ : Type} (first : α → β) (second : β → γ) (report : Report α) :
    (report.map first).map second = report.map (second ∘ first) := by
  unfold map
  rw [Option.map_map, Option.map_map]
  rfl

/-- A change that leaves all texts of the report alone. -/
theorem map_eq_self {α : Type} {change : α → α} {report : Report α}
    (hsame : report.Forall fun text => change text = text) : report.map change = report := by
  obtain ⟨hsource, hdump, herror⟩ := hsame
  unfold map
  rw [hsource, Option.map_congr hdump, Option.map_congr herror, Option.map_id', Option.map_id']

/-- The texts of a report come back if their lines are joined. -/
theorem map_lines_intercalate (report : Report String) :
    (report.map Text.lines).map "\n".intercalate = report := by
  rw [map_map]
  exact map_eq_self ⟨Text.intercalate_lines _, fun _ _ => Text.intercalate_lines _,
    fun _ _ => Text.intercalate_lines _⟩

/-- The blocks of a report are the lines of texts that have no marker lines. -/
theorem map_intercalate_lines {report : Report (List String)}
    (hblocks : report.Forall IsBlock)
    (hlines : ∀ line ∈ report.lines, Text.lines line = [line]) :
    (report.map "\n".intercalate).map Text.lines = report ∧
      (report.map "\n".intercalate).Forall IsFramable := by
  have hread : report.Forall fun block =>
      Text.lines ("\n".intercalate block) = block ∧ IsFramable ("\n".intercalate block) := by
    obtain ⟨source, dump, error⟩ := report
    simp only [lines, Finding.framed, List.forall_mem_append] at hlines
    obtain ⟨⟨-, ⟨⟨⟨-, hsource⟩, -⟩, hdump⟩, herror⟩, -⟩ := hlines
    refine ⟨isFramable_intercalate hblocks.1 hsource, ?_, ?_⟩
    · rintro block rfl
      exact isFramable_intercalate (hblocks.2.1 block rfl) fun line hline => hdump line
        (List.mem_append_left _ (List.mem_append_right _ hline))
    · rintro block rfl
      exact isFramable_intercalate (hblocks.2.2 block rfl) fun line hline => herror line
        (List.mem_append_left _ (List.mem_append_right _ hline))
  rw [map_map, forall_map]
  exact ⟨map_eq_self ⟨hread.1.1, fun block hblock => (hread.2.1 block hblock).1,
      fun block hblock => (hread.2.2 block hblock).1⟩,
    hread.1.2, fun block hblock => (hread.2.1 block hblock).2,
      fun block hblock => (hread.2.2 block hblock).2⟩

/-- A finding of which this is printed. -/
def finding (report : Report String) : Finding :=
  ⟨report.source, report.error, report.dump, 0, 0, report.source⟩

/-- **An output is read if it is printed from findings whose texts have no marker lines**, and what
is read of it are the sources, descriptions and errors of these findings, in order. -/
theorem decode_eq_some_iff {output : String} {reports : List (Report String)} :
    decode output = some reports ↔ ∃ findings : List Finding,
      findings.map Finding.report = reports ∧ (∀ finding ∈ findings, finding.IsFramable) ∧
        output = String.join (findings.map Finding.text) := by
  unfold decode
  rw [Option.map_eq_some_iff]
  constructor
  · rintro ⟨blocks, hread, rfl⟩
    obtain ⟨hblocks, hlines⟩ := reports?_eq_some_iff.mp hread
    have hback : ∀ report ∈ blocks, (report.map "\n".intercalate).map Text.lines = report ∧
        (report.map "\n".intercalate).Forall IsFramable := by
      intro report hreport
      refine map_intercalate_lines (hblocks report hreport) fun line hline => ?_
      have hmem : line ∈ Text.lines output := by
        rw [hlines]
        exact List.mem_append_left _ (List.mem_flatMap.mpr ⟨report, hreport, hline⟩)
      exact Text.lines_of_mem_lines hmem
    refine ⟨blocks.map fun report => (report.map "\n".intercalate).finding, ?_, ?_, ?_⟩
    · rw [List.map_map]
      rfl
    · exact List.forall_mem_map.mpr fun report hreport => (hback report hreport).2
    · refine Function.LeftInverse.injective Text.intercalate_lines ?_
      have hsame : blocks.map ((fun finding : Finding => finding.report.map Text.lines) ∘
          fun report => (report.map "\n".intercalate).finding) = blocks :=
        List.map_congr_left (fun report hreport => (hback report hreport).1) |>.trans
          (List.map_id blocks)
      rw [hlines, Finding.lines_output, List.map_map, hsame]
  · rintro ⟨findings, rfl, hframable, rfl⟩
    refine ⟨findings.map fun finding => finding.report.map Text.lines,
      reports?_eq_some_iff.mpr ⟨?_, Finding.lines_output findings⟩, ?_⟩
    · refine List.forall_mem_map.mpr fun finding hfinding => forall_map.mpr ?_
      simp only [isBlock_lines]
      exact hframable finding hfinding
    · rw [List.map_map]
      exact List.map_congr_left fun finding _ => map_lines_intercalate finding.report

/-- **What is printed of findings whose texts have no marker lines can be read again.**  Reading
gives back the source, the description and the error of each finding, in order, so the output
belongs to no other list of them; and the findings of a campaign are printed in this way. -/
theorem decode_output (findings : List Finding)
    (hframable : ∀ finding ∈ findings, finding.IsFramable) :
    decode (String.join (findings.map Finding.text)) = some (findings.map Finding.report) ∧
      (∀ others : List Finding, (∀ other ∈ others, other.IsFramable) →
        String.join (others.map Finding.text) = String.join (findings.map Finding.text) →
          others.map Finding.report = findings.map Finding.report) ∧
      ∀ (campaign : Campaign Nat Number) (seed : Int) (files : FileSystem)
        (notes : List Log.Record) (error : Option Campaign.Error),
        ((campaign.run none).run
          ⟨.fresh (.ofSeed seed), ⟨files, 0⟩, .fresh, notes.reverse⟩).1 = (findings, error) →
          ((CommandLine.runCampaign .collecting campaign seed files notes).run "").2 =
            String.join (findings.map Finding.text) := by
  have hread := decode_eq_some_iff.mpr ⟨findings, rfl, hframable, rfl⟩
  refine ⟨hread, fun others hothers hsame => ?_, fun campaign seed files notes error hrun =>
    (CommandLine.runCampaign_collecting hrun).2⟩
  have hother := decode_eq_some_iff.mpr ⟨others, rfl, hothers, rfl⟩
  rw [hsame, hread] at hother
  exact (Option.some.inj hother).symm

/-- A source that begins and ends with line breaks, and an error that says nothing. -/
def broken : Report String := ⟨"\nx\n", none, some ""⟩

/-- An empty source with an empty description, and an error of two lines. -/
def hollow : Report String := ⟨"", some "", some ">>>>>\nRESULT"⟩

/-- Line breaks, empty texts and absent ones are told apart. -/
theorem decode_output_broken :
    (∀ finding ∈ [broken.finding, hollow.finding], finding.IsFramable) ∧
      decode (">>>>>RESULT\n>>>>>SOURCE\n\nx\n\n<<<<<SOURCE\n" ++
        ">>>>>ERROR\n\n<<<<<ERROR\n<<<<<RESULT\n" ++
        ">>>>>RESULT\n>>>>>SOURCE\n\n<<<<<SOURCE\n>>>>>AST\n\n<<<<<AST\n" ++
        ">>>>>ERROR\n>>>>>\nRESULT\n<<<<<ERROR\n<<<<<RESULT\n") = some [broken, hollow] := by
  have hframable : ∀ finding ∈ [broken.finding, hollow.finding], finding.IsFramable := by decide
  refine ⟨hframable, ?_⟩
  exact (decode_output _ hframable).1

end Report

end GrammarFuzz

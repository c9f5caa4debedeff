import Hypertext.Document.Read
import Hypertext.Proofs.Charset.Encoded

/-!
# Byte order marks of documents

A byte order mark in front of a document is dropped where bytes are decoded, and another one where a
text is read (`normalize_eq_uniformNewlines`). So bytes are parsed as the text that they encode
less a mark in front of it (`parseBytes_bytesOf`): as that text itself, unless it begins with two
marks, which are both dropped then (`parseBytes_twoMarks`).
-/

namespace Hypertext

open Charset Document

/-- A text without the byte order mark in front of it, if there is one. -/
def withoutMark : List Char → List Char
  | '\ufeff' :: s => s
  | s => s

variable {s s' : List Char}

theorem withoutMark_of_head? (hs : s.head? ≠ some '\ufeff') : withoutMark s = s := by
  unfold withoutMark
  split
  · exact absurd rfl hs
  · rfl

theorem exists_of_head? (hs : s.head? = some '\ufeff') : ∃ rest, s = '\ufeff' :: rest := by
  cases s with
  | nil => cases hs
  | cons c rest => exact ⟨rest, by rw [Option.some.inj hs]⟩

/-- Unless there are two marks, no mark is left when one is taken away. -/
theorem withoutMark_withoutMark (hs : ¬ ['\ufeff', '\ufeff'] <+: s) :
    withoutMark (withoutMark s) = withoutMark s := by
  by_cases hfirst : s.head? = some '\ufeff'
  · obtain ⟨rest, rfl⟩ := exists_of_head? hfirst
    refine withoutMark_of_head? fun hsecond => hs ?_
    obtain ⟨rest, rfl⟩ := exists_of_head? hsecond
    exact ⟨rest, rfl⟩
  · rw [withoutMark_of_head? hfirst, withoutMark_of_head? hfirst]

namespace Document

/-- One byte order mark is dropped before a text is read. -/
theorem normalize_eq_uniformNewlines (s : List Char) :
    normalize s = uniformNewlines (withoutMark s) [] := by
  by_cases hfirst : s.head? = some '\ufeff'
  · obtain ⟨rest, rfl⟩ := exists_of_head? hfirst
    rfl
  · rw [withoutMark_of_head? hfirst]
    unfold normalize
    split
    · exact absurd rfl hfirst
    · rfl

/-- Texts that differ in a byte order mark only are the same document. -/
theorem read_congr (h : withoutMark s = withoutMark s') : read s = read s' := by
  have hnormal : normalize s = normalize s' := by
    rw [normalize_eq_uniformNewlines, normalize_eq_uniformNewlines, h]
  rw [read, read, hnormal]

end Document

/-- A text in UTF-8 that declares nothing is decoded to that text without a mark. -/
theorem decode_bytesOf_withoutMark {s : String} (h : declaredLabel? (headOf (bytesOf s)) = none) :
    decode (bytesOf s) = (withoutMark s.toList, .utf8) := by
  by_cases hfirst : s.toList.head? = some '\ufeff'
  · obtain ⟨rest, hrest⟩ := exists_of_head? hfirst
    have hbytes : bytesOf s = 0xEF :: 0xBB :: 0xBF :: bytesOf (String.ofList rest) := by
      rw [bytesOf_eq_flatMap, bytesOf_eq_flatMap, hrest, String.toList_ofList, List.flatMap_cons]
      rfl
    rw [hbytes, decode_marked_bytesOf, String.toList_ofList, hrest]
    rfl
  · rw [decode_bytesOf hfirst h, withoutMark_of_head? hfirst]

/-- The bytes of a text that declares no encoding are parsed as this text without a byte order mark
in front. This is the tree of the text itself, unless there are two marks. -/
theorem parseBytes_bytesOf (s : String) (h : declaredLabel? (headOf (bytesOf s)) = none) :
    parseBytes (bytesOf s) = parse (String.ofList (withoutMark s.toList)) ∧
    (¬ ['\ufeff', '\ufeff'] <+: s.toList → parseBytes (bytesOf s) = parse s) := by
  have hbytes : parseBytes (bytesOf s) = parse (String.ofList (withoutMark s.toList)) := by
    rw [parseBytes, decode_bytesOf_withoutMark h]
  refine ⟨hbytes, fun hmarks => ?_⟩
  have hread : read (withoutMark s.toList) = read s.toList :=
    read_congr (withoutMark_withoutMark hmarks)
  rw [hbytes, parse, parse, String.toList_ofList, hread]

/-- A document with one byte order mark. -/
theorem parseBytes_oneMark :
    declaredLabel? (headOf (bytesOf "\ufeff<p>é\ufeff")) = none ∧
    ¬ ['\ufeff', '\ufeff'] <+: "\ufeff<p>é\ufeff".toList ∧
    parseBytes (bytesOf "\ufeff<p>é\ufeff") = parse "\ufeff<p>é\ufeff" := by
  have hhead : declaredLabel? (headOf (bytesOf "\ufeff<p>é\ufeff")) = none := by
    rw [bytesOf_eq]
    decide +kernel
  have hmarks : ¬ ['\ufeff', '\ufeff'] <+: "\ufeff<p>é\ufeff".toList := by decide
  exact ⟨hhead, hmarks, (parseBytes_bytesOf _ hhead).2 hmarks⟩

/-- Of two byte order marks, the second is kept in the text if a text is parsed, and lost if its bytes
are. -/
theorem parseBytes_twoMarks :
    declaredLabel? (headOf (bytesOf "\ufeff\ufeffx")) = none ∧
    (parse "\ufeff\ufeffx").content? 4 = some (.text "\ufeffx") ∧
    (parseBytes (bytesOf "\ufeff\ufeffx")).content? 4 = some (.text "x") ∧
    parseBytes (bytesOf "\ufeff\ufeffx") ≠ parse "\ufeff\ufeffx" := by
  have htext : (parse "\ufeff\ufeffx").content? 4 = some (.text "\ufeffx") := by decide +kernel
  have hbytes : (parseBytes (bytesOf "\ufeff\ufeffx")).content? 4 = some (.text "x") := by
    rw [bytesOf_eq]
    decide +kernel
  refine ⟨?_, htext, hbytes, fun e => ?_⟩
  · rw [bytesOf_eq]
    decide +kernel
  · rw [e, htext] at hbytes
    exact absurd hbytes (by decide)

end Hypertext

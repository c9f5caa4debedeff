import Hypertext.Charset.Detection
import Hypertext.Proofs.Text.Pattern

/-!
# Declarations of an encoding

A `meta` tag that stands for a `Content-Type` header spells the word `charset` within the tag, so
it is a `meta` tag with a `charset` attribute as well, as far as the patterns can tell
(`matches_charsetAttribute`). Where no such attribute is found, nothing is declared
(`declaredLabel?_eq_none`), and so it is the attribute that counts wherever something is declared
(`declaredLabel?_eq_search?`).
-/

namespace Hypertext.Charset

open Pattern

/-- What stands between `<meta` and `charset` in a tag that stands for a header. -/
def headerBeginning : Pattern :=
  [withinTag] ++ spelled "http-equiv" ++ equals ++ [maybeQuote] ++ spelled "content-type"
    ++ [maybeQuote, withinTag] ++ spelled "content" ++ equals
    ++ [maybeQuote, ⟨.any, fun c => !(isQuote c || c == '>')⟩] ++ spelled ";" ++ [spaces]

theorem contentType_eq : contentType =
    spelled "<meta" ++ (headerBeginning ++ (spelled "charset" ++ (equals ++ [label]))) := by
  simp only [contentType, headerBeginning, List.append_assoc]

theorem charsetAttribute_eq : charsetAttribute =
    spelled "<meta" ++ ([withinTag] ++ (spelled "charset" ++ (equals ++ [maybeQuote, label]))) := by
  simp only [charsetAttribute, List.append_assoc]

/-- The beginning of a header stays within the tag, and is not empty. -/
theorem withinTag_of_headerBeginning {s : List Char} (h : headerBeginning.Matches s) :
    Matches [withinTag] s := by
  have haccepts : ∀ piece ∈ headerBeginning, piece.accepts '>' = false := by
    decide +kernel
  have hwithin : ∀ c ∈ s, c != '>' := fun c hc => bne_iff_ne.mpr (h.ne haccepts c hc)
  obtain ⟨taken, rest, rfl, ⟨hpos, -⟩, -⟩ := h
  refine ⟨taken ++ rest, [], (List.append_nil _).symm, ⟨?_, hwithin⟩, rfl⟩
  show 0 < (taken ++ rest).length
  rw [List.length_append]
  exact Nat.lt_of_lt_of_le hpos (Nat.le_add_right _ _)

/-- A quote may be missing in front of a label. -/
theorem matches_quoted_label {s : List Char} (h : Matches [label] s) :
    Matches [maybeQuote, label] s :=
  ⟨[], s, rfl, ⟨Nat.zero_le 1, List.forall_mem_nil _⟩, h⟩

/-- What stands for a header has a `charset` attribute. -/
theorem matches_charsetAttribute {s : List Char} (h : contentType.Matches s) :
    charsetAttribute.Matches s := by
  rw [contentType_eq] at h
  obtain ⟨name, s, rfl, hname, h⟩ := matches_append.mp h
  obtain ⟨within, s, rfl, hwithin, h⟩ := matches_append.mp h
  obtain ⟨word, s, rfl, hword, h⟩ := matches_append.mp h
  obtain ⟨sign, s, rfl, hsign, h⟩ := matches_append.mp h
  have hvalue := hword.append (hsign.append (matches_quoted_label h))
  rw [charsetAttribute_eq]
  exact hname.append ((withinTag_of_headerBeginning hwithin).append hvalue)

/-- Where a header is found, a `charset` attribute is found. -/
theorem isSome_charsetAttribute {head : List Char} (h : (contentType.search? head).isSome) :
    (charsetAttribute.search? head).isSome := by
  obtain ⟨before, u, after, e, hu⟩ := isSome_search?.mp h
  exact isSome_search?.mpr ⟨before, u, after, e, matches_charsetAttribute hu⟩

/-- Where there is no `meta` tag nothing is declared. -/
theorem search?_charsetAttribute_eq_none {head : List Char}
    (h : (spelled "<meta").search? head = none) : charsetAttribute.search? head = none := by
  rw [← Option.not_isSome_iff_eq_none, isSome_search?] at h ⊢
  rintro ⟨before, u, after, rfl, hu⟩
  rw [charsetAttribute_eq] at hu
  obtain ⟨name, more, rfl, hname, -⟩ := matches_append.mp hu
  exact h ⟨before, name, more ++ after, by simp, hname⟩

/-- Without a `charset` attribute nothing is declared. -/
theorem declaredLabel?_eq_none {head : List Char} (h : charsetAttribute.search? head = none) :
    declaredLabel? head = none := by
  rw [declaredLabel?, h]
  cases hheader : contentType.search? head with
  | none => rfl
  | some label =>
    have hsome := isSome_charsetAttribute (Option.isSome_of_eq_some hheader)
    rw [h] at hsome
    cases hsome

/-- Some part of the text is a fit of the pattern. -/
def Occurs (p : Pattern) (text : List Char) : Prop :=
  ∃ before u after, text = before ++ u ++ after ∧ p.Matches u

/-- Looking for a header makes no difference: where one occurs, a `charset` attribute occurs, and
what is declared is the label of the first attribute, or nothing where no attribute occurs. -/
theorem declaredLabel?_eq_search? (head : List Char) :
    (Occurs contentType head → Occurs charsetAttribute head) ∧
    declaredLabel? head = charsetAttribute.search? head ∧
    (declaredLabel? head = none ↔ ¬ Occurs charsetAttribute head) := by
  have hlabel : declaredLabel? head = charsetAttribute.search? head := by
    cases h : charsetAttribute.search? head with
    | none => exact declaredLabel?_eq_none h
    | some label => rw [declaredLabel?, h]
  refine ⟨?_, hlabel, ?_⟩
  · rintro ⟨before, u, after, e, hu⟩
    exact ⟨before, u, after, e, matches_charsetAttribute hu⟩
  · rw [hlabel, ← Option.not_isSome_iff_eq_none, isSome_search?]
    rfl

/-- A header with single quotes. -/
def koi8Header : List Char :=
  "<META HTTP-EQUIV='content-type' CONTENT='text/html; charset=koi8-r'>".toList

theorem declaredLabel?_koi8Header : Occurs contentType koi8Header ∧
    Occurs charsetAttribute koi8Header ∧ declaredLabel? koi8Header = some "koi8-r".toList := by
  have hheader : Occurs contentType koi8Header := isSome_search?.mp (by decide +kernel)
  have hlabel : charsetAttribute.search? koi8Header = some "koi8-r".toList := by decide +kernel
  obtain ⟨hoccurs, hsearch, -⟩ := declaredLabel?_eq_search? koi8Header
  exact ⟨hheader, hoccurs hheader, hsearch.trans hlabel⟩

end Hypertext.Charset

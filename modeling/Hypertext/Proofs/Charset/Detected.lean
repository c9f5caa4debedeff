import Hypertext.Proofs.Charset.Label
import Hypertext.Proofs.Charset.Sequences

/-!
# The encoding that is detected

The label of a tag that declares an encoding decides, as far as it stands in the first bytes of the
document, if nothing is declared in front of the tag (`detect_of_opening`).

* Of an attribute and a header the one that comes first decides, not the attribute
  (`detect_attributeAndHeader`).
* A label that the end of these bytes cuts off counts as what is left of it (`detect_cutLabel`),
  which may be the label of another encoding (`detect_cutLatin9`).
-/

namespace Hypertext.Charset

open Pattern

variable {tag mark label attr header : String} {before rest bytes x y : Bytes}
  {lab inTag stop : List Char} {e : Encoding}

/-! ## In front of a tag -/

/-- Only the bytes in front of a tag can begin with a byte order mark. -/
theorem byteOrderMark?_append (hx : byteOrderMark? x = none) (hy : ∀ b ∈ y.head?, b = 0x3C) :
    byteOrderMark? (x ++ y) = none := by
  have hmark : ∀ bom rest : Bytes, (∀ b ∈ bom, b ≠ 0x3C) → x ++ y = bom ++ rest → bom <+: x :=
    fun bom rest hbom e => prefix_of_append_eq hbom hy e
  unfold byteOrderMark?
  split
  · next rest e =>
    obtain ⟨t, rfl⟩ := hmark [0xEF, 0xBB, 0xBF] rest (List.all_iff_forall_prop.mp (by decide)) e
    cases hx
  · next rest e =>
    obtain ⟨t, rfl⟩ := hmark [0xFE, 0xFF] rest (List.all_iff_forall_prop.mp (by decide)) e
    cases hx
  · next rest e =>
    obtain ⟨t, rfl⟩ := hmark [0xFF, 0xFE] rest (List.all_iff_forall_prop.mp (by decide)) e
    cases hx
  · rfl

theorem head?_bytesOf_of_opening (h : opening.Matches tag.toList) :
    (bytesOf tag).head? = some 0x3C := by
  obtain ⟨more, htag⟩ := exists_of_opening h
  rw [bytesOf_eq_flatMap, htag]
  rfl

/-- The label decides that is seen behind the first tag. -/
theorem detect_of_opening (hbom : byteOrderMark? before = none)
    (hbefore : charsetAttribute.search? (decodeUtf8 before) = none)
    (htag : opening.Matches tag.toList) (hlength : (before ++ bytesOf tag).length ≤ headLength)
    (h : LastLabel lab inTag stop)
    (hseen : decodeUtf8 (rest.take (headLength - (before ++ bytesOf tag).length)) =
      lab ++ (inTag ++ stop)) :
    detect (before ++ bytesOf tag ++ rest) = (Encoding.ofDeclared? lab).getD .utf8 := by
  have hsign : ∀ y, ∀ b ∈ (bytesOf tag ++ y).head?, b = 0x3C := fun y b hb => by
    rw [List.head?_append, head?_bytesOf_of_opening htag] at hb
    exact (Option.some.inj hb).symm
  have hascii : ∀ y, ∀ b ∈ (bytesOf tag ++ y).head?, b < 0x80 := fun y b hb => by
    rw [hsign y b hb]
    decide
  have hhead : headOf (before ++ bytesOf tag ++ rest) =
      decodeUtf8 before ++ (tag.toList ++ (lab ++ (inTag ++ stop))) := by
    rw [headOf, List.take_append, List.take_of_length_le hlength, List.append_assoc,
      decodeUtf8_append (hascii _), decodeUtf8_bytesOf_append, hseen]
  have hmark : byteOrderMark? (before ++ bytesOf tag ++ rest) = none := by
    rw [List.append_assoc]
    exact byteOrderMark?_append hbom (hsign rest)
  rw [detect, hmark, hhead, declaredLabel?, search?_of_opening htag h hbefore]
  rfl

/-! ## Two tags -/

/-- What stands in front of the label of an attribute. -/
def attributeMark : String :=
  "<meta charset=\""

/-- What stands in front of the label of a header. -/
def headerMark : String :=
  "<meta http-equiv=\"Content-Type\" content=\"text/html; charset="

/-- The tag with a label. -/
def tagOf (mark label : String) : String :=
  mark ++ label ++ "\">"

theorem matches_attributeMark : opening.Matches attributeMark.toList := by
  have htext : attributeMark.toList =
      "<meta".toList ++ ([' '] ++ ("charset".toList ++ (['='] ++ ['"']))) := by decide +kernel
  rw [htext]
  exact matches_opening ⟨Nat.one_pos, List.forall_mem_singleton.mpr rfl⟩
    ⟨Nat.le_refl 1, List.forall_mem_singleton.mpr rfl⟩

theorem matches_headerMark : opening.Matches headerMark.toList := by
  have htext : headerMark.toList = "<meta".toList ++
      (" http-equiv=\"Content-Type\" content=\"text/html; ".toList ++
        ("charset".toList ++ (['='] ++ []))) := by decide +kernel
  rw [htext]
  exact matches_opening
    ⟨List.length_pos_of_ne_nil (by decide +kernel), List.all_eq_true.mp (by decide +kernel)⟩
    ⟨Nat.zero_le 1, List.forall_mem_nil _⟩

/-- The first tag decides. -/
theorem detect_tagOf (hmark : opening.Matches mark.toList) (he : e.HasLabel label.toList)
    (hbom : byteOrderMark? before = none)
    (hbefore : charsetAttribute.search? (decodeUtf8 before) = none)
    (hlength : (before ++ bytesOf (tagOf mark label)).length ≤ headLength) (after : Bytes) :
    detect (before ++ bytesOf (tagOf mark label) ++ after) = e := by
  have htag : bytesOf (tagOf mark label) = bytesOf mark ++ bytesOf (label ++ "\">") := by
    rw [tagOf, String.append_assoc, bytesOf_append]
  rw [htag, ← List.append_assoc, List.length_append] at hlength
  have hclosed : (label ++ "\">").toList = label.toList ++ (['"'] ++ ['>']) := by
    rw [String.toList_append]
    rfl
  have hseen : decodeUtf8 ((bytesOf (label ++ "\">") ++ after).take
        (headLength - (before ++ bytesOf mark).length)) =
      label.toList ++ (['"'] ++ '>' :: decodeUtf8 (after.take
        (headLength - (before ++ bytesOf mark).length - (bytesOf (label ++ "\">")).length))) := by
    rw [List.take_append, List.take_of_length_le (Nat.le_sub_of_add_le' hlength),
      decodeUtf8_bytesOf_append, hclosed]
    simp only [List.append_assoc, List.cons_append, List.nil_append]
  rw [htag, ← List.append_assoc, List.append_assoc _ _ after,
    detect_of_opening hbom hbefore hmark (Nat.le_of_add_right_le hlength)
      (lastLabel_of_quoted he _) hseen]
  exact (Encoding.getD_ofDeclared? fun c hc => (he.written.2 c hc).1).1 e he

/-- Of an attribute and a header the one decides that comes first. -/
theorem detect_attributeAndHeader {e' : Encoding} (he : e.HasLabel attr.toList)
    (he' : e'.HasLabel header.toList) (hbom : byteOrderMark? before = none)
    (hbefore : (spelled "<meta").search? (decodeUtf8 before) = none) (between after : Bytes)
    (hlength : (before ++ bytesOf (tagOf attributeMark attr) ++
      (between ++ bytesOf (tagOf headerMark header) ++ after)).length ≤ headLength) :
    detect (before ++ bytesOf (tagOf attributeMark attr) ++
      (between ++ bytesOf (tagOf headerMark header) ++ after)) = e ∧
    detect (before ++ bytesOf (tagOf headerMark header) ++
      (between ++ bytesOf (tagOf attributeMark attr) ++ after)) = e' := by
  simp only [List.length_append] at hlength
  have hnone := search?_charsetAttribute_eq_none hbefore
  constructor
  · refine detect_tagOf matches_attributeMark he hbom hnone ?_ _
    rw [List.length_append]
    omega
  · refine detect_tagOf matches_headerMark he' hbom hnone ?_ _
    rw [List.length_append]
    omega

theorem detect_koi8rAndWindows1251 :
    detect (bytesOf "<title>KOI8</title>" ++ bytesOf (tagOf attributeMark "Windows-1251") ++
      (bytesOf "<br>" ++ bytesOf (tagOf headerMark "koi8-r") ++ bytesOf "<p>x")) = .windows1251 ∧
    detect (bytesOf "<title>KOI8</title>" ++ bytesOf (tagOf headerMark "koi8-r") ++
      (bytesOf "<br>" ++ bytesOf (tagOf attributeMark "Windows-1251") ++ bytesOf "<p>x")) =
        .koi8r := by
  refine detect_attributeAndHeader (by decide +kernel) (by decide +kernel) ?_ ?_ _ _ ?_
  all_goals
    simp only [bytesOf_eq]
    decide +kernel

/-- A header in front of an attribute. -/
def headerFirst : Bytes :=
  bytesOf (tagOf headerMark "koi8-r") ++ bytesOf (tagOf attributeMark "windows-1251")

/-- The attribute does not decide behind a header. -/
theorem detect_headerFirst : (∀ b ∈ headerFirst, b < 0x80) ∧
    headerFirst.length ≤ headLength ∧ byteOrderMark? headerFirst = none ∧
    Encoding.windows1251.HasLabel "windows-1251".toList ∧
    detect headerFirst = .koi8r ∧ detect headerFirst ≠ .windows1251 := by
  simp only [headerFirst, bytesOf_eq]
  exact ⟨List.all_iff_forall_prop.mp (by decide +kernel), by decide +kernel⟩

/-! ## Where the head ends -/

/-- What can be seen of a label is one up to the end of the head. -/
theorem lastLabel_take {label : Bytes} {n : Nat} (hlabel : ∀ c ∈ decodeUtf8 label, isLabelChar c)
    (hne : label.take n ≠ []) (hlast : declaration.search? (decodeUtf8 (label.take n)) = none) :
    LastLabel (decodeUtf8 (label.take n)) [] [] := by
  obtain ⟨s, hs, hdecode⟩ := decodeUtf8_beginning (label.take n) (label.drop n)
  rw [List.take_append_drop] at hs
  have hchars : ∀ c ∈ s, isLabelChar c := fun c hc => hlabel c (hs.subset hc)
  have hseen : ∀ c ∈ decodeUtf8 (label.take n), isLabelChar c := by
    rcases hdecode with e | e <;> rw [e]
    · exact hchars
    · exact List.forall_mem_append.mpr ⟨hchars, List.forall_mem_singleton.mpr rfl⟩
  refine ⟨⟨List.length_pos_of_ne_nil (decodeUtf8_ne_nil hne), hseen⟩, nofun, ?_, nofun, nofun⟩
  rwa [List.append_nil]

/-- Of a label that reaches the end of the head, the part decides that stands in the head. -/
theorem detect_cutLabel {label : Bytes} {seen : List Char} (hbom : byteOrderMark? before = none)
    (hbefore : charsetAttribute.search? (decodeUtf8 before) = none)
    (htag : opening.Matches tag.toList) (hlabel : ∀ c ∈ decodeUtf8 label, isLabelChar c)
    (hbegin : (before ++ bytesOf tag).length < headLength)
    (hend : headLength ≤ (before ++ bytesOf tag ++ label).length)
    (hseen : decodeUtf8 (label.take (headLength - (before ++ bytesOf tag).length)) = seen)
    (hlast : declaration.search? seen = none) (after : Bytes) :
    (∀ e : Encoding, e.HasLabel seen → detect (before ++ bytesOf tag ++ (label ++ after)) = e) ∧
    ((∀ e : Encoding, ¬ e.HasLabel seen) →
      detect (before ++ bytesOf tag ++ (label ++ after)) = .utf8) := by
  subst hseen
  rw [List.length_append] at hend
  have hle : headLength - (before ++ bytesOf tag).length ≤ label.length :=
    Nat.sub_le_iff_le_add'.mpr hend
  have hne : label.take (headLength - (before ++ bytesOf tag).length) ≠ [] := by
    refine List.ne_nil_of_length_pos ?_
    rw [List.length_take, Nat.min_eq_left hle]
    exact Nat.sub_pos_of_lt hbegin
  have hcut := lastLabel_take hlabel hne hlast
  rw [detect_of_opening hbom hbefore htag hbegin.le hcut]
  · exact Encoding.getD_ofDeclared? hcut.label.2
  · rw [List.take_append_of_le_length hle, List.append_nil, List.append_nil]

/-- A declaration of Latin-9 whose last byte of the label stands behind the head. -/
def cutLatin9 : Bytes :=
  List.replicate 1000 0x20 ++ bytesOf "<meta charset=" ++ (bytesOf "iso-8859-15" ++ bytesOf ">")

/-- What can be seen is a label of Windows-1252. -/
theorem detect_cutLatin9_seen : detect cutLatin9 = .windows1252 := by
  have hsimple : opening.Matches "<meta charset=".toList := by
    have htext : "<meta charset=".toList =
        "<meta".toList ++ ([' '] ++ ("charset".toList ++ (['='] ++ []))) := by decide +kernel
    rw [htext]
    exact matches_opening ⟨Nat.one_pos, List.forall_mem_singleton.mpr rfl⟩
      ⟨Nat.zero_le 1, List.forall_mem_nil _⟩
  have hlabel : ∀ c ∈ decodeUtf8 (bytesOf "iso-8859-15"), isLabelChar c := by
    rw [decodeUtf8_bytesOf]
    exact List.all_eq_true.mp (by decide +kernel)
  refine (detect_cutLabel (by decide +kernel) (by decide +kernel) hsimple hlabel ?_ ?_ rfl ?_ _).1
    _ ?_
  all_goals
    simp only [bytesOf_eq]
    decide +kernel

/-- The document does not ask for the encoding that is detected. -/
theorem detect_cutLatin9 : byteOrderMark? cutLatin9 = none ∧
    (spelled "<meta").search? (decodeUtf8 (List.replicate 1000 0x20)) = none ∧
    (List.replicate 1000 0x20 ++ bytesOf "<meta charset=").length < headLength ∧
    headLength < (List.replicate 1000 0x20 ++ bytesOf "<meta charset=" ++
      bytesOf "iso-8859-15").length ∧
    Encoding.iso8859x15.HasLabel "iso-8859-15".toList ∧
    detect cutLatin9 = .windows1252 ∧ detect cutLatin9 ≠ .utf8 := by
  simp only [cutLatin9, bytesOf_eq]
  decide +kernel

end Hypertext.Charset

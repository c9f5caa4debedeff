import Hypertext.Proofs.Charset.Label

/-!
# Attributes that declare a label

The ways in which a `meta` tag may spell its `charset` attribute (`AttributeTag`): its words in any
case, spaces around the equals sign, and the label in single quotes, in double quotes or in none. If
no tag begins in front of it, its label is the one that is declared, and what follows the tag does
not matter (`declaredLabel?_attributeTag`).
-/

namespace Hypertext.Charset

open Pattern

variable {word : String} {s before : List Char}

/-- A `meta` tag that ends with a `charset` attribute, as it is written. -/
structure AttributeTag where
  /-- The sign that begins the tag, and its name. -/
  name : List Char
  name_spelled : name.map Char.toLower = "<meta".toList
  /-- What sets the attribute off from the name: blanks, and maybe other attributes. -/
  between : List Char
  between_ne_nil : between ≠ []
  between_inside : ∀ c ∈ between, c ≠ '>'
  /-- The key of the attribute. -/
  key : List Char
  key_spelled : key.map Char.toLower = "charset".toList
  /-- The spaces in front of the equals sign and those behind it. -/
  spaces : List Char × List Char
  spaces_isSpace : ∀ c ∈ spaces.1 ++ spaces.2, isSpace c
  /-- What the label is enclosed in. -/
  quote : List Char
  quote_mem : quote ∈ [[], ['\''], ['"']]
  label : List Char
  label_ne_nil : label ≠ []
  label_chars : ∀ c ∈ label, ¬ isQuote c ∧ ¬ isSpace c ∧ c ≠ '>' ∧ c ≠ '=' ∧ c ≠ ';'

namespace AttributeTag

variable (tag : AttributeTag)

/-- The tag up to its label. -/
def opened : List Char :=
  tag.name ++ (tag.between ++ (tag.key ++ (tag.spaces.1 ++ ['='] ++ tag.spaces.2 ++ tag.quote)))

/-- The whole tag. -/
def text : List Char :=
  tag.opened ++ (tag.label ++ (tag.quote ++ ['>']))

end AttributeTag

/-! ## Words in any case -/

/-- A word is spelled by what becomes the word in small letters. -/
theorem matches_spelled_of_toLower (hs : s.map Char.toLower = word.toList) :
    (spelled word).Matches s := by
  rw [spelled, ← hs, List.map_map]
  induction s generalizing word with
  | nil => rfl
  | cons c s ih =>
    have hc : caseless c.toLower c := by simp [caseless]
    exact ⟨[c], s, rfl, ⟨rfl, List.forall_mem_singleton.mpr hc⟩, ih String.toList_ofList.symm⟩

/-- Where no tag begins, nothing is declared. -/
theorem search?_charsetAttribute_of_not_mem (hs : '<' ∉ s) : charsetAttribute.search? s = none := by
  refine search?_charsetAttribute_eq_none ?_
  rw [← Option.not_isSome_iff_eq_none, isSome_search?]
  rintro ⟨before, name, after, rfl, hname⟩
  obtain ⟨letters, rfl, -⟩ := exists_of_meta hname
  exact hs (by simp)

/-- A quote is no part of a label, no equals sign and no end of a tag. -/
theorem of_isQuote {c : Char} (hc : isQuote c) : ¬ isLabelChar c ∧ c ≠ '=' ∧ c ≠ '>' := by
  simp only [isQuote, Bool.or_eq_true, beq_iff_eq] at hc
  rcases hc with rfl | rfl <;> decide

/-! ## The label that is declared -/

namespace AttributeTag

variable (tag : AttributeTag)

theorem takes_label : Charset.label.Takes tag.label := by
  refine ⟨List.length_pos_of_ne_nil tag.label_ne_nil, fun c hc => ?_⟩
  obtain ⟨hquote, hspace, hend, -, hsemicolon⟩ := tag.label_chars c hc
  show isLabelChar c
  simp [isLabelChar, hquote, hspace, hend, hsemicolon]

theorem takes_quote : maybeQuote.Takes tag.quote := by
  have hquote := tag.quote_mem
  simp only [List.mem_cons, List.not_mem_nil, or_false] at hquote
  rcases hquote with h | h | h <;> rw [h]
  · exact ⟨Nat.zero_le 1, List.forall_mem_nil _⟩
  · exact ⟨Nat.le_refl 1, List.forall_mem_singleton.mpr rfl⟩
  · exact ⟨Nat.le_refl 1, List.forall_mem_singleton.mpr rfl⟩

theorem quote_chars : ∀ c ∈ tag.quote, ¬ isLabelChar c ∧ c ≠ '=' ∧ c ≠ '>' :=
  fun c hc => of_isQuote (tag.takes_quote.2 c hc)

theorem matches_opened : opening.Matches tag.opened := by
  have hbetween : withinTag.Takes tag.between :=
    ⟨List.length_pos_of_ne_nil tag.between_ne_nil, fun c hc =>
      bne_iff_ne.mpr (tag.between_inside c hc)⟩
  obtain ⟨hfront, hbehind⟩ := List.forall_mem_append.mp tag.spaces_isSpace
  have hspaces : ∀ {s : List Char}, (∀ c ∈ s, isSpace c) → Matches [Charset.spaces] s :=
    fun hs => matches_singleton.mpr ⟨trivial, hs⟩
  have hsign : equals.Matches (tag.spaces.1 ++ ['='] ++ tag.spaces.2) :=
    ((hspaces hfront).append (matches_spelled "=")).append (hspaces hbehind)
  have hkey := (matches_spelled_of_toLower tag.key_spelled).append
    (hsign.append (matches_singleton.mpr tag.takes_quote))
  exact (matches_spelled_of_toLower tag.name_spelled).append
    ((matches_singleton.mpr hbetween).append hkey)

/-- The label ends at the closing quote or at the end of the tag. -/
theorem not_isLabelChar_behind (after : List Char) :
    ∀ c ∈ (tag.quote ++ '>' :: after).head?, ¬ isLabelChar c := by
  intro c hc
  cases hquote : tag.quote with
  | nil =>
    rw [hquote] at hc
    obtain rfl : '>' = c := Option.some.inj hc
    decide
  | cons q more =>
    rw [hquote] at hc
    obtain rfl : q = c := Option.some.inj hc
    exact (tag.quote_chars q (hquote ▸ List.mem_cons_self)).1

theorem lastLabel (after : List Char) : LastLabel tag.label tag.quote ('>' :: after) where
  label := tag.takes_label
  ends := tag.not_isLabelChar_behind after
  -- A further declaration in the tag would have an equals sign of its own.
  last := search?_declaration_eq_none <| List.forall_mem_append.mpr
    ⟨fun c hc => (tag.label_chars c hc).2.2.2.1, fun c hc => (tag.quote_chars c hc).2.1⟩
  within c hc := (tag.quote_chars c hc).2.2
  stop := by
    rintro c ⟨⟩
    rfl

end AttributeTag

/-- The first tag declares its label, in whichever way it is written and whatever follows it. -/
theorem declaredLabel?_attributeTag (tag : AttributeTag) (hbefore : '<' ∉ before)
    (after : List Char) : declaredLabel? (before ++ (tag.text ++ after)) = some tag.label := by
  have htext : tag.text ++ after = tag.opened ++ (tag.label ++ (tag.quote ++ '>' :: after)) := by
    simp [AttributeTag.text]
  rw [declaredLabel?, htext, search?_of_opening tag.matches_opened (tag.lastLabel after)
    (search?_charsetAttribute_of_not_mem hbefore)]

/-- A tag with capitals, spaces and another attribute. -/
def shiftJisTag : AttributeTag where
  name := "<MeTa".toList
  name_spelled := by decide +kernel
  between := "\tname=charset\n".toList
  between_ne_nil := by decide +kernel
  between_inside := List.all_iff_forall_prop.mp (by decide +kernel)
  key := "CHARset".toList
  key_spelled := by decide +kernel
  spaces := ([' '], ['\t', '\n'])
  spaces_isSpace := List.all_eq_true.mp (by decide +kernel)
  quote := ['\'']
  quote_mem := by decide
  label := "Shift_JIS".toList
  label_ne_nil := by decide +kernel
  label_chars := List.all_iff_forall_prop.mp (by decide +kernel)

theorem declaredLabel?_shiftJisTag : '<' ∉ "charset=koi8-r>".toList ∧
    declaredLabel? ("charset=koi8-r>".toList ++
      (shiftJisTag.text ++ "<meta charset=utf-8>".toList)) = some "Shift_JIS".toList := by
  have hbefore : '<' ∉ "charset=koi8-r>".toList := by decide +kernel
  exact ⟨hbefore, declaredLabel?_attributeTag shiftJisTag hbefore _⟩

end Hypertext.Charset

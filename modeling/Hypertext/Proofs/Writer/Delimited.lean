import Hypertext.Proofs.Writer.Markup

/-!
# Delimited parts of markup

The parts of markup that can be told from whatever comes after them, provided that their names
are words: attributes (`Attribute.markup_append_inj`), start tags
(`Element.startMarkup_append_inj`), document type declarations (`Doctype.markup_append_inj`) and
comments (`commentMarkup_append_inj`).

Each statement is about two parts of one kind with anything behind them: if the texts are equal,
then so are the parts, and so is what comes after them.
-/

namespace Hypertext

/-- The characters of words: small letters, digits and hyphens. -/
def isWordChar (c : Char) : Bool :=
  c.isLower || c.isDigit || c == '-'

/-- Whether a text is a word. -/
def isWord (s : String) : Bool :=
  !s.toList.isEmpty && s.toList.all isWordChar

/-- Whether a text is a word that begins with a letter. -/
def isName (s : String) : Bool :=
  s.toList.head?.any Char.isLower && s.toList.all isWordChar

/-- An element that is made from its name, whose name and keys are words, and whose content is
not literal. -/
structure Element.Regular (e : Element) : Prop where
  named : e = .named e.name e.attributes
  name : isName e.name
  keys : ∀ a ∈ e.attributes, isWord a.key
  content : ¬ Tag.isLiteral e.tag

/-- Whether a text can stand in quotes of one kind. -/
def Quotable (id : String) : Prop :=
  ¬ ('"' ∈ id.toList ∧ '\'' ∈ id.toList)

instance (id : String) : Decidable (Quotable id) :=
  inferInstanceAs (Decidable (¬ _))

/-- A document type whose name is a word of letters, and whose identifiers can be quoted. -/
structure Doctype.Regular (d : Doctype) : Prop where
  nonempty : d.name ≠ ""
  name : ∀ c ∈ d.name.toList, c.isLower
  publicId : Quotable d.publicId
  systemId : Quotable d.systemId

/-! ## Start tags -/

theorem isWordChar_of_isWord {s : String} (h : isWord s) : ∀ c ∈ s.toList, isWordChar c :=
  List.all_eq_true.mp (Bool.and_eq_true_iff.mp h).2

theorem isWordChar_of_isName {s : String} (h : isName s) : ∀ c ∈ s.toList, isWordChar c :=
  List.all_eq_true.mp (Bool.and_eq_true_iff.mp h).2

/-- Words in front of something that goes on with no character of words. -/
theorem word_append_inj {a b : String} (ha : ∀ c ∈ a.toList, isWordChar c)
    (hb : ∀ c ∈ b.toList, isWordChar c) {x y : List Char} (hx : ∀ c ∈ x.head?, ¬ isWordChar c)
    (hy : ∀ c ∈ y.head?, ¬ isWordChar c) (h : a.toList ++ x = b.toList ++ y) : a = b ∧ x = y := by
  obtain ⟨e, h⟩ := split_unique isWordChar ha hb hx hy h
  exact ⟨String.toList_inj.mp e, h⟩

theorem Attribute.markup_append_inj {a b : Attribute} (ha : isWord a.key) (hb : isWord b.key)
    {x y : List Char} (h : a.markup ++ x = b.markup ++ y) : a = b ∧ x = y := by
  obtain ⟨key, value⟩ := a
  obtain ⟨key', value'⟩ := b
  have hstop : ∀ s : List Char, ∀ c ∈ ('=' :: s).head?, ¬ isWordChar c := by
    rintro s c ⟨⟩
    decide
  simp only [markup, List.cons_append, List.append_assoc, List.nil_append, List.cons.injEq,
    true_and, String.reduceToList] at h
  obtain ⟨rfl, hvalue⟩ := word_append_inj (isWordChar_of_isWord ha) (isWordChar_of_isWord hb)
    (hstop _) (hstop _) h
  simp only [List.cons.injEq, true_and] at hvalue
  have hquote : ∀ s : List Char, ∀ c ∈ ('"' :: s).head?, c = '"' := by
    rintro s c ⟨⟩
    rfl
  obtain ⟨rfl, htail⟩ := escaped_append_inj (by decide) (hquote x) (hquote y) hvalue
  exact ⟨rfl, (List.cons.inj htail).2⟩

/-- Attributes in order, in front of something that begins with no space. -/
theorem attributes_append_inj : ∀ {as bs : List Attribute} {x y : List Char},
    (∀ a ∈ as, isWord a.key) → (∀ b ∈ bs, isWord b.key) → x.head? ≠ some ' ' →
      y.head? ≠ some ' ' → as.flatMap Attribute.markup ++ x = bs.flatMap Attribute.markup ++ y →
        as = bs ∧ x = y
  | [], [], _, _, _, _, _, _, h => ⟨rfl, h⟩
  | [], b :: bs, x, y, _, _, hx, _, h => by
    refine absurd ?_ hx
    rw [List.flatMap_nil, List.nil_append] at h
    rw [h]
    rfl
  | a :: as, [], x, y, _, _, _, hy, h => by
    refine absurd ?_ hy
    rw [List.flatMap_nil, List.nil_append] at h
    rw [← h]
    rfl
  | a :: as, b :: bs, x, y, ha, hb, hx, hy, h => by
    rw [List.flatMap_cons, List.flatMap_cons, List.append_assoc, List.append_assoc] at h
    obtain ⟨rfl, hrest⟩ := Attribute.markup_append_inj (ha a List.mem_cons_self)
      (hb b List.mem_cons_self) h
    obtain ⟨rfl, htail⟩ := attributes_append_inj (fun c hc => ha c (List.mem_cons_of_mem _ hc))
      (fun c hc => hb c (List.mem_cons_of_mem _ hc)) hx hy hrest
    exact ⟨rfl, htail⟩

/-- The end of a start tag: a slash or a bracket. -/
def EndsTag (x : List Char) : Prop :=
  x.head? = some '/' ∨ x.head? = some '>'

theorem EndsTag.head?_ne {x : List Char} (h : EndsTag x) : x.head? ≠ some ' ' := by
  rcases h with h | h <;> simp [h]

theorem EndsTag.not_isWordChar {x : List Char} (h : EndsTag x) (as : List Attribute) :
    ∀ c ∈ (as.flatMap Attribute.markup ++ x).head?, ¬ isWordChar c := by
  cases as with
  | nil =>
    rw [List.flatMap_nil, List.nil_append]
    rcases h with h | h <;> rw [h] <;> rintro c ⟨⟩ <;> decide
  | cons a as =>
    rintro c ⟨⟩
    decide

theorem Element.startMarkup_append_inj {e e' : Element} (he : e.Regular) (he' : e'.Regular)
    {x y : List Char} (hx : EndsTag x) (hy : EndsTag y)
    (h : e.startMarkup ++ x = e'.startMarkup ++ y) : e = e' ∧ x = y := by
  simp only [startMarkup, List.cons_append, List.append_assoc, List.cons.injEq, true_and] at h
  obtain ⟨hname, h⟩ := word_append_inj (isWordChar_of_isName he.name)
    (isWordChar_of_isName he'.name) (hx.not_isWordChar _) (hy.not_isWordChar _) h
  obtain ⟨hattributes, h⟩ := attributes_append_inj he.keys he'.keys hx.head?_ne hy.head?_ne h
  exact ⟨by rw [he.named, he'.named, hname, hattributes], h⟩

/-! ## Declarations and comments -/

/-- An identifier stands in quotes of a kind that it does not hold. -/
theorem exists_quote {id : String} (h : Quotable id) :
    ∃ q, q ∉ id.toList ∧ (quotedId id).toList = q :: id.toList ++ [q] := by
  by_cases hq : '"' ∈ id.toList
  · refine ⟨'\'', fun hm => h ⟨hq, hm⟩, ?_⟩
    simp [quotedId, hq]
  · refine ⟨'"', hq, ?_⟩
    simp [quotedId, hq]

theorem quotedId_append_inj {a b : String} (ha : Quotable a) (hb : Quotable b) {x y : List Char}
    (h : (quotedId a).toList ++ x = (quotedId b).toList ++ y) : a = b ∧ x = y := by
  obtain ⟨q, hqa, ea⟩ := exists_quote ha
  obtain ⟨r, hrb, eb⟩ := exists_quote hb
  simp only [ea, eb, List.cons_append, List.append_assoc, List.nil_append, List.cons.injEq] at h
  obtain ⟨rfl, h⟩ := h
  obtain ⟨e, h⟩ := split_unique_of_not_mem hqa hrb (by simp) (by simp) h
  exact ⟨String.toList_inj.mp e, (List.cons.inj h).2⟩

/-- An identifier that may be missing, behind a word that is missing with it, up to the end of
the declaration. -/
theorem optionalId_append_inj (word : List Char) {a b : String} (ha : Quotable a)
    (hb : Quotable b) {x y : List Char}
    (h : (if a ≠ "" then ' ' :: word ++ (quotedId a).toList else []) ++ '>' :: x =
      (if b ≠ "" then ' ' :: word ++ (quotedId b).toList else []) ++ '>' :: y) :
    a = b ∧ x = y := by
  by_cases hae : a = "" <;> by_cases hbe : b = ""
  · simp only [hae, hbe, ne_eq, not_true_eq_false, if_false, List.nil_append, List.cons.injEq,
      true_and] at h
    exact ⟨hae.trans hbe.symm, h⟩
  · simp [hae, hbe] at h
  · simp [hae, hbe] at h
  · simp only [hae, hbe, ne_eq, not_false_eq_true, if_true, List.cons_append, List.append_assoc,
      List.cons.injEq, true_and, List.append_cancel_left_eq] at h
    obtain ⟨rfl, htail⟩ := quotedId_append_inj ha hb h
    exact ⟨rfl, (List.cons.inj htail).2⟩

theorem Doctype.idMarkup_append_inj {d d' : Doctype} (hd : d.Regular) (hd' : d'.Regular)
    {x y : List Char} (h : d.idMarkup ++ '>' :: x = d'.idMarkup ++ '>' :: y) :
    d.publicId = d'.publicId ∧ d.systemId = d'.systemId ∧ x = y := by
  rw [idMarkup, idMarkup] at h
  by_cases hp : d.publicId = "" <;> by_cases hp' : d'.publicId = ""
  · rw [if_neg (not_not.mpr hp), if_neg (not_not.mpr hp')] at h
    obtain ⟨hs, htail⟩ := optionalId_append_inj _ hd.systemId hd'.systemId h
    exact ⟨hp.trans hp'.symm, hs, htail⟩
  · by_cases hs : d.systemId = "" <;> simp [hp, hp', hs] at h
  · by_cases hs : d'.systemId = "" <;> simp [hp, hp', hs] at h
  · rw [if_pos hp, if_pos hp'] at h
    simp only [List.cons_append, List.append_assoc, List.cons.injEq, true_and,
      List.append_cancel_left_eq] at h
    obtain ⟨hpublic, hrest⟩ := quotedId_append_inj hd.publicId hd'.publicId h
    obtain ⟨hs, htail⟩ := optionalId_append_inj [] hd.systemId hd'.systemId hrest
    exact ⟨hpublic, hs, htail⟩

theorem Doctype.markup_append_inj {d d' : Doctype} (hd : d.Regular) (hd' : d'.Regular)
    {x y : List Char} (h : d.markup ++ x = d'.markup ++ y) : d = d' ∧ x = y := by
  have hstop : ∀ (d : Doctype) (s : List Char), ∀ c ∈ (d.idMarkup ++ '>' :: s).head?,
      ¬ c.isLower := by
    intro d s c hc
    rw [idMarkup] at hc
    by_cases hp : d.publicId = "" <;> by_cases hs : d.systemId = "" <;>
      simp [hp, hs] at hc <;> subst hc <;> decide
  simp only [markup, List.cons_append, List.append_assoc, List.nil_append, List.cons.injEq,
    true_and, List.append_cancel_left_eq] at h
  obtain ⟨hname, hids⟩ := split_unique Char.isLower hd.name hd'.name (hstop d x) (hstop d' y) h
  obtain ⟨hp, hs, htail⟩ := Doctype.idMarkup_append_inj hd hd' hids
  refine ⟨?_, htail⟩
  cases d
  cases d'
  rw [Doctype.mk.injEq]
  exact ⟨String.toList_inj.mp hname, hp, hs⟩

theorem commentMarkup_append_inj {a b : String} (ha : ¬ ['-', '-', '>'] <:+: a.toList)
    (hb : ¬ ['-', '-', '>'] <:+: b.toList) {x y : List Char}
    (h : commentMarkup a ++ x = commentMarkup b ++ y) : a = b ∧ x = y := by
  simp only [commentMarkup, List.cons_append, List.append_assoc, List.cons.injEq, true_and,
    List.append_cancel_left_eq, String.reduceToList] at h
  obtain ⟨e, htail⟩ := comment_unique ha hb h
  exact ⟨String.toList_inj.mp e, htail⟩

end Hypertext

import Hypertext.Content

/-!
# Class names

Which names a `class` attribute holds, said of its value as a text: a name is a part of it that is
not empty, holds no blank, and is set off by blanks from what stands around it (`IsWordOf`). These
are the words that the value is cut into (`mem_words_iff`), as a blank cuts a text in two whose
words are counted apart (`words_append_blank`).

Of several `class` attributes the first one counts (`Element.HasFirst`). The main statement is
`Content.hasClass_iff`.
-/

namespace Hypertext

variable {c : Char} {s u v w word : List Char}

/-- A word of a text: a part of it that is not empty and holds no blank, between blanks or the ends
of the text. -/
structure IsWordOf (w s : List Char) : Prop where
  ne_nil : w ≠ []
  unbroken : ∀ c ∈ w, ¬ isBlank c
  setOff : ∃ u v, s = u ++ (w ++ v) ∧ (∀ c ∈ u.getLast?, isBlank c) ∧ ∀ c ∈ v.head?, isBlank c

/-! ## Words -/

theorem wordsFrom_append_blank (hc : isBlank c) (v : List Char) : ∀ u word : List Char,
    wordsFrom word (u ++ c :: v) = wordsFrom word u ++ words v
  | [], word => by
    simp only [List.nil_append, wordsFrom, if_pos hc]
    split <;> rfl
  | d :: u, word => by
    simp only [List.cons_append, wordsFrom, wordsFrom_append_blank hc v u]
    split
    · split <;> rfl
    · rfl

/-- The words in front of a blank and those behind it are counted apart. -/
theorem words_append_blank (hc : isBlank c) (u v : List Char) :
    words (u ++ c :: v) = words u ++ words v :=
  wordsFrom_append_blank hc v u []

theorem wordsFrom_of_unbroken : ∀ {w word : List Char}, (∀ c ∈ w, ¬ isBlank c) →
    wordsFrom word w = wordsFrom (w.reverse ++ word) []
  | [], _, _ => rfl
  | c :: w, word, hw => by
    obtain ⟨hc, hw⟩ := List.forall_mem_cons.mp hw
    have hread : wordsFrom word (c :: w) = wordsFrom (c :: word) w := if_neg hc
    rw [hread, wordsFrom_of_unbroken hw, List.reverse_cons, List.append_assoc,
      List.singleton_append]

/-- A text without blanks is one word. -/
theorem words_of_unbroken (hne : w ≠ []) (hw : ∀ c ∈ w, ¬ isBlank c) : words w = [w] := by
  rw [words, wordsFrom_of_unbroken hw, wordsFrom]
  simp [hne]

theorem IsWordOf.append_blank (h : IsWordOf w s) (hc : isBlank c) (x : List Char) :
    IsWordOf w (s ++ c :: x) := by
  obtain ⟨hne, hw, u, v, rfl, hu, hv⟩ := h
  refine ⟨hne, hw, u, v ++ c :: x, by simp, hu, fun d hd => ?_⟩
  cases v with
  | nil => exact Option.some.inj hd ▸ hc
  | cons b v => exact hv d hd

theorem IsWordOf.blank_append (h : IsWordOf w s) (hc : isBlank c) (x : List Char) :
    IsWordOf w (x ++ c :: s) := by
  obtain ⟨hne, hw, u, v, rfl, hu, hv⟩ := h
  refine ⟨hne, hw, x ++ [c] ++ u, v, by simp, fun d hd => ?_, hv⟩
  cases u with
  | nil =>
    rw [List.append_nil, List.getLast?_concat] at hd
    exact Option.some.inj hd ▸ hc
  | cons b u =>
    rw [List.getLast?_append, Option.or_of_isSome (List.getLast?_isSome.mpr (List.cons_ne_nil _ _))]
      at hd
    exact hu d hd

theorem isWordOf_of_mem_words (hw : w ∈ words s) : IsWordOf w s := by
  induction hn : s.length using Nat.strongRecOn generalizing s with
  | _ n ih =>
    by_cases hblank : ∃ c ∈ s, isBlank c
    · obtain ⟨c, hcs, hc⟩ := hblank
      obtain ⟨u, v, rfl⟩ := List.append_of_mem hcs
      rw [words_append_blank hc] at hw
      rw [List.length_append, List.length_cons] at hn
      rcases List.mem_append.mp hw with hw | hw
      · exact (ih u.length (by omega) hw rfl).append_blank hc v
      · exact (ih v.length (by omega) hw rfl).blank_append hc u
    · have hunbroken : ∀ c ∈ s, ¬ isBlank c := fun c hcs hc => hblank ⟨c, hcs, hc⟩
      have hne : s ≠ [] := by
        rintro rfl
        cases hw
      rw [words_of_unbroken hne hunbroken, List.mem_singleton] at hw
      subst hw
      exact ⟨hne, hunbroken, [], [], (List.append_nil w).symm, nofun, nofun⟩

/-- A text is cut into the words that stand in it. -/
theorem mem_words_iff : w ∈ words s ↔ IsWordOf w s := by
  refine ⟨isWordOf_of_mem_words, ?_⟩
  rintro ⟨hne, hw, u, v, rfl, hu, hv⟩
  have hfront : w ∈ words (w ++ v) := by
    cases v with
    | nil =>
      rw [List.append_nil, words_of_unbroken hne hw]
      exact List.mem_cons_self
    | cons c v =>
      rw [words_append_blank (hv c rfl), words_of_unbroken hne hw]
      exact List.mem_cons_self
  rcases List.eq_nil_or_concat u with rfl | ⟨u, c, rfl⟩
  · exact hfront
  · rw [List.concat_eq_append] at hu ⊢
    rw [List.append_assoc, List.singleton_append, words_append_blank (hu c List.getLast?_concat)]
    exact List.mem_append_right _ hfront

/-! ## Classes -/

/-- The first attribute with this key has this value. -/
def Element.HasFirst (e : Element) (key value : String) : Prop :=
  ∃ before after, e.attributes = before ++ ⟨key, value⟩ :: after ∧ ∀ a ∈ before, a.key ≠ key

theorem Element.attribute?_eq_some_iff {e : Element} {key value : String} :
    e.attribute? key = some value ↔ e.HasFirst key value := by
  rw [attribute?, Option.map_eq_some_iff]
  simp only [List.find?_eq_some_iff_append, beq_iff_eq, Bool.not_eq_true', beq_eq_false_iff_ne]
  constructor
  · rintro ⟨⟨_, _⟩, ⟨rfl, before, after, hattributes, hbefore⟩, rfl⟩
    exact ⟨before, after, hattributes, hbefore⟩
  · rintro ⟨before, after, hattributes, hbefore⟩
    exact ⟨⟨key, value⟩, ⟨rfl, before, after, hattributes, hbefore⟩, rfl⟩

theorem Element.HasFirst.append {e : Element} {key value : String} (h : e.HasFirst key value)
    (more : List Attribute) :
    ({ e with attributes := e.attributes ++ more } : Element).HasFirst key value := by
  obtain ⟨before, after, hattributes, hbefore⟩ := h
  refine ⟨before, after ++ more, ?_, hbefore⟩
  show e.attributes ++ more = _
  rw [hattributes, List.append_assoc, List.cons_append]

namespace Content

theorem attribute?_eq_some_iff {content : Content} {key value : String} :
    content.attribute? key = some value ↔ ∃ e, content = .element e ∧ e.HasFirst key value := by
  cases content <;> simp [attribute?, element?, Element.attribute?_eq_some_iff]

theorem hasClass_eq_true_iff {content : Content} {name : String} : content.hasClass name ↔
    ∃ value, content.attribute? "class" = some value ∧ IsWordOf name.toList value.toList := by
  rw [hasClass]
  cases content.attribute? "class" with
  | none => simp
  | some classes => simp [mem_words_iff]

/-- The classes of an element are the words in the value of its first `class` attribute, and no
attribute behind that one matters. -/
theorem hasClass_iff (content : Content) (name : String) :
    (content.hasClass name ↔ ∃ e value, content = .element e ∧ e.HasFirst "class" value ∧
      IsWordOf name.toList value.toList) ∧
    ∀ e value more, e.HasFirst "class" value →
      (element { e with attributes := e.attributes ++ more }).hasClass name =
        (element e).hasClass name := by
  constructor
  · rw [hasClass_eq_true_iff]
    simp only [attribute?_eq_some_iff]
    constructor
    · rintro ⟨value, ⟨e, rfl, hfirst⟩, hword⟩
      exact ⟨e, value, rfl, hfirst, hword⟩
    · rintro ⟨e, value, rfl, hfirst, hword⟩
      exact ⟨value, ⟨e, rfl, hfirst⟩, hword⟩
  · intro e value more hfirst
    have hvalue : (element e).attribute? "class" = some value :=
      attribute?_eq_some_iff.mpr ⟨e, rfl, hfirst⟩
    have hvalue' : (element { e with attributes := e.attributes ++ more }).attribute? "class" =
        some value := attribute?_eq_some_iff.mpr ⟨_, rfl, hfirst.append more⟩
    rw [hasClass, hasClass, hvalue, hvalue']

/-- Two `class` attributes. -/
def menu : Element :=
  ⟨none, "ul", [⟨"id", "nav"⟩, ⟨"class", "\tmenu  main\n"⟩]⟩

/-- A second `class` attribute adds nothing. -/
theorem hasClass_menu : menu.HasFirst "class" "\tmenu  main\n" ∧
    (element menu).hasClass "main" ∧
    (element { menu with attributes := menu.attributes ++ [⟨"class", "side"⟩] }).hasClass "side" =
      false := by
  have hfirst : menu.HasFirst "class" "\tmenu  main\n" :=
    ⟨[⟨"id", "nav"⟩], [], rfl, by decide⟩
  have hmain : IsWordOf "main".toList "\tmenu  main\n".toList :=
    mem_words_iff.mp (by decide +kernel)
  refine ⟨hfirst, (hasClass_iff (element menu) "main").1.mpr ⟨menu, _, rfl, hfirst, hmain⟩, ?_⟩
  rw [(hasClass_iff (element menu) "side").2 menu _ [⟨"class", "side"⟩] hfirst]
  decide +kernel

end Content

end Hypertext

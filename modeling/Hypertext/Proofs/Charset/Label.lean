import Hypertext.Proofs.Charset.Tag
import Hypertext.Proofs.Text.Bytes

/-!
# Known labels

The labels of the encodings, as documents write them. They are made of the characters that the
patterns take for labels, without an equals sign (`HasLabel.written`), so a label that was captured
asks for an encoding just if it is one of its labels in any case (`ofDeclared?_eq_some_iff`).
-/

namespace Hypertext.Charset

open Pattern

variable {c : Char} {s l : List Char} {e : Encoding}

namespace Encoding

/-- The text is a label of the encoding, in any case. -/
def HasLabel (e : Encoding) (l : List Char) : Prop :=
  ofLabel? (String.ofList (l.map Char.toLower)) = some e

instance (e : Encoding) (l : List Char) : Decidable (e.HasLabel l) :=
  inferInstanceAs (Decidable (_ = _))

theorem HasLabel.mem_labels (h : e.HasLabel l) : String.ofList (l.map Char.toLower) ∈ e.labels := by
  simpa using List.find?_some h

/-! ## The characters of labels -/

/-- What labels are made of, read off their bytes. -/
theorem bytes_labels : ∀ e ∈ all, ∀ label ∈ e.labels, label ≠ "" ∧
    label.toByteArray.data.toList.all fun b => b.toNat ≤ 0x7F ∧
      isLabelChar (Char.ofNat b.toNat) ∧ Char.ofNat b.toNat ≠ '=' := by
  decide +kernel

theorem isLabelChar_of_toLower (hc : isLabelChar c.toLower ∧ c.toLower ≠ '=') :
    isLabelChar c ∧ c ≠ '=' := by
  rcases toLower_eq_or_capital c with h | h
  · rwa [h] at hc
  · exact forall_capital (P := fun c => isLabelChar c ∧ c ≠ '=') (by decide) h

theorem HasLabel.written (h : e.HasLabel l) : l ≠ [] ∧ ∀ c ∈ l, isLabelChar c ∧ c ≠ '=' := by
  obtain ⟨hne, hbytes⟩ := bytes_labels e (List.mem_of_find?_eq_some h) _ h.mem_labels
  rw [← bytesOf_eq, List.all_iff_forall_prop] at hbytes
  have hread := toList_eq_map_bytesOf fun b hb => (hbytes b hb).1
  rw [String.toList_ofList] at hread
  refine ⟨fun hl => hne (by rw [hl]; rfl), fun c hc => isLabelChar_of_toLower ?_⟩
  obtain ⟨b, hb, hchar⟩ := List.mem_map.mp (hread ▸ List.mem_map_of_mem hc)
  exact hchar ▸ (hbytes b hb).2

theorem HasLabel.takes (h : e.HasLabel l) : label.Takes l :=
  ⟨List.length_pos_of_ne_nil h.written.1, fun c hc => (h.written.2 c hc).1⟩

/-! ## Captured labels -/

theorem not_isBlank_of_isLabelChar (hc : isLabelChar c) : ¬ isBlank c := by
  intro hblank
  simp only [isBlank, Bool.or_eq_true, beq_iff_eq] at hblank
  rcases hblank with (((rfl | rfl) | rfl) | rfl) | rfl <;> exact absurd hc (by decide)

/-- A label that was captured asks for the encoding that has it. -/
theorem ofDeclared?_eq_some_iff (hl : ∀ c ∈ l, isLabelChar c) :
    ofDeclared? l = some e ↔ e.HasLabel l := by
  have htrim : ∀ s : List Char, (∀ c ∈ s, isLabelChar c) → s.dropWhile isBlank = s :=
    fun s hs => dropWhile_append_stop (List.forall_mem_nil _) fun c hc =>
      not_isBlank_of_isLabelChar (hs c (List.mem_of_mem_head? hc))
  have htrim' := htrim l.reverse fun c hc => hl c (List.mem_reverse.mp hc)
  rw [ofDeclared?, htrim l hl, htrim', List.reverse_reverse]
  rfl

/-- What an encoding is asked for with, or UTF-8. -/
theorem getD_ofDeclared? (hl : ∀ c ∈ l, isLabelChar c) :
    (∀ e : Encoding, e.HasLabel l → (ofDeclared? l).getD .utf8 = e) ∧
    ((∀ e : Encoding, ¬ e.HasLabel l) → (ofDeclared? l).getD .utf8 = .utf8) := by
  refine ⟨fun e he => ?_, fun hnone => ?_⟩
  · rw [(ofDeclared?_eq_some_iff hl).mpr he, Option.getD_some]
  · have hdeclared : ofDeclared? l = none :=
      Option.eq_none_iff_forall_ne_some.mpr fun e he => hnone e ((ofDeclared?_eq_some_iff hl).mp he)
    rw [hdeclared, Option.getD_none]

end Encoding

/-- Without an equals sign nothing is declared. -/
theorem search?_declaration_eq_none (hs : ∀ c ∈ s, c ≠ '=') : declaration.search? s = none := by
  rw [← Option.not_isSome_iff_eq_none, isSome_search?]
  rintro ⟨before, u, after, rfl, hu⟩
  obtain ⟨word, _, rfl, -, hu⟩ := matches_append.mp hu
  obtain ⟨_, value, rfl, hsign, -⟩ := matches_append.mp hu
  obtain ⟨_, gap, rfl, hsign, -⟩ := matches_append.mp hsign
  obtain ⟨gap', sign, rfl, -, hsign⟩ := matches_append.mp hsign
  rw [eq_of_spelled (c := '=') hsign (by decide)] at hs
  exact hs '=' (by simp) rfl

theorem lastLabel_of_quoted (h : e.HasLabel lab) (s : List Char) :
    LastLabel lab ['"'] ('>' :: s) where
  label := h.takes
  ends := by
    rintro c ⟨⟩
    decide
  last := search?_declaration_eq_none <| List.forall_mem_append.mpr
    ⟨fun c hc => (h.written.2 c hc).2, List.forall_mem_singleton.mpr (by decide)⟩
  within := List.forall_mem_singleton.mpr (by decide)
  stop := by
    rintro c ⟨⟩
    rfl

end Hypertext.Charset

import Hypertext.Proofs.Text.Delimiter
import Hypertext.Reference.Text

/-!
# Escaped text

Text with its special characters as references. No written form of a character begins another
one (`written_append_inj`), so a text is determined by what is written of it
(`escaped_injective`). None of the characters that delimit markup is left in it
(`not_mem_escaped`): an escaped text reaches up to the next tag, and an escaped attribute value
up to the next quote.
-/

namespace Hypertext

/-- A text with its special characters as references. -/
def escaped (s : String) : List Char :=
  s.toList.flatMap Reference.written

theorem toList_escape (s : String) : (Reference.escape s).toList = escaped s :=
  String.toList_ofList

namespace Reference

/-- The written form of a character can be told from what follows it. -/
theorem written_append_inj {c d : Char} {x y : List Char} (h : written c ++ x = written d ++ y) :
    c = d ∧ x = y := by
  unfold written at h
  split at h <;> split at h <;> grind

theorem written_ne_nil (c : Char) : written c ≠ [] := by
  unfold written
  split <;> exact List.cons_ne_nil _ _

theorem flatMap_written_injective : ∀ {cs ds : List Char},
    cs.flatMap written = ds.flatMap written → cs = ds
  | [], [], _ => rfl
  | [], d :: ds, h => by
    rw [List.flatMap_nil, List.flatMap_cons, eq_comm, List.append_eq_nil_iff] at h
    exact absurd h.1 (written_ne_nil d)
  | c :: cs, [], h => by
    rw [List.flatMap_nil, List.flatMap_cons, List.append_eq_nil_iff] at h
    exact absurd h.1 (written_ne_nil c)
  | c :: cs, d :: ds, h => by
    rw [List.flatMap_cons, List.flatMap_cons] at h
    obtain ⟨rfl, e⟩ := written_append_inj h
    rw [flatMap_written_injective e]

theorem not_mem_written {d : Char} (hd : d ∈ ['<', '>', '"', '\'', '\r']) (c : Char) :
    d ∉ written c := by
  simp only [List.mem_cons, List.not_mem_nil, or_false] at hd
  unfold written
  split <;> rcases hd with rfl | rfl | rfl | rfl | rfl <;> simp_all [eq_comm]

end Reference

theorem escaped_injective {a b : String} (h : escaped a = escaped b) : a = b :=
  String.toList_inj.mp (Reference.flatMap_written_injective h)

theorem not_mem_escaped {d : Char} (hd : d ∈ ['<', '>', '"', '\'', '\r']) (s : String) :
    d ∉ escaped s := by
  rw [escaped, List.mem_flatMap]
  rintro ⟨c, -, hc⟩
  exact Reference.not_mem_written hd c hc

/-- An escaped text in front of a delimiter, or at the end. -/
theorem escaped_append_inj {a b : String} {d : Char} (hd : d ∈ ['<', '>', '"', '\'', '\r'])
    {x y : List Char} (hx : ∀ c ∈ x.head?, c = d) (hy : ∀ c ∈ y.head?, c = d)
    (h : escaped a ++ x = escaped b ++ y) : a = b ∧ x = y := by
  obtain ⟨e, h⟩ :=
    split_unique_of_not_mem (not_mem_escaped hd a) (not_mem_escaped hd b) hx hy h
  exact ⟨escaped_injective e, h⟩

theorem escaped_eq_nil {s : String} : escaped s = [] ↔ s = "" := by
  rw [escaped, List.flatMap_eq_nil_iff]
  refine ⟨fun h => ?_, fun h => by rw [h]; simp⟩
  rw [← String.toList_eq_nil_iff, List.eq_nil_iff_forall_not_mem]
  exact fun c hc => Reference.written_ne_nil c (h c hc)

/-- A newline is written as it stands, and nothing else begins with one. -/
theorem head?_escaped_eq_newline (s : String) :
    (escaped s).head? = some '\n' ↔ s.toList.head? = some '\n' := by
  rw [escaped]
  cases s.toList with
  | nil => rfl
  | cons c rest =>
    rw [List.flatMap_cons]
    unfold Reference.written
    split <;> simp

end Hypertext

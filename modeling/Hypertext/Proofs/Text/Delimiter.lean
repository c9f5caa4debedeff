import Mathlib.Data.List.Infix

/-!
# Delimiters

Where a part of a text ends. A part whose characters all have a property ends at the first
character that has not (`split_unique`); a comment ends at the first `-->` (`comment_unique`).
Two texts with such parts in front are equal only if the parts are, and what comes after them.
-/

namespace Hypertext

theorem takeWhile_append_stop {p : Char → Bool} {a x : List Char} (ha : ∀ c ∈ a, p c)
    (hx : ∀ c ∈ x.head?, ¬ p c) : (a ++ x).takeWhile p = a := by
  rw [List.takeWhile_append_of_pos ha]
  cases x with
  | nil => rw [List.takeWhile_nil, List.append_nil]
  | cons c rest =>
    rw [List.takeWhile_cons_of_neg (hx c rfl), List.append_nil]

theorem dropWhile_append_stop {p : Char → Bool} {a x : List Char} (ha : ∀ c ∈ a, p c)
    (hx : ∀ c ∈ x.head?, ¬ p c) : (a ++ x).dropWhile p = x := by
  rw [List.dropWhile_append_of_pos ha]
  cases x with
  | nil => rfl
  | cons c rest => exact List.dropWhile_cons_of_neg (hx c rfl)

/-- The characters with a property do not go on in a text that begins with none of them. -/
theorem takeWhile_append_of_stop {p : Char → Bool} {x : List Char} (hx : ∀ c ∈ x.head?, ¬ p c) :
    ∀ a : List Char, (a ++ x).takeWhile p = a.takeWhile p
  | [] => takeWhile_append_stop (List.forall_mem_nil _) hx
  | c :: a => by
    rw [List.cons_append]
    by_cases hc : p c
    · rw [List.takeWhile_cons_of_pos hc, List.takeWhile_cons_of_pos hc,
        takeWhile_append_of_stop hx a]
    · rw [List.takeWhile_cons_of_neg hc, List.takeWhile_cons_of_neg hc]

theorem dropWhile_append_of_stop {p : Char → Bool} {x : List Char} (hx : ∀ c ∈ x.head?, ¬ p c) :
    ∀ a : List Char, (a ++ x).dropWhile p = a.dropWhile p ++ x
  | [] => dropWhile_append_stop (List.forall_mem_nil _) hx
  | c :: a => by
    rw [List.cons_append]
    by_cases hc : p c
    · rw [List.dropWhile_cons_of_pos hc, List.dropWhile_cons_of_pos hc,
        dropWhile_append_of_stop hx a]
    · rw [List.dropWhile_cons_of_neg hc, List.dropWhile_cons_of_neg hc, List.cons_append]

/-- A text is cut where the characters with a property end that it begins with. -/
theorem exists_run (p : Char → Bool) : ∀ s : List Char,
    ∃ run x, s = run ++ x ∧ (∀ c ∈ run, p c) ∧ ∀ c ∈ x.head?, ¬ p c
  | [] => ⟨[], [], rfl, List.forall_mem_nil _, nofun⟩
  | c :: s => by
    by_cases hc : p c
    · obtain ⟨run, x, rfl, hrun, hx⟩ := exists_run p s
      exact ⟨c :: run, x, rfl, List.forall_mem_cons.mpr ⟨hc, hrun⟩, hx⟩
    · refine ⟨[], c :: s, rfl, List.forall_mem_nil _, ?_⟩
      rintro d ⟨⟩
      exact hc

/-- The characters with a property in front of a text that begins with none of them. -/
theorem split_unique (p : Char → Bool) {a b x y : List Char} (ha : ∀ c ∈ a, p c)
    (hb : ∀ c ∈ b, p c) (hx : ∀ c ∈ x.head?, ¬ p c) (hy : ∀ c ∈ y.head?, ¬ p c)
    (h : a ++ x = b ++ y) : a = b ∧ x = y := by
  have e : a = b := by rw [← takeWhile_append_stop ha hx, h, takeWhile_append_stop hb hy]
  subst e
  exact ⟨rfl, List.append_cancel_left h⟩

/-- The characters in front of a text that is empty or begins with a character that is not among
them. -/
theorem split_unique_of_not_mem {q : Char} {a b x y : List Char} (ha : q ∉ a) (hb : q ∉ b)
    (hx : ∀ c ∈ x.head?, c = q) (hy : ∀ c ∈ y.head?, c = q) (h : a ++ x = b ++ y) :
    a = b ∧ x = y := by
  have hp : ∀ {s : List Char}, q ∉ s → ∀ c ∈ s, (c != q) = true := fun hs c hc =>
    bne_iff_ne.mpr fun e => hs (e ▸ hc)
  have hq : ∀ {s : List Char}, (∀ c ∈ s.head?, c = q) → ∀ c ∈ s.head?, ¬ (c != q) = true :=
    fun hs c hc => by rw [hs c hc, bne_self_eq_false]; exact Bool.false_ne_true
  exact split_unique (· != q) (hp ha) (hp hb) (hq hx) (hq hy) h

/-- What does not hold a delimiter does not go beyond the place where the delimiter stands. -/
theorem prefix_of_append_eq {α : Type} {q : α} {a b x y : List α} (hb : ∀ c ∈ b, c ≠ q)
    (hx : ∀ c ∈ x.head?, c = q) (h : a ++ x = b ++ y) : b <+: a := by
  rcases List.append_eq_append_iff.mp h with ⟨t, rfl, rfl⟩ | ⟨t, rfl, -⟩
  · cases t with
    | nil => rw [List.append_nil]
    | cons c t => exact absurd (hx c rfl) (hb c (by simp))
  · exact List.prefix_append b t

/-- The end of a comment is not found before its end, not even partly. -/
theorem eq_nil_of_commentEnd {s x y : List Char} (hs : ¬ ['-', '-', '>'] <:+: s)
    (h : '-' :: '-' :: '>' :: x = s ++ '-' :: '-' :: '>' :: y) : s = [] := by
  match s, hs, h with
  | [], _, _ => rfl
  | [_], _, h => simp at h
  | [_, _], _, h => simp at h
  | _ :: _ :: _ :: rest, hs, h =>
    simp only [List.cons_append, List.cons.injEq] at h
    obtain ⟨rfl, rfl, rfl, -⟩ := h
    exact absurd ⟨[], rest, rfl⟩ hs

theorem comment_unique {a b x y : List Char} (ha : ¬ ['-', '-', '>'] <:+: a)
    (hb : ¬ ['-', '-', '>'] <:+: b)
    (h : a ++ '-' :: '-' :: '>' :: x = b ++ '-' :: '-' :: '>' :: y) : a = b ∧ x = y := by
  rcases List.append_eq_append_iff.mp h with ⟨s, rfl, e⟩ | ⟨s, rfl, e⟩
  · obtain rfl := eq_nil_of_commentEnd (fun hi => hb (hi.trans (List.suffix_append a s).isInfix)) e
    exact ⟨(List.append_nil a).symm, by simpa using e⟩
  · obtain rfl := eq_nil_of_commentEnd (fun hi => ha (hi.trans (List.suffix_append b s).isInfix)) e
    exact ⟨List.append_nil b, by simpa using e.symm⟩

end Hypertext

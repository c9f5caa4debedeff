import Hypertext.Proofs.Reference.Escape

/-!
# Resolved text

Reading references, one at a time. A round of the reader takes one plain character, one
reference, or an ampersand that begins none, and goes on with the rest; the fuel never matters
(`resolve_cons`, `resolve_reference`, `resolve_ampersand`).

The reference that is written for a character is read as that character and leaves what comes
after it (`reference?_of_isEscaped`), so text comes back from its written form as it was
(`unescape_escape`).
-/

namespace Hypertext.Reference

variable {table : List Char → Option Expansion} {s rest chars : List Char}

/-! ## What a reference leaves -/

theorem digitsOf?_suffix {base : Nat} {n : Numeric} (h : digitsOf? base s = some n) :
    n.rest <:+ s := by
  have hdrop := List.dropWhile_suffix (l := s) fun c => (digit? base c).isSome
  simp only [digitsOf?] at h
  split at h
  · cases h
  · split at h
    · next hs =>
      rw [hs] at hdrop
      cases h
      exact (List.suffix_cons _ _).trans hdrop
    · cases h
      exact hdrop

theorem numeric?_suffix {n : Numeric} (h : numeric? s = some n) : n.rest <:+ s := by
  unfold numeric? at h
  split at h
  · exact (digitsOf?_suffix h).trans (List.suffix_cons _ _)
  · exact (digitsOf?_suffix h).trans (List.suffix_cons _ _)
  · exact digitsOf?_suffix h

/-- What comes after a reference is the end of the text that it was read from. -/
theorem reference?_suffix (h : reference? table s = some (chars, rest)) : rest <:+ s := by
  unfold reference? at h
  split at h
  · obtain ⟨n, hn, e⟩ := Option.map_eq_some_iff.mp h
    obtain ⟨-, rfl⟩ := Prod.mk.inj e
    exact (numeric?_suffix hn).trans (List.suffix_cons _ _)
  · obtain ⟨⟨e, n⟩, -, he⟩ := Option.map_eq_some_iff.mp h
    obtain ⟨-, rfl⟩ := Prod.mk.inj he
    exact List.drop_suffix n _

/-! ## Reading, round by round -/

/-- What has been read stands in front of what will be, and any fuel does that is not less than
the text. -/
theorem resolveOnto_eq (table : List Char → Option Expansion) : ∀ (n m : Nat) (s done : List Char),
    s.length ≤ n → s.length ≤ m →
      resolveOnto table n s done = done.reverse ++ resolveOnto table m s []
  | n, m, [], done, _, _ => by cases n <;> cases m <;> simp [resolveOnto]
  | n + 1, m + 1, c :: s, done, hn, hm => by
    have hsn : s.length ≤ n := Nat.le_of_succ_le_succ hn
    have hsm : s.length ≤ m := Nat.le_of_succ_le_succ hm
    -- Both sides take the same round, after which both read on from nothing.
    have hround : ∀ rest chars : List Char, rest.length ≤ s.length →
        resolveOnto table n rest (chars.reverse ++ done) =
          done.reverse ++ resolveOnto table m rest (chars.reverse ++ []) := by
      intro rest chars hle
      rw [resolveOnto_eq table n m rest _ (by omega) (by omega),
        resolveOnto_eq table m m rest (chars.reverse ++ []) (by omega) (by omega)]
      simp
    simp only [resolveOnto]
    split
    · cases hr : reference? table s with
      | none => exact hround s ['&'] (Nat.le_refl _)
      | some r => exact hround r.2 r.1 (reference?_suffix hr).length_le
    · exact hround s [c] (Nat.le_refl _)

theorem resolveOnto_eq_resolve {n : Nat} {s : List Char} (hn : s.length ≤ n) (done : List Char) :
    resolveOnto table n s done = done.reverse ++ resolve table s :=
  resolveOnto_eq table n s.length s done hn (Nat.le_refl _)

@[simp] theorem resolve_nil : resolve table [] = [] := rfl

/-- A plain character stands for itself. -/
theorem resolve_cons {c : Char} (hc : c ≠ '&') (s : List Char) :
    resolve table (c :: s) = c :: resolve table s := by
  rw [resolve, List.length_cons, resolveOnto, if_neg hc,
    resolveOnto_eq_resolve (Nat.le_refl _)]
  rfl

/-- A reference stands for its characters. -/
theorem resolve_reference (h : reference? table s = some (chars, rest)) :
    resolve table ('&' :: s) = chars ++ resolve table rest := by
  rw [resolve, List.length_cons, resolveOnto, if_pos rfl, h]
  show resolveOnto table s.length rest (chars.reverse ++ []) = _
  rw [resolveOnto_eq_resolve (reference?_suffix h).length_le, List.append_nil,
    List.reverse_reverse]

/-- An ampersand that begins no reference stands for itself. -/
theorem resolve_ampersand (h : reference? table s = none) :
    resolve table ('&' :: s) = '&' :: resolve table s := by
  rw [resolve, List.length_cons, resolveOnto, if_pos rfl, h]
  show resolveOnto table s.length s ['&'] = _
  rw [resolveOnto_eq_resolve (Nat.le_refl _)]
  rfl

/-! ## The references that are written -/

/-- A whole name with its semicolon is read as such, whatever comes after it. -/
theorem named?_of_terminated {run : List Char} {e : Expansion} (hne : run ≠ [])
    (hrun : ∀ c ∈ run, isNameChar c) (ht : table (run ++ [';']) = some e) (x : List Char) :
    named? table (run ++ ';' :: x) = some (e, run.length + 1) := by
  have htake : (run ++ ';' :: x).takeWhile isNameChar = run :=
    takeWhile_append_stop hrun fun c hc => by
      obtain rfl : ';' = c := Option.some.inj hc
      decide
  have hempty : run.isEmpty = false := List.isEmpty_eq_false_iff.mpr hne
  rw [named?, htake, hempty, List.drop_left]
  simp [ht]

/-- Digits with a semicolon are read as their number, whatever comes after them. -/
theorem digitsOf?_of_terminated {base : Nat} (digits : List Char) (hne : digits ≠ [])
    (hd : ∀ c ∈ digits, (digit? base c).isSome) (hsemi : digit? base ';' = none)
    (x : List Char) : digitsOf? base (digits ++ ';' :: x) =
      some ⟨charOfNumber (number base digits), true, x⟩ := by
  have hstop : ∀ c ∈ (';' :: x).head?, ¬ (digit? base c).isSome := fun c hc => by
    obtain rfl : ';' = c := Option.some.inj hc
    rw [hsemi]
    exact Bool.false_ne_true
  simp only [digitsOf?, takeWhile_append_stop hd hstop, dropWhile_append_stop hd hstop]

/-- A reference with a name that the standard has for one character. -/
theorem reference?_of_name (run : List Char) {c : Char} (hne : run ≠ [])
    (hrun : ∀ c ∈ run, isNameChar c) (ht : standard (run ++ [';']) = some (c, none))
    (x : List Char) : reference? standard (run ++ ';' :: x) = some ([c], x) := by
  have hname := named?_of_terminated hne hrun ht x
  have hdrop : (run ++ ';' :: x).drop (run.length + 1) = x := by
    rw [← List.drop_drop, List.drop_left, List.drop_one, List.tail_cons]
  unfold reference?
  split
  · next s e =>
    -- A number sign is no character of a name.
    cases run with
    | nil => exact absurd rfl hne
    | cons d run =>
      obtain rfl : d = '#' := (List.cons.inj e).1
      exact absurd (hrun '#' List.mem_cons_self) (by decide)
  · rw [hname, Option.map_some]
    show some ([c], (run ++ ';' :: x).drop (run.length + 1)) = _
    rw [hdrop]

/-- A reference with two decimal digits. -/
theorem reference?_of_digits {a b : Char} (ha : (digit? 10 a).isSome) (hb : (digit? 10 b).isSome)
    (x : List Char) : reference? table ('#' :: a :: b :: ';' :: x) =
      some ([charOfNumber (number 10 [a, b])], x) := by
  have hx : ∀ d, (digit? 10 d).isSome → d ≠ 'x' ∧ d ≠ 'X' := by
    intro d hd
    refine ⟨?_, ?_⟩ <;> rintro rfl <;> exact absurd hd (by decide)
  have hdigits := digitsOf?_of_terminated [a, b] (List.cons_ne_nil _ _)
    (by simp [ha, hb]) (by decide : digit? 10 ';' = none) x
  have hn : numeric? (a :: b :: ';' :: x) = digitsOf? 10 ([a, b] ++ ';' :: x) := by
    unfold numeric?
    split
    · next e => exact absurd (List.cons.inj e).1 (hx a ha).1
    · next e => exact absurd (List.cons.inj e).1 (hx a ha).2
    · rfl
  rw [reference?, hn, hdigits]
  rfl

/-- What is written for a character that is not written as it stands is a reference to it. -/
theorem reference?_of_isEscaped {c : Char} (hc : isEscaped c) (x : List Char) :
    ∃ body, written c = '&' :: body ∧ reference? standard (body ++ x) = some ([c], x) := by
  simp only [isEscaped, Bool.or_eq_true, beq_iff_eq] at hc
  rcases hc with ((((rfl | rfl) | rfl) | rfl) | rfl) | rfl
  · exact ⟨_, rfl, reference?_of_name ['a', 'm', 'p'] (by decide)
      (List.all_eq_true.mp (by decide)) (by decide +kernel) x⟩
  · exact ⟨_, rfl, reference?_of_digits (a := '3') (b := '9') (by decide) (by decide) x⟩
  · exact ⟨_, rfl, reference?_of_name ['l', 't'] (by decide)
      (List.all_eq_true.mp (by decide)) (by decide +kernel) x⟩
  · exact ⟨_, rfl, reference?_of_name ['g', 't'] (by decide)
      (List.all_eq_true.mp (by decide)) (by decide +kernel) x⟩
  · exact ⟨_, rfl, reference?_of_digits (a := '3') (b := '4') (by decide) (by decide) x⟩
  · exact ⟨_, rfl, reference?_of_digits (a := '1') (b := '3') (by decide) (by decide) x⟩

/-- A character that is not written as a reference is written as it stands. -/
theorem written_of_not_isEscaped {c : Char} (hc : ¬ isEscaped c) :
    written c = [c] ∧ c ≠ '&' := by
  simp only [isEscaped, Bool.or_eq_true, beq_iff_eq, not_or] at hc
  obtain ⟨⟨⟨⟨⟨hamp, -⟩, -⟩, -⟩, -⟩, -⟩ := id hc
  refine ⟨?_, hamp⟩
  unfold written
  split <;> simp_all

/-- The written form of a character is read as that character, whatever comes after it. -/
theorem resolve_written (c : Char) (x : List Char) :
    resolve standard (written c ++ x) = c :: resolve standard x := by
  by_cases hc : isEscaped c
  · obtain ⟨body, hw, hr⟩ := reference?_of_isEscaped hc x
    rw [hw, List.cons_append, resolve_reference hr]
    rfl
  · obtain ⟨hw, hamp⟩ := written_of_not_isEscaped hc
    rw [hw, List.singleton_append, resolve_cons hamp]

theorem resolve_flatMap_written : ∀ cs : List Char, resolve standard (cs.flatMap written) = cs
  | [] => rfl
  | c :: cs => by rw [List.flatMap_cons, resolve_written, resolve_flatMap_written cs]

/-- Text comes back from its written form as it was. -/
theorem unescape_escape (s : String) : unescape (escape s) = s := by
  have h : (escape s).toList = s.toList.flatMap written := toList_escape s
  rw [unescape, h, resolve_flatMap_written, String.ofList_toList]

end Hypertext.Reference

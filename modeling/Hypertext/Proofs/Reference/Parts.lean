import Hypertext.Proofs.Reference.LongestName
import Hypertext.Proofs.Reference.Numeral

/-!
# Reading a text in parts

A reference goes on through letters and digits, a number sign in front of these and a semicolon
behind them. Where a text continues with any other character (`Apart`), the reference has ended, and
what follows has no part in any decision about it: where its digits end, which name is looked up
first, and which short beginning of that name counts instead (`reference?_apart`).

So a text can be cut in front of such a character and its parts be read one by one
(`unescape_append`).
-/

namespace Hypertext.Reference

variable {table : List Char → Option Expansion} {s x : List Char} {e : Expansion} {base n : Nat}

/-- The text continues no reference in front of it: it is empty, or begins with a character that no
reference has behind its ampersand. -/
def Apart (x : List Char) : Prop :=
  ∀ c ∈ x.head?, ¬ c.isAlphanum ∧ c ≠ '#' ∧ c ≠ ';'

theorem Apart.stop (hx : Apart x) {p : Char → Bool} (hp : ∀ c, p c → c.isAlphanum) :
    ∀ c ∈ x.head?, ¬ p c :=
  fun c hc h => (hx c hc).1 (hp c h)

/-! ## Numbers -/

theorem isAlphanum_digitChar :
    ∀ n < 16, n.digitChar.isAlphanum ∧ n.digitChar.toUpper.isAlphanum := by
  decide

theorem isAlphanum_of_digit? {c : Char} (h : (digit? base c).isSome) : c.isAlphanum := by
  obtain ⟨n, hn⟩ := Option.isSome_iff_exists.mp h
  obtain ⟨hlt, hc⟩ := of_hexDigit?_eq_some (Option.filter_eq_some_iff.mp hn).1
  rcases hc with rfl | rfl
  · exact (isAlphanum_digitChar n hlt).1
  · exact (isAlphanum_digitChar n hlt).2

theorem digitsOf?_apart (hx : Apart x) (base : Nat) (s : List Char) :
    digitsOf? base (s ++ x) = (digitsOf? base s).map fun n => { n with rest := n.rest ++ x } := by
  have hstop : ∀ c ∈ x.head?, ¬ (digit? base c).isSome := hx.stop fun _ => isAlphanum_of_digit?
  simp only [digitsOf?, takeWhile_append_of_stop hstop, dropWhile_append_of_stop hstop]
  cases s.takeWhile fun c => (digit? base c).isSome with
  | nil => rfl
  | cons d digits =>
    cases s.dropWhile fun c => (digit? base c).isSome with
    | nil =>
      cases x with
      | nil => rfl
      | cons c x =>
        have hc : c ≠ ';' := (hx c rfl).2.2
        simp [hc]
    | cons c rest =>
      by_cases hc : c = ';'
      · subst hc
        rfl
      · simp [hc]

theorem numeric?_eq (s : List Char) : numeric? s =
    if s.head? = some 'x' ∨ s.head? = some 'X' then digitsOf? 16 s.tail else digitsOf? 10 s := by
  unfold numeric?
  split
  · rfl
  · rfl
  · next hsmall hcapital =>
    cases s with
    | nil => rfl
    | cons c s =>
      have hne : ¬ (c = 'x' ∨ c = 'X') :=
        not_or.mpr ⟨fun e => hsmall s (e ▸ rfl), fun e => hcapital s (e ▸ rfl)⟩
      simp [hne]

theorem numeric?_apart (hx : Apart x) (s : List Char) :
    numeric? (s ++ x) = (numeric? s).map fun n => { n with rest := n.rest ++ x } := by
  rw [numeric?_eq, numeric?_eq]
  cases s with
  | nil =>
    have hne : ¬ (x.head? = some 'x' ∨ x.head? = some 'X') :=
      not_or.mpr ⟨fun h => (hx 'x' h).1 (by decide), fun h => (hx 'X' h).1 (by decide)⟩
    rw [List.nil_append, if_neg hne]
    exact digitsOf?_apart hx 10 []
  | cons c s =>
    rw [List.cons_append, List.head?_cons, List.head?_cons, List.tail_cons, List.tail_cons]
    split
    · exact digitsOf?_apart hx 16 s
    · exact digitsOf?_apart hx 10 (c :: s)

/-! ## Names -/

theorem takeWhile_isNameChar_apart (hx : Apart x) (s : List Char) :
    (s ++ x).takeWhile isNameChar = s.takeWhile isNameChar :=
  takeWhile_append_of_stop (hx.stop fun _ hc => hc) s

/-- The name that is looked up does not go on. -/
theorem wholeName_apart (hx : Apart x) (s : List Char) : wholeName (s ++ x) = wholeName s := by
  have hle : (s.takeWhile isNameChar).length ≤ s.length := (List.takeWhile_sublist _).length_le
  rw [wholeName, wholeName, takeWhile_isNameChar_apart hx, List.drop_append_of_le_length hle]
  cases s.drop (s.takeWhile isNameChar).length with
  | cons c rest => rfl
  | nil =>
    cases x with
    | nil => rfl
    | cons c rest =>
      have hc : (c == ';') = false := beq_eq_false_iff_ne.mpr (hx c rfl).2.2
      simp [hc]

theorem named?_apart (hx : Apart x) (s : List Char) : named? table (s ++ x) = named? table s := by
  rw [named?_eq, named?_eq, wholeName_apart hx, takeWhile_isNameChar_apart hx]

theorem named?_le (h : named? table s = some (e, n)) : n ≤ s.length := by
  have hwhole := (wholeName_begins s).length_le
  rw [named?_eq] at h
  split at h
  · cases h
  split at h
  · cases h
    exact hwhole
  · have hn := (longestBelow_some h).1
    omega

/-! ## References -/

/-- What follows decides nothing about a reference, and is left. -/
theorem reference?_apart (hx : Apart x) (s : List Char) : reference? table (s ++ x) =
    (reference? table s).map fun (chars, rest) => (chars, rest ++ x) := by
  by_cases hs : s.head? = some '#'
  · obtain ⟨rest, rfl⟩ := List.head?_eq_some_iff.mp hs
    rw [List.cons_append, reference?, reference?, numeric?_apart hx]
    cases numeric? rest <;> rfl
  · have happend : (s ++ x).head? ≠ some '#' := by
      cases s with
      | nil => exact fun h => (hx '#' h).2.1 rfl
      | cons c rest => exact hs
    rw [reference?_eq_map_named? hs, reference?_eq_map_named? happend, named?_apart hx]
    cases h : named? table s with
    | none => rfl
    | some found => simp [List.drop_append_of_le_length (named?_le h)]

/-- The references of a text are read without what follows it. -/
theorem resolve_apart (hx : Apart x) (s : List Char) :
    resolve table (s ++ x) = resolve table s ++ resolve table x := by
  induction hn : s.length using Nat.strongRecOn generalizing s with
  | _ n ih =>
    cases s with
    | nil => rfl
    | cons c s =>
      rw [List.cons_append]
      by_cases hc : c = '&'
      · subst hc
        have happend : reference? table (s ++ x) =
            (reference? table s).map fun (chars, rest) => (chars, rest ++ x) :=
          reference?_apart hx s
        cases hread : reference? table s with
        | none =>
          rw [hread] at happend
          rw [resolve_ampersand hread, resolve_ampersand happend, ih s.length (by simp [← hn]) s
            rfl, List.cons_append]
        | some found =>
          obtain ⟨chars, rest⟩ := found
          rw [hread] at happend
          have hle : rest.length < n := by
            rw [← hn, List.length_cons]
            exact Nat.lt_succ_of_le (reference?_suffix hread).length_le
          rw [resolve_reference hread, resolve_reference happend, ih rest.length hle rest rfl,
            List.append_assoc]
      · rw [resolve_cons hc, resolve_cons hc, ih s.length (by simp [← hn]) s rfl, List.cons_append]

/-- A text is read in parts: up to a character that continues no reference, and from there. -/
theorem unescape_append (a b : String)
    (hb : ∀ c ∈ b.toList.head?, ¬ c.isAlphanum ∧ c ≠ '#' ∧ c ≠ ';') :
    unescape (a ++ b) = unescape a ++ unescape b := by
  rw [unescape, unescape, unescape, String.toList_append, resolve_apart hb, String.ofList_append]

/-- The name that ends the first part is read as `not` and an `i`, and the `t` behind it comes from
another reference. -/
theorem unescape_append_noti :
    (∀ c ∈ "&#116;".toList.head?, ¬ c.isAlphanum ∧ c ≠ '#' ∧ c ≠ ';') ∧
    unescape ("&noti" ++ "&#116;") = "¬it" := by
  have hb : ∀ c ∈ "&#116;".toList.head?, ¬ c.isAlphanum ∧ c ≠ '#' ∧ c ≠ ';' := by
    rintro c ⟨⟩
    decide
  have hparts : unescape "&noti" ++ unescape "&#116;" = "¬it" := by decide +kernel
  exact ⟨hb, (unescape_append "&noti" "&#116;" hb).trans hparts⟩

end Hypertext.Reference

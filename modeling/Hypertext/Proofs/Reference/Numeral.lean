import Hypertext.Charset.Decoder
import Hypertext.Proofs.Reference.Resolve
import Hypertext.Proofs.Text.Bytes
import Mathlib.Data.List.Forall2
import Mathlib.Data.Nat.Digits.Defs

/-!
# Numeric references by their value

The value of the digits in a numeric reference decides what it refers to (`RefersTo`), however many
digits there are. It is read into 32 bits. A number that does not fit is not cut off but counts as
the largest one that does (`number_eq_min`), and this is as little a character as the number itself
(`charOfNumber_min`). Zeros in front do not count.

`reference?_numeral` is the main statement: digits in either base, with whatever comes after them.
-/

namespace Hypertext.Reference

open Charset (Encoding)

variable {base n v : Nat} {c : Char} {mark digits rest : List Char} {values : List Nat}
  {table : List Char → Option Expansion}

/-! ## Digits -/

/-- The character is the digit with this value. From ten on digits are letters, in either case. -/
structure IsDigit (base : Nat) (c : Char) (n : Nat) : Prop where
  lt : n < base
  written : c = n.digitChar ∨ c = n.digitChar.toUpper

instance : Decidable (IsDigit base c n) :=
  decidable_of_iff (n < base ∧ (c = n.digitChar ∨ c = n.digitChar.toUpper))
    ⟨fun ⟨hn, hc⟩ => ⟨hn, hc⟩, fun ⟨hn, hc⟩ => ⟨hn, hc⟩⟩

theorem hexDigit?_digitChar :
    ∀ n < 16, hexDigit? n.digitChar = some n ∧ hexDigit? n.digitChar.toUpper = some n := by
  decide

theorem toNat_digitChar : (∀ n < 10, n.digitChar.toNat = n + 48) ∧
    ∀ n < 6, (n + 10).digitChar.toNat = n + 97 ∧ (n + 10).digitChar.toUpper.toNat = n + 65 := by
  decide

theorem of_hexDigit?_eq_some (h : hexDigit? c = some n) :
    n < 16 ∧ (c = n.digitChar ∨ c = n.digitChar.toUpper) := by
  have hle : ∀ a b : Char, a ≤ b ↔ a.toNat ≤ b.toNat := fun a b =>
    Char.le_def.trans UInt32.le_iff_toNat_le
  obtain ⟨hdecimal, hletter⟩ := toNat_digitChar
  unfold hexDigit? at h
  simp only [hle, Char.reduceToNat] at h
  split at h
  · next hc =>
    obtain rfl := Option.some.inj h
    refine ⟨by omega, .inl (Char.toNat_inj.mp ?_)⟩
    rw [hdecimal _ (by omega)]
    omega
  split at h
  · next hc =>
    obtain rfl := Option.some.inj h
    refine ⟨by omega, .inl (Char.toNat_inj.mp ?_)⟩
    rw [(hletter _ (by omega)).1]
    omega
  split at h
  · next hc =>
    obtain rfl := Option.some.inj h
    refine ⟨by omega, .inr (Char.toNat_inj.mp ?_)⟩
    rw [(hletter _ (by omega)).2]
    omega
  · cases h

theorem digit?_eq_some_iff (hb : base ≤ 16) : digit? base c = some n ↔ IsDigit base c n := by
  rw [digit?, Option.filter_eq_some_iff, decide_eq_true_eq]
  constructor
  · rintro ⟨hread, hn⟩
    exact ⟨hn, (of_hexDigit?_eq_some hread).2⟩
  · rintro ⟨hn, rfl | rfl⟩
    · exact ⟨(hexDigit?_digitChar n (Nat.lt_of_lt_of_le hn hb)).1, hn⟩
    · exact ⟨(hexDigit?_digitChar n (Nat.lt_of_lt_of_le hn hb)).2, hn⟩

theorem isSome_digit?_of_mem (hb : base ≤ 16)
    (hdigits : List.Forall₂ (IsDigit base) digits values) :
    ∀ c ∈ digits, (digit? base c).isSome := by
  induction hdigits with
  | nil => exact fun _ hc => absurd hc List.not_mem_nil
  | cons hc _ ih =>
    exact List.forall_mem_cons.mpr ⟨Option.isSome_of_eq_some ((digit?_eq_some_iff hb).mpr hc), ih⟩

/-! ## The number that is read -/

/-- A number does not get less by further digits. -/
theorem le_foldl_digits (hb : 0 < base) : ∀ (values : List Nat) (n : Nat),
    n ≤ values.foldl (fun n d => n * base + d) n
  | [], n => Nat.le_refl n
  | d :: values, n => by
    have hd : n ≤ n * base + d := (Nat.le_mul_of_pos_right n hb).trans (Nat.le_add_right _ _)
    exact hd.trans (le_foldl_digits hb values _)

/-- Digits make a number, unless 32 bits do not hold it. A number on the way is no larger, so it is
held as well. -/
theorem foldlM_withDigit? (hb : 0 < base) (hb' : base ≤ 16)
    (hdigits : List.Forall₂ (IsDigit base) digits values) : ∀ n ≤ largestNumber,
      digits.foldlM (withDigit? base) n =
        (some (values.foldl (fun n d => n * base + d) n)).filter (· ≤ largestNumber) := by
  induction hdigits with
  | nil =>
    intro n hn
    rw [List.foldlM_nil, List.foldl_nil, Option.filter_some, if_pos (decide_eq_true hn)]
    rfl
  | @cons c d digits values hc _ ih =>
    intro n _
    have hstep : withDigit? base n c = (some (n * base + d)).filter (· ≤ largestNumber) := by
      rw [withDigit?, (digit?_eq_some_iff hb').mpr hc, Option.getD_some]
    rw [List.foldlM_cons, hstep, List.foldl_cons]
    by_cases hm : n * base + d ≤ largestNumber
    · rw [Option.filter_some, if_pos (decide_eq_true hm)]
      exact ih _ hm
    · have hmore : ¬ values.foldl (fun n d => n * base + d) (n * base + d) ≤ largestNumber :=
        fun hle => hm ((le_foldl_digits hb values _).trans hle)
      rw [Option.filter_some, Option.filter_some, if_neg (by simpa using hm),
        if_neg (by simpa using hmore)]
      rfl

theorem ofDigits_reverse (base : Nat) (values : List Nat) :
    Nat.ofDigits base values.reverse = values.foldl (fun n d => n * base + d) 0 := by
  rw [Nat.ofDigits_eq_foldr, List.foldr_reverse]
  simp only [Nat.cast_id, Nat.mul_comm, Nat.add_comm]

/-- The number that is read is the value of the digits, or the largest one that 32 bits hold if they
do not hold the value. -/
theorem number_eq_min (hb : 0 < base) (hb' : base ≤ 16)
    (hdigits : List.Forall₂ (IsDigit base) digits values) :
    number base digits = min (Nat.ofDigits base values.reverse) largestNumber := by
  rw [number, number?, foldlM_withDigit? hb hb' hdigits 0 (Nat.zero_le _), ← ofDigits_reverse,
    Option.filter_some]
  by_cases hle : Nat.ofDigits base values.reverse ≤ largestNumber
  · rw [if_pos (decide_eq_true hle), Option.getD_some, Nat.min_eq_left hle]
  · rw [if_neg (by simpa using hle), Option.getD_none, Nat.min_eq_right (Nat.le_of_not_le hle)]

/-! ## The character that it refers to -/

/-- What a number refers to: U+FFFD in place of what is no character, what windows-1252 has in place
of a C1 control, and otherwise the character with this number. -/
structure RefersTo (v : Nat) (c : Char) : Prop where
  none : v = 0 ∨ (0xD800 ≤ v ∧ v ≤ 0xDFFF) ∨ 0x10FFFF < v → c = '\ufffd'
  control : 0x80 ≤ v → v ≤ 0x9F → Encoding.windows1252.chars [UInt8.ofNat v] = [c]
  character : v ≠ 0 → v.isValidChar → ¬ (0x80 ≤ v ∧ v ≤ 0x9F) → c.toNat = v

theorem charOfNumber_none (hv : v = 0 ∨ (0xD800 ≤ v ∧ v ≤ 0xDFFF) ∨ 0x10FFFF < v) :
    charOfNumber v = '\ufffd' := by
  rw [charOfNumber, if_pos hv]
  rfl

/-- In place of the C1 controls windows-1252 has what their numbers refer to, and behind them each
character in its own place. -/
theorem upperHalf_windows1252 : Charset.upperHalf .windows1252 =
    String.ofList ((c1Replacements ++ List.range' 0xA0 96).map Char.ofNat) := by
  have hbytes : (Charset.upperHalf .windows1252).toByteArray.data.toList =
      ((c1Replacements ++ List.range' 0xA0 96).map Char.ofNat).flatMap String.utf8EncodeChar := by
    decide +kernel
  refine bytesOf_injective ?_
  rw [bytesOf_eq, hbytes, bytesOf_eq_flatMap, String.toList_ofList]

theorem chars_windows1252 (hlow : 0x80 ≤ v) (hhigh : v < 0x100) :
    Encoding.windows1252.chars [UInt8.ofNat v] =
      [(Charset.upperHalf .windows1252).toList.getD (v - 0x80) '\ufffd'] := by
  have hbyte : (UInt8.ofNat v).toNat = v := UInt8.toNat_ofNat_of_lt' hhigh
  have hupper : ¬ UInt8.ofNat v < 0x80 := by
    rw [UInt8.lt_iff_toNat_lt, hbyte]
    exact Nat.not_lt.mpr hlow
  show Charset.decodeUnits (Charset.singleByteUnit _) _ = _
  simp [Charset.decodeUnits, Charset.decodeFrom, Charset.decodeOnto, Charset.singleByteUnit,
    hupper, hbyte]

theorem charOfNumber_control (hlow : 0x80 ≤ v) (hhigh : v ≤ 0x9F) :
    Encoding.windows1252.chars [UInt8.ofNat v] = [charOfNumber v] := by
  have hchar : ¬ (v = 0 ∨ (0xD800 ≤ v ∧ v ≤ 0xDFFF) ∨ 0x10FFFF < v) := by omega
  have hplace : v - 0x80 < c1Replacements.length := by
    rw [show c1Replacements.length = 32 from rfl]
    omega
  rw [chars_windows1252 hlow (by omega), upperHalf_windows1252, String.toList_ofList, charOfNumber,
    if_neg hchar, if_pos ⟨hlow, hhigh⟩]
  simp [List.getElem?_append_left, hplace]

theorem refersTo_charOfNumber (v : Nat) : RefersTo v (charOfNumber v) where
  none := charOfNumber_none
  control := charOfNumber_control
  character hzero hvalid hcontrol := by
    have hnone : ¬ (v = 0 ∨ (0xD800 ≤ v ∧ v ≤ 0xDFFF) ∨ 0x10FFFF < v) := by
      rcases hvalid with hv | hv <;> omega
    rw [charOfNumber, if_neg hnone, if_neg hcontrol, toNat_charOfNat hvalid]

/-- A number that 32 bits do not hold refers to the same as the largest one that they do. -/
theorem charOfNumber_min (v : Nat) : charOfNumber (min v largestNumber) = charOfNumber v := by
  rcases Nat.le_total v largestNumber with hle | hle
  · rw [Nat.min_eq_left hle]
  · have hlarge : 0x10FFFF < largestNumber := by decide
    rw [Nat.min_eq_right hle, charOfNumber_none (.inr (.inr hlarge)),
      charOfNumber_none (.inr (.inr (Nat.lt_of_lt_of_le hlarge hle)))]

/-! ## Whole references -/

/-- What announces digits in a base, behind the number sign. -/
inductive Announces : List Char → Nat → Prop where
  | decimal : Announces [] 10
  | hexadecimal : Announces ['x'] 16
  | capital : Announces ['X'] 16

/-- A text without the semicolon that it may begin with. -/
def withoutSemicolon : List Char → List Char
  | ';' :: rest => rest
  | rest => rest

theorem Announces.le (hmark : Announces mark base) : 0 < base ∧ base ≤ 16 := by
  cases hmark <;> decide

/-- Digits are read to their end, and a semicolon with them. -/
theorem digitsOf?_append (hne : digits ≠ []) (hd : ∀ c ∈ digits, (digit? base c).isSome)
    (hrest : ∀ c ∈ rest.head?, ¬ (digit? base c).isSome) :
    (digitsOf? base (digits ++ rest)).map (fun n => (n.char, n.rest)) =
      some (charOfNumber (number base digits), withoutSemicolon rest) := by
  obtain ⟨c, more, rfl⟩ := List.exists_cons_of_ne_nil hne
  simp only [digitsOf?, takeWhile_append_stop hd hrest, dropWhile_append_stop hd hrest]
  cases rest with
  | nil => rfl
  | cons d rest =>
    by_cases hsemicolon : d = ';'
    · subst hsemicolon
      rfl
    · simp [withoutSemicolon, hsemicolon]

theorem numeric?_append (hmark : Announces mark base) {x : List Char}
    (hx : ∀ c ∈ x.head?, (digit? base c).isSome) : numeric? (mark ++ x) = digitsOf? base x := by
  cases hmark with
  | hexadecimal => rfl
  | capital => rfl
  | decimal =>
    rw [List.nil_append]
    unfold numeric?
    split
    · exact absurd (hx 'x' rfl) (by decide)
    · exact absurd (hx 'X' rfl) (by decide)
    · rfl

/-- Digits in a base are read to their end, and a semicolon with them. Their value decides what
they stand for, however many they are. -/
theorem reference?_numeral (hmark : Announces mark base) (hne : digits ≠ [])
    (hdigits : List.Forall₂ (IsDigit base) digits values)
    (hrest : ∀ c ∈ rest.head?, ∀ n, ¬ IsDigit base c n)
    (table : List Char → Option Expansion) :
    ∃ c, RefersTo (Nat.ofDigits base values.reverse) c ∧
      reference? table ('#' :: (mark ++ (digits ++ rest))) = some ([c], withoutSemicolon rest) ∧
      resolve table ('&' :: '#' :: (mark ++ (digits ++ rest))) =
        c :: resolve table (withoutSemicolon rest) := by
  obtain ⟨hb, hb'⟩ := hmark.le
  have hd := isSome_digit?_of_mem hb' hdigits
  have hstop : ∀ c ∈ rest.head?, ¬ (digit? base c).isSome := by
    intro c hc hsome
    obtain ⟨n, hn⟩ := Option.isSome_iff_exists.mp hsome
    exact hrest c hc n ((digit?_eq_some_iff hb').mp hn)
  have hfirst : ∀ c ∈ (digits ++ rest).head?, (digit? base c).isSome := by
    obtain ⟨d, more, rfl⟩ := List.exists_cons_of_ne_nil hne
    rintro c ⟨⟩
    exact hd d List.mem_cons_self
  -- The number that is read is not the value where 32 bits do not hold it, but refers to the same.
  have hread := digitsOf?_append hne hd hstop
  rw [number_eq_min hb hb' hdigits, charOfNumber_min] at hread
  obtain ⟨numeric, hnumeric, hparts⟩ := Option.map_eq_some_iff.mp hread
  obtain ⟨hchar, hleft⟩ := Prod.mk.inj hparts
  have hreference : reference? table ('#' :: (mark ++ (digits ++ rest))) =
      some ([charOfNumber (Nat.ofDigits base values.reverse)], withoutSemicolon rest) := by
    rw [reference?, numeric?_append hmark hfirst, hnumeric, Option.map_some, hchar, hleft]
  exact ⟨_, refersTo_charOfNumber _, hreference, resolve_reference hreference⟩

/-- The number 4294967361 exceeds that of `A` by 2 to the power of 32. It is not cut off to `A`, and
it is read up to its semicolon. -/
theorem reference?_numeral_large : Announces [] 10 ∧
    List.Forall₂ (IsDigit 10) ['4', '2', '9', '4', '9', '6', '7', '3', '6', '1']
      [4, 2, 9, 4, 9, 6, 7, 3, 6, 1] ∧
    (∀ c ∈ [';', '1'].head?, ∀ n, ¬ IsDigit 10 c n) ∧
    reference? standard ['#', '4', '2', '9', '4', '9', '6', '7', '3', '6', '1', ';', '1'] =
      some (['\ufffd'], ['1']) := by
  have hdigits : List.Forall₂ (IsDigit 10) ['4', '2', '9', '4', '9', '6', '7', '3', '6', '1']
      [4, 2, 9, 4, 9, 6, 7, 3, 6, 1] := by
    decide
  have hrest : ∀ c ∈ [';', '1'].head?, ∀ n, ¬ IsDigit 10 c n := by
    rintro c ⟨⟩ n hn
    have hread := (digit?_eq_some_iff (by decide)).mpr hn
    rw [show digit? 10 ';' = none by decide] at hread
    cases hread
  obtain ⟨c, hc, hreference, -⟩ :=
    reference?_numeral .decimal (List.cons_ne_nil _ _) hdigits hrest standard
  obtain rfl : c = '\ufffd' := hc.none (.inr (.inr (by decide)))
  exact ⟨.decimal, hdigits, hrest, hreference⟩

end Hypertext.Reference

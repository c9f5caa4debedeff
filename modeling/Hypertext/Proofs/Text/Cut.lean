import Hypertext.Proofs.Text.Bytes

/-!
# Texts cut at byte offsets

A text can be cut at a byte offset only where a character begins or the text ends: an offset inside
of a character and one behind the end name no place (`cutAt?_eq_some_iff`). A part of a text that is
ASCII has as many bytes as characters, so that it can be cut off by the number of its characters
(`takeBytes?_of_ascii`).
-/

namespace Hypertext

variable {s u : List Char} {n : Nat}

/-- The bytes of a text. -/
def utf8 (s : List Char) : Bytes :=
  bytesOf (String.ofList s)

theorem utf8_eq_flatMap (s : List Char) : utf8 s = s.flatMap String.utf8EncodeChar := by
  rw [utf8, bytesOf_eq_flatMap, String.toList_ofList]

@[simp] theorem utf8_nil : utf8 [] = [] := by
  rw [utf8_eq_flatMap, List.flatMap_nil]

@[simp] theorem utf8_cons (c : Char) (s : List Char) :
    utf8 (c :: s) = String.utf8EncodeChar c ++ utf8 s := by
  rw [utf8_eq_flatMap, utf8_eq_flatMap, List.flatMap_cons]

@[simp] theorem utf8_append (u v : List Char) : utf8 (u ++ v) = utf8 u ++ utf8 v := by
  simp only [utf8_eq_flatMap, List.flatMap_append]

theorem length_utf8_cons (c : Char) (s : List Char) :
    (utf8 (c :: s)).length = c.utf8Size + (utf8 s).length := by
  rw [utf8_cons, List.length_append, String.length_utf8EncodeChar]

/-- The parts of a text in front of a byte offset and behind it, if the offset names a place. -/
def cutAt? : List Char → Nat → Option (List Char × List Char)
  | s, 0 => some ([], s)
  | [], _ + 1 => none
  | c :: s, n + 1 =>
    if c.utf8Size ≤ n + 1 then (cutAt? s (n + 1 - c.utf8Size)).map fun (u, v) => (c :: u, v)
    else none

theorem cutAt?_zero (s : List Char) : cutAt? s 0 = some ([], s) := by
  cases s <;> rfl

/-- The places of a text are named by the lengths of its beginnings. -/
theorem cutAt?_eq_some_iff : ∀ {s u v : List Char} {n : Nat},
    cutAt? s n = some (u, v) ↔ s = u ++ v ∧ (utf8 u).length = n
  | s, [], v, 0 => by simp [cutAt?_zero]
  | s, c :: u, v, 0 => by
    have hpos := c.utf8Size_pos
    rw [length_utf8_cons, cutAt?_zero]
    refine ⟨nofun, ?_⟩
    rintro ⟨-, hn⟩
    omega
  | [], [], v, n + 1 => by simp [cutAt?]
  | [], c :: u, v, n + 1 => by simp [cutAt?]
  | c :: s, [], v, n + 1 => by simp [cutAt?]
  | c :: s, d :: u, v, n + 1 => by
    rw [length_utf8_cons, List.cons_append, List.cons.injEq, cutAt?]
    split
    · next hle =>
      rw [Option.map_eq_some_iff]
      constructor
      · rintro ⟨⟨u', v'⟩, hcut, hparts⟩
        obtain ⟨hu, rfl⟩ := Prod.mk.inj hparts
        obtain ⟨rfl, rfl⟩ := List.cons.inj hu
        obtain ⟨hs, hn⟩ := cutAt?_eq_some_iff.mp hcut
        exact ⟨⟨rfl, hs⟩, by omega⟩
      · rintro ⟨⟨rfl, hs⟩, hn⟩
        exact ⟨(u, v), cutAt?_eq_some_iff.mpr ⟨hs, by omega⟩, rfl⟩
    · next hlt =>
      refine ⟨nofun, ?_⟩
      rintro ⟨⟨rfl, -⟩, hn⟩
      omega

/-- The text in front of a byte offset. -/
def takeBytes? (n : Nat) (s : List Char) : Option (List Char) :=
  (cutAt? s n).map Prod.fst

/-- The text behind a byte offset. -/
def dropBytes? (n : Nat) (s : List Char) : Option (List Char) :=
  (cutAt? s n).map Prod.snd

theorem takeBytes?_append (hn : (utf8 u).length = n) (v : List Char) :
    takeBytes? n (u ++ v) = some u := by
  rw [takeBytes?, cutAt?_eq_some_iff.mpr ⟨rfl, hn⟩, Option.map_some]

theorem dropBytes?_append (hn : (utf8 u).length = n) (v : List Char) :
    dropBytes? n (u ++ v) = some v := by
  rw [dropBytes?, cutAt?_eq_some_iff.mpr ⟨rfl, hn⟩, Option.map_some]

/-! ## ASCII -/

/-- The bytes of a text of ASCII are the numbers of its characters. -/
theorem utf8_of_ascii (h : ∀ c ∈ s, c.toNat ≤ 0x7F) :
    utf8 s = s.map fun c => UInt8.ofNat c.toNat := by
  induction s with
  | nil => exact utf8_nil
  | cons c s ih =>
    obtain ⟨hc, hs⟩ := List.forall_mem_cons.mp h
    rw [utf8_cons, utf8EncodeChar_of_ascii hc, ih hs]
    rfl

theorem length_utf8_of_ascii (h : ∀ c ∈ s, c.toNat ≤ 0x7F) : (utf8 s).length = s.length := by
  rw [utf8_of_ascii h, List.length_map]

theorem takeBytes?_of_ascii (h : ∀ c ∈ s, c.toNat ≤ 0x7F) (hn : n ≤ s.length) :
    takeBytes? n s = some (s.take n) := by
  have hlength : (utf8 (s.take n)).length = n := by
    rw [length_utf8_of_ascii fun c hc => h c (List.mem_of_mem_take hc), List.length_take_of_le hn]
  have hcut := takeBytes?_append hlength (s.drop n)
  rwa [List.take_append_drop] at hcut

theorem lt_of_mem_utf8_of_ascii (h : ∀ c ∈ s, c.toNat ≤ 0x7F) : ∀ b ∈ utf8 s, b < 0x80 := by
  rw [utf8_of_ascii h]
  intro b hb
  obtain ⟨c, hc, rfl⟩ := List.mem_map.mp hb
  have hlt : c.toNat < 0x80 := Nat.lt_succ_of_le (h c hc)
  rw [UInt8.lt_iff_toNat_lt, UInt8.toNat_ofNat_of_lt' (Nat.lt_trans hlt (by decide))]
  exact hlt

end Hypertext

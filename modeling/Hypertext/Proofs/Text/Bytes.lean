import Hypertext.Text.Basic

/-!
# The bytes of a text

The bytes of a text are those of its characters in order (`bytesOf_eq_flatMap`). A newline is one
byte, and no other character ends with that byte, so that the last byte of a text tells whether it
ends with a newline (`getLast?_bytesOf`). A text of ASCII can be read off its bytes
(`toList_eq_map_bytesOf`).
-/

namespace Hypertext

theorem toList_loop (bytes : ByteArray) (i : Nat) (before : Bytes) :
    ByteArray.toList.loop bytes i before = before.reverse ++ bytes.data.toList.drop i := by
  induction i, before using ByteArray.toList.loop.induct bytes with
  | case1 i before hi ih =>
    have hdata : i < bytes.data.toList.length := by rwa [Array.length_toList]
    have hget : bytes.get! i = bytes.data.toList[i] := getElem!_pos bytes.data i hi
    rw [ByteArray.toList.loop, if_pos hi, ih, List.drop_eq_getElem_cons hdata, hget,
      List.reverse_cons, List.append_assoc, List.singleton_append]
  | case2 i before hi =>
    have hdata : bytes.data.toList.length ≤ i := by
      rw [Array.length_toList]
      exact Nat.le_of_not_lt hi
    rw [ByteArray.toList.loop, if_neg hi, List.drop_eq_nil_of_le hdata, List.append_nil]

theorem bytesOf_eq (s : String) : bytesOf s = s.toByteArray.data.toList := by
  rw [bytesOf, ByteArray.toList, toList_loop]
  rfl

theorem bytesOf_append (s s' : String) : bytesOf (s ++ s') = bytesOf s ++ bytesOf s' := by
  simp only [bytesOf_eq, String.toByteArray_append, ByteArray.data_append, Array.toList_append]

theorem bytesOf_eq_flatMap (s : String) : bytesOf s = s.toList.flatMap String.utf8EncodeChar := by
  rw [bytesOf_eq, ← String.utf8Encode_toList]
  simp [List.utf8Encode]

/-- The character with a number has this number. -/
theorem toNat_charOfNat {n : Nat} (hn : n.isValidChar) : (Char.ofNat n).toNat = n := by
  rw [Char.ofNat, dif_pos hn]
  rfl

/-- The bytes of a character, by its number. -/
theorem utf8EncodeChar_ofNat {c : Char} {v : Nat} (hc : c.toNat = v) : String.utf8EncodeChar c =
    if v ≤ 0x7F then [UInt8.ofNat v]
    else if v ≤ 0x7FF then [UInt8.ofNat (v / 64 % 32 + 0xC0), UInt8.ofNat (v % 64 + 0x80)]
    else if v ≤ 0xFFFF then
      [UInt8.ofNat (v / 4096 % 16 + 0xE0), UInt8.ofNat (v / 64 % 64 + 0x80),
        UInt8.ofNat (v % 64 + 0x80)]
    else
      [UInt8.ofNat (v / 262144 % 8 + 0xF0), UInt8.ofNat (v / 4096 % 64 + 0x80),
        UInt8.ofNat (v / 64 % 64 + 0x80), UInt8.ofNat (v % 64 + 0x80)] := by
  subst hc
  rfl

/-- The bytes of a character that is not ASCII are none of ASCII either. -/
theorem le_of_mem_utf8EncodeChar {c : Char} {b : UInt8} (hc : 0x7F < c.toNat)
    (hb : b ∈ String.utf8EncodeChar c) : 0x80 ≤ b.toNat := by
  have hbyte : ∀ n, 0x80 ≤ n → n < 256 → 0x80 ≤ (UInt8.ofNat n).toNat := fun n hle hlt => by
    rwa [UInt8.toNat_ofNat_of_lt' hlt]
  rw [utf8EncodeChar_ofNat rfl, if_neg (Nat.not_le.mpr hc)] at hb
  split at hb
  · simp only [List.mem_cons, List.not_mem_nil, or_false] at hb
    rcases hb with rfl | rfl <;> exact hbyte _ (by omega) (by omega)
  split at hb
  · simp only [List.mem_cons, List.not_mem_nil, or_false] at hb
    rcases hb with rfl | rfl | rfl <;> exact hbyte _ (by omega) (by omega)
  · simp only [List.mem_cons, List.not_mem_nil, or_false] at hb
    rcases hb with rfl | rfl | rfl | rfl <;> exact hbyte _ (by omega) (by omega)

/-- A character of ASCII is one byte, which is its number. -/
theorem utf8EncodeChar_of_ascii {c : Char} (hc : c.toNat ≤ 0x7F) :
    String.utf8EncodeChar c = [UInt8.ofNat c.toNat] := by
  rw [utf8EncodeChar_ofNat rfl, if_pos hc]

/-- Only a newline ends with the byte of a newline. -/
theorem getLast?_utf8EncodeChar (c : Char) :
    (String.utf8EncodeChar c).getLast? = some 10 ↔ c = '\n' := by
  refine ⟨fun hlast => ?_, fun hc => by rw [hc]; decide⟩
  rcases Nat.lt_or_ge 0x7F c.toNat with hc | hc
  · exact absurd (le_of_mem_utf8EncodeChar hc (List.mem_of_getLast? hlast)) (by decide)
  · rw [utf8EncodeChar_of_ascii hc] at hlast
    have hv : (UInt8.ofNat c.toNat).toNat = 10 := congrArg UInt8.toNat (Option.some.inj hlast)
    rw [UInt8.toNat_ofNat_of_lt' (Nat.lt_of_le_of_lt hc (by decide))] at hv
    rw [← Char.ofNat_toNat c, hv]

/-- A text whose bytes are ASCII is read off them. -/
theorem toList_eq_map_bytesOf {s : String} (h : ∀ b ∈ bytesOf s, b.toNat ≤ 0x7F) :
    s.toList = (bytesOf s).map fun b => Char.ofNat b.toNat := by
  rw [bytesOf_eq_flatMap] at *
  generalize s.toList = cs at *
  induction cs with
  | nil => rfl
  | cons c cs ih =>
    rw [List.flatMap_cons, List.forall_mem_append] at h
    have hc : c.toNat ≤ 0x7F := by
      obtain ⟨b, hb⟩ := List.exists_mem_of_ne_nil _ (String.utf8EncodeChar_ne_nil (c := c))
      refine Nat.le_of_not_lt fun hlt => ?_
      have hle := le_of_mem_utf8EncodeChar hlt hb
      exact absurd (h.1 b hb) (Nat.not_le.mpr hle)
    rw [List.flatMap_cons, List.map_append, ← ih h.2, utf8EncodeChar_of_ascii hc, List.map_singleton,
      UInt8.toNat_ofNat_of_lt' (Nat.lt_of_le_of_lt hc (by decide)), Char.ofNat_toNat]
    rfl

/-- The last byte of a text tells whether it ends with a newline. -/
theorem getLast?_bytesOf (s : String) :
    (bytesOf s).getLast? = some 10 ↔ s.toList.getLast? = some '\n' := by
  rw [bytesOf_eq_flatMap]
  rcases List.eq_nil_or_concat s.toList with hs | ⟨text, c, hs⟩
  · rw [hs]
    exact ⟨nofun, nofun⟩
  · have hlast : (String.utf8EncodeChar c).getLast?.isSome :=
      List.getLast?_isSome.mpr String.utf8EncodeChar_ne_nil
    rw [hs, List.concat_eq_append, List.flatMap_append, List.flatMap_singleton,
      List.getLast?_append, Option.or_of_isSome hlast, getLast?_utf8EncodeChar,
      List.getLast?_concat, Option.some_inj]

theorem bytesOf_injective {s s' : String} (h : bytesOf s = bytesOf s') : s = s' := by
  rw [bytesOf_eq, bytesOf_eq, Array.toList_inj] at h
  exact String.toByteArray_inj.mp (ByteArray.ext h)

theorem bytesOf_eq_nil {s : String} : bytesOf s = [] ↔ s = "" := by
  rw [bytesOf_eq, Array.toList_eq_nil_iff, ← String.toByteArray_eq_empty_iff]
  exact ByteArray.ext_iff.symm

end Hypertext

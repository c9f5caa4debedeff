import Hypertext.Proofs.Charset.Declared
import Hypertext.Proofs.Output.Sink

/-!
# Reading back encoded text

A decoder that reads back what is written for one character, whatever follows, reads back a whole
text (`ReadsBack.decodeUnits`). This is so of UTF-8 (`readsBack_utf8`), by the number of bytes that a
character takes, and of UTF-16 in both byte orders (`readsBack_utf16`), by whether it takes a pair
of surrogates.

Hence decoding undoes encoding (`decode_encoded`). The mark in front says which decoder is used, and
only one mark is taken away; a text without a mark in front must not begin with U+FEFF, and
`byteOrderMark?_bytesOf` says that this is enough.
-/

namespace Hypertext.Charset

/-! ## Units -/

/-- What is written for a character is read back as this character, whatever follows. -/
def ReadsBack (read : ReadUnit) (write : Char → Bytes) : Prop :=
  ∀ c rest, ∃ b more, write c = b :: more ∧ read b (more ++ rest) = ([c], rest)

section

variable {read : ReadUnit} {write : Char → Bytes}

theorem ReadsBack.decodeOnto (h : ReadsBack read write) : ∀ (s : List Char) (fuel : Nat)
    (done : List Char), (s.flatMap write).length ≤ fuel →
      decodeOnto (fun _ b rest => ((), read b rest)) fuel () (s.flatMap write) done =
        done.reverse ++ s
  | [], fuel, done, _ => by
    rw [List.append_nil]
    cases fuel <;> rfl
  | c :: s, fuel, done, hfuel => by
    obtain ⟨b, more, hwrite, hread⟩ := h c (s.flatMap write)
    rw [List.flatMap_cons, hwrite, List.cons_append, List.length_cons, List.length_append] at hfuel
    obtain ⟨fuel, rfl⟩ := Nat.exists_eq_add_of_le' (Nat.le_of_add_left_le hfuel)
    rw [List.flatMap_cons, hwrite, List.cons_append, Charset.decodeOnto]
    simp only [hread]
    rw [h.decodeOnto s fuel ([c].reverse ++ done) (by omega)]
    simp

/-- The text of what is written for the characters of a text is this text. -/
theorem ReadsBack.decodeUnits (h : ReadsBack read write) (s : List Char) :
    decodeUnits read (s.flatMap write) = s :=
  h.decodeOnto s _ [] (Nat.le_refl _)

end

/-! ## UTF-8 -/

/-- The numbers of characters. -/
theorem toNat_lt (c : Char) : c.toNat < 0xD800 ∨ 0xDFFF < c.toNat ∧ c.toNat < 0x110000 :=
  c.valid

theorem toNat_ofNat {n : Nat} (hn : n < 256) : (UInt8.ofNat n).toNat = n :=
  UInt8.toNat_ofNat_of_lt' hn

theorem utf8Lead?_ofNat {n : Nat} (hn : n < 256) : utf8Lead? (UInt8.ofNat n) =
    if 0xC2 ≤ n ∧ n ≤ 0xDF then some ⟨1, n - 0xC0, 0x80, 0xBF⟩
    else if n = 0xE0 then some ⟨2, n - 0xE0, 0xA0, 0xBF⟩
    else if n = 0xED then some ⟨2, n - 0xE0, 0x80, 0x9F⟩
    else if 0xE1 ≤ n ∧ n ≤ 0xEF then some ⟨2, n - 0xE0, 0x80, 0xBF⟩
    else if n = 0xF0 then some ⟨3, n - 0xF0, 0x90, 0xBF⟩
    else if n = 0xF4 then some ⟨3, n - 0xF0, 0x80, 0x8F⟩
    else if 0xF1 ≤ n ∧ n ≤ 0xF3 then some ⟨3, n - 0xF0, 0x80, 0xBF⟩
    else none := by
  have hnat : (UInt8.ofNat n).toNat = n := toNat_ofNat hn
  simp only [utf8Lead?, UInt8.le_iff_toNat_le, ← UInt8.toNat_inj, hnat]
  rfl

/-- A sequence that begins with a first byte goes on with its tail. -/
theorem utf8Unit_lead {n count bits : Nat} {low high : UInt8} (hn : 0x80 ≤ n ∧ n < 256)
    (hlead : utf8Lead? (UInt8.ofNat n) = some ⟨count, bits, low, high⟩) (rest : Bytes) :
    utf8Unit (UInt8.ofNat n) rest = utf8Tail low high count bits rest := by
  have hnat : (UInt8.ofNat n).toNat = n := toNat_ofNat hn.2
  have hb : ¬ UInt8.ofNat n < 0x80 := by
    rw [UInt8.lt_iff_toNat_lt, hnat]
    exact Nat.not_lt.mpr hn.1
  rw [utf8Unit, if_neg hb, hlead]

/-- A further byte brings six bits. -/
theorem utf8Tail_cons {low high : UInt8} {m : Nat} (hlow : low.toNat ≤ m % 64 + 0x80)
    (hhigh : m % 64 + 0x80 ≤ high.toNat) (n bits : Nat) (rest : Bytes) :
    utf8Tail low high (n + 1) bits (UInt8.ofNat (m % 64 + 0x80) :: rest) =
      utf8Tail 0x80 0xBF n (bits * 64 + m % 64) rest := by
  have hlt : m % 64 + 0x80 < 256 := Nat.lt_of_le_of_lt hhigh (UInt8.toNat_lt high)
  have hnat : (UInt8.ofNat (m % 64 + 0x80)).toNat = m % 64 + 0x80 := toNat_ofNat hlt
  have hrange : low ≤ UInt8.ofNat (m % 64 + 0x80) ∧ UInt8.ofNat (m % 64 + 0x80) ≤ high := by
    rw [UInt8.le_iff_toNat_le, UInt8.le_iff_toNat_le, hnat]
    exact ⟨hlow, hhigh⟩
  rw [utf8Tail, if_pos hrange, hnat, Nat.add_sub_cancel]

/-- A further byte that is not the first of them may bring any six bits. -/
theorem utf8Tail_cons' (m n bits : Nat) (rest : Bytes) :
    utf8Tail 0x80 0xBF (n + 1) bits (UInt8.ofNat (m % 64 + 0x80) :: rest) =
      utf8Tail 0x80 0xBF n (bits * 64 + m % 64) rest := by
  have hmod : m % 64 < 64 := Nat.mod_lt m (by decide)
  have hlow : (0x80 : UInt8).toNat = 0x80 := rfl
  have hhigh : (0xBF : UInt8).toNat = 0xBF := rfl
  exact utf8Tail_cons (by omega) (by omega) n bits rest

variable {v : Nat} (rest : Bytes)

theorem utf8Tail_zero {low high : UInt8} {bits : Nat} (h : bits = v) :
    utf8Tail low high 0 bits rest = ([Char.ofNat v], rest) := by
  rw [utf8Tail, h]

theorem utf8Unit_one (hv : v ≤ 0x7F) : utf8Unit (UInt8.ofNat v) rest = ([Char.ofNat v], rest) := by
  have hnat : (UInt8.ofNat v).toNat = v := toNat_ofNat (by omega)
  have hb : UInt8.ofNat v < 0x80 := by
    rw [UInt8.lt_iff_toNat_lt, hnat]
    exact Nat.lt_succ_of_le hv
  rw [utf8Unit, if_pos hb, hnat]

theorem utf8Unit_two (hv : 0x80 ≤ v ∧ v ≤ 0x7FF) :
    utf8Unit (UInt8.ofNat (v / 64 % 32 + 0xC0)) (UInt8.ofNat (v % 64 + 0x80) :: rest) =
      ([Char.ofNat v], rest) := by
  have hlead : 0xC2 ≤ v / 64 % 32 + 0xC0 ∧ v / 64 % 32 + 0xC0 ≤ 0xDF := by omega
  rw [utf8Unit_lead (by omega) ((utf8Lead?_ofNat (by omega)).trans (if_pos hlead)),
    utf8Tail_cons']
  exact utf8Tail_zero rest (by omega)

theorem utf8Unit_three (hv : 0x800 ≤ v ∧ v ≤ 0xFFFF) (hscalar : v < 0xD800 ∨ 0xDFFF < v) :
    utf8Unit (UInt8.ofNat (v / 4096 % 16 + 0xE0))
        (UInt8.ofNat (v / 64 % 64 + 0x80) :: UInt8.ofNat (v % 64 + 0x80) :: rest) =
      ([Char.ofNat v], rest) := by
  -- The range of the second byte leaves out short sequences and surrogates.
  obtain ⟨low, high, hlead, hlow, hhigh⟩ : ∃ low high : UInt8,
      utf8Lead? (UInt8.ofNat (v / 4096 % 16 + 0xE0)) = some ⟨2, v / 4096 % 16, low, high⟩ ∧
        low.toNat ≤ v / 64 % 64 + 0x80 ∧ v / 64 % 64 + 0x80 ≤ high.toNat := by
    rw [utf8Lead?_ofNat (by omega), if_neg (by omega), Nat.add_sub_cancel]
    have hA0 : (0xA0 : UInt8).toNat = 0xA0 := rfl
    have h9F : (0x9F : UInt8).toNat = 0x9F := rfl
    have h80 : (0x80 : UInt8).toNat = 0x80 := rfl
    have hBF : (0xBF : UInt8).toNat = 0xBF := rfl
    split
    · exact ⟨_, _, rfl, by omega, by omega⟩
    split
    · exact ⟨_, _, rfl, by omega, by omega⟩
    · rw [if_pos (by omega)]
      exact ⟨_, _, rfl, by omega, by omega⟩
  rw [utf8Unit_lead (by omega) hlead, utf8Tail_cons hlow hhigh, utf8Tail_cons']
  exact utf8Tail_zero rest (by omega)

theorem utf8Unit_four (hv : 0x10000 ≤ v ∧ v < 0x110000) :
    utf8Unit (UInt8.ofNat (v / 262144 % 8 + 0xF0))
        (UInt8.ofNat (v / 4096 % 64 + 0x80) :: UInt8.ofNat (v / 64 % 64 + 0x80) ::
          UInt8.ofNat (v % 64 + 0x80) :: rest) =
      ([Char.ofNat v], rest) := by
  -- The range of the second byte leaves out short sequences and numbers that are too large.
  obtain ⟨low, high, hlead, hlow, hhigh⟩ : ∃ low high : UInt8,
      utf8Lead? (UInt8.ofNat (v / 262144 % 8 + 0xF0)) = some ⟨3, v / 262144 % 8, low, high⟩ ∧
        low.toNat ≤ v / 4096 % 64 + 0x80 ∧ v / 4096 % 64 + 0x80 ≤ high.toNat := by
    rw [utf8Lead?_ofNat (by omega), if_neg (by omega), if_neg (by omega), if_neg (by omega),
      if_neg (by omega), Nat.add_sub_cancel]
    have h90 : (0x90 : UInt8).toNat = 0x90 := rfl
    have h8F : (0x8F : UInt8).toNat = 0x8F := rfl
    have h80 : (0x80 : UInt8).toNat = 0x80 := rfl
    have hBF : (0xBF : UInt8).toNat = 0xBF := rfl
    split
    · exact ⟨_, _, rfl, by omega, by omega⟩
    split
    · exact ⟨_, _, rfl, by omega, by omega⟩
    · rw [if_pos (by omega)]
      exact ⟨_, _, rfl, by omega, by omega⟩
  rw [utf8Unit_lead (by omega) hlead, utf8Tail_cons hlow hhigh, utf8Tail_cons', utf8Tail_cons']
  exact utf8Tail_zero rest (by omega)

/-- What UTF-8 writes for a character is read back as this character. -/
theorem readsBack_utf8 : ReadsBack utf8Unit String.utf8EncodeChar := by
  intro c rest
  obtain ⟨v, hc⟩ : ∃ v, c.toNat = v := ⟨_, rfl⟩
  have hscalar := toNat_lt c
  rw [hc] at hscalar
  have hchar : c = Char.ofNat v := by rw [← hc, Char.ofNat_toNat]
  rw [utf8EncodeChar_ofNat hc, hchar]
  split
  · exact ⟨_, [], rfl, utf8Unit_one rest (by omega)⟩
  split
  · exact ⟨_, _, rfl, utf8Unit_two rest (by omega)⟩
  split
  · exact ⟨_, _, rfl, utf8Unit_three rest (by omega) (by omega)⟩
  · exact ⟨_, _, rfl, utf8Unit_four rest (by omega)⟩

theorem decodeUtf8_bytesOf (s : String) : decodeUtf8 (bytesOf s) = s.toList := by
  rw [bytesOf_eq_flatMap, decodeUtf8, readsBack_utf8.decodeUnits]

/-! ## UTF-16 -/

/-- The two bytes of a number. -/
def ByteOrder.bytes (o : ByteOrder) (n : Nat) : Bytes :=
  match o with
  | .bigEndian => [UInt8.ofNat (n / 256), UInt8.ofNat (n % 256)]
  | .littleEndian => [UInt8.ofNat (n % 256), UInt8.ofNat (n / 256)]

/-- What stands for a character in UTF-16: its number, or a pair of surrogates. -/
def utf16Numbers (c : Char) : List Nat :=
  if c.toNat < 0x10000 then [c.toNat]
  else [0xD800 + (c.toNat - 0x10000) / 1024, 0xDC00 + (c.toNat - 0x10000) % 1024]

/-- The bytes of a character in UTF-16. -/
def ByteOrder.writeChar (o : ByteOrder) (c : Char) : Bytes :=
  (utf16Numbers c).flatMap o.bytes

/-- The bytes of a text in UTF-16. -/
def utf16Of (o : ByteOrder) (s : String) : Bytes :=
  s.toList.flatMap o.writeChar

theorem ByteOrder.exists_bytes (o : ByteOrder) {n : Nat} (hn : n < 0x10000) :
    ∃ first second, o.bytes n = [first, second] ∧ o.number first second = n := by
  have hhigh : (UInt8.ofNat (n / 256)).toNat = n / 256 := toNat_ofNat (by omega)
  have hlow : (UInt8.ofNat (n % 256)).toNat = n % 256 := toNat_ofNat (by omega)
  cases o with
  | bigEndian =>
    refine ⟨_, _, rfl, ?_⟩
    rw [number, hhigh, hlow]
    omega
  | littleEndian =>
    refine ⟨_, _, rfl, ?_⟩
    rw [number, hhigh, hlow]
    omega

/-- What UTF-16 writes for a character is read back as this character. -/
theorem readsBack_utf16 (o : ByteOrder) : ReadsBack (utf16Unit o) o.writeChar := by
  intro c rest
  obtain ⟨v, hc⟩ : ∃ v, c.toNat = v := ⟨_, rfl⟩
  have hscalar := toNat_lt c
  rw [hc] at hscalar
  have hchar : c = Char.ofNat v := by rw [← hc, Char.ofNat_toNat]
  rw [ByteOrder.writeChar, utf16Numbers, hc, hchar]
  split
  · obtain ⟨first, second, hwrite, hnumber⟩ := o.exists_bytes (n := v) (by omega)
    refine ⟨first, [second], by rw [List.flatMap_singleton, hwrite], ?_⟩
    simp only [List.singleton_append, utf16Unit, hnumber]
    rw [if_neg (by omega), if_neg (by omega)]
  · obtain ⟨first, second, hwrite, hnumber⟩ :=
      o.exists_bytes (n := 0xD800 + (v - 0x10000) / 1024) (by omega)
    obtain ⟨third, fourth, hwrite', hnumber'⟩ :=
      o.exists_bytes (n := 0xDC00 + (v - 0x10000) % 1024) (by omega)
    refine ⟨first, [second, third, fourth], ?_, ?_⟩
    · rw [List.flatMap_cons, List.flatMap_singleton, hwrite, hwrite']
      rfl
    · have hpair : 0x10000 + (0xD800 + (v - 0x10000) / 1024 - 0xD800) * 1024 +
          (0xDC00 + (v - 0x10000) % 1024 - 0xDC00) = v := by omega
      simp only [List.cons_append, List.nil_append, utf16Unit, hnumber, hnumber']
      rw [if_pos (by omega), if_pos (by omega), hpair]

theorem decodeUtf16_utf16Of (o : ByteOrder) (s : String) :
    decodeUtf16 o (utf16Of o s) = s.toList := by
  rw [utf16Of, decodeUtf16, (readsBack_utf16 o).decodeUnits]

example : utf16Of .littleEndian "é😀" = [0xE9, 0x00, 0x3D, 0xD8, 0x00, 0xDE] := by decide

/-! ## Byte order marks -/

/-- No character begins with a byte that begins no sequence. -/
theorem utf8EncodeChar_ne {c : Char} {b : UInt8} {more : Bytes}
    (hb : ∀ rest, utf8Unit b rest = (malformed, rest)) (hne : b ≠ 0xEF) :
    String.utf8EncodeChar c ≠ b :: more := by
  intro hwrite
  obtain ⟨_, _, hwrite', hread⟩ := readsBack_utf8 c []
  obtain ⟨rfl, rfl⟩ := List.cons.inj (hwrite.symm.trans hwrite')
  rw [hb] at hread
  -- The character would be U+FFFD, which begins with another byte.
  have hc : c = '\ufffd' := (List.singleton_inj.mp (congrArg Prod.fst hread)).symm
  subst hc
  exact hne (List.cons.inj hwrite).1.symm

/-- A text that does not begin with U+FEFF does not begin with a byte order mark in UTF-8. -/
theorem byteOrderMark?_bytesOf {s : String} (hs : s.toList.head? ≠ some '\ufeff') :
    byteOrderMark? (bytesOf s) = none := by
  rw [bytesOf_eq_flatMap]
  cases hlist : s.toList with
  | nil => rfl
  | cons c l =>
    rw [hlist, List.head?_cons] at hs
    obtain ⟨b, more, hwrite, hread⟩ := readsBack_utf8 c (l.flatMap String.utf8EncodeChar)
    rw [List.flatMap_cons, hwrite, List.cons_append]
    generalize more ++ l.flatMap String.utf8EncodeChar = rest at hread
    unfold byteOrderMark?
    split
    · next rest e =>
      obtain ⟨rfl, rfl⟩ := List.cons.inj e
      have hmark : utf8Unit 0xEF (0xBB :: 0xBF :: rest) = (['\ufeff'], rest) := rfl
      rw [hmark] at hread
      exact absurd (congrArg List.head? (congrArg Prod.fst hread)).symm hs
    · next e =>
      obtain ⟨rfl, -⟩ := List.cons.inj e
      exact absurd hwrite (utf8EncodeChar_ne (fun _ => rfl) (by decide))
    · next e =>
      obtain ⟨rfl, -⟩ := List.cons.inj e
      exact absurd hwrite (utf8EncodeChar_ne (fun _ => rfl) (by decide))
    · rfl

/-- A text in UTF-8 without a byte order mark that declares nothing is read back. -/
theorem decode_bytesOf {s : String} (hs : s.toList.head? ≠ some '\ufeff')
    (hhead : declaredLabel? (headOf (bytesOf s)) = none) :
    decode (bytesOf s) = (s.toList, .utf8) := by
  have hmark := byteOrderMark?_bytesOf hs
  have hdetect : detect (bytesOf s) = .utf8 := by
    rw [detect, hmark, hhead]
    rfl
  rw [decode, hmark, hdetect]
  exact congrArg (·, Encoding.utf8) (decodeUtf8_bytesOf s)

/-- Whatever stands behind a byte order mark is read as UTF-8. -/
theorem decode_marked_bytesOf (s : String) :
    decode (0xEF :: 0xBB :: 0xBF :: bytesOf s) = (s.toList, .utf8) :=
  congrArg (·, Encoding.utf8) (decodeUtf8_bytesOf s)

/-- Decoding undoes encoding. A text behind the byte order mark of its encoding is read back
whatever it declares, also if it begins with U+FEFF itself. A text in UTF-8 without a mark is read
back if it does not begin with U+FEFF, and no `charset` attribute is found in its first bytes. -/
theorem decode_encoded (s : String) :
    decode (0xEF :: 0xBB :: 0xBF :: bytesOf s) = (s.toList, .utf8) ∧
    decode (0xFF :: 0xFE :: utf16Of .littleEndian s) = (s.toList, .utf16le) ∧
    decode (0xFE :: 0xFF :: utf16Of .bigEndian s) = (s.toList, .utf16be) ∧
    (s.toList.head? ≠ some '\ufeff' → charsetAttribute.search? (headOf (bytesOf s)) = none →
      decode (bytesOf s) = (s.toList, .utf8)) := by
  refine ⟨decode_marked_bytesOf s, ?_, ?_, fun hs hhead => ?_⟩
  · exact congrArg (·, Encoding.utf16le) (decodeUtf16_utf16Of .littleEndian s)
  · exact congrArg (·, Encoding.utf16be) (decodeUtf16_utf16Of .bigEndian s)
  · exact decode_bytesOf hs (declaredLabel?_eq_none hhead)

/-- A text with a two-byte character across the end of its head, and a declaration behind that. -/
def lateDeclaration : List Char :=
  List.replicate 1023 ' ' ++ "é😀<meta charset=koi8-r>".toList

/-- The declaration comes too late to count. -/
theorem decode_lateDeclaration :
    (String.ofList lateDeclaration).toList.head? ≠ some '\ufeff' ∧
    charsetAttribute.search? (headOf (bytesOf (String.ofList lateDeclaration))) = none ∧
    decode (bytesOf (String.ofList lateDeclaration)) =
      ((String.ofList lateDeclaration).toList, .utf8) := by
  have hfirst : (String.ofList lateDeclaration).toList.head? ≠ some '\ufeff' := by
    rw [String.toList_ofList]
    decide +kernel
  have hhead : charsetAttribute.search? (headOf (bytesOf (String.ofList lateDeclaration))) =
      none := by
    rw [bytesOf_eq_flatMap, String.toList_ofList]
    decide +kernel
  exact ⟨hfirst, hhead, (decode_encoded (String.ofList lateDeclaration)).2.2.2 hfirst hhead⟩

end Hypertext.Charset

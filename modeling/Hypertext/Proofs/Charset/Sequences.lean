import Hypertext.Proofs.Charset.Encoded

/-!
# UTF-8 in parts

Bytes are read one sequence at a time (`decodeUtf8_cons`). A sequence that the end of the bytes
breaks off is replaced as a whole, and everything else is read as it would be if more bytes followed
(`utf8Unit_append`). Hence bytes in front of an ASCII byte are read by themselves
(`decodeUtf8_append`), and the text of the first bytes is a beginning of the whole text, save for
one U+FFFD at its end (`decodeUtf8_beginning`).
-/

namespace Hypertext.Charset

variable {b : UInt8} {x y rest : Bytes} {low high : UInt8} {n bits : Nat}

/-! ## One sequence at a time -/

theorem utf8Tail_suffix : ∀ {n bits : Nat} {low high : UInt8} {rest : Bytes},
    (utf8Tail low high n bits rest).2 <:+ rest
  | 0, _, _, _, rest => List.suffix_refl rest
  | _ + 1, _, _, _, [] => List.suffix_refl []
  | n + 1, bits, low, high, b :: rest => by
    rw [utf8Tail]
    split
    · exact utf8Tail_suffix.trans (List.suffix_cons b rest)
    · exact List.suffix_refl _

theorem utf8Unit_suffix (b : UInt8) (rest : Bytes) : (utf8Unit b rest).2 <:+ rest := by
  rw [utf8Unit]
  split
  · exact List.suffix_refl rest
  · split
    · exact List.suffix_refl rest
    · exact utf8Tail_suffix

/-- What has been read stands in front of what will be, and any fuel does that is not less than the
bytes. -/
theorem decodeOnto_utf8 : ∀ (n m : Nat) (bytes : Bytes) (done : List Char), bytes.length ≤ n →
    bytes.length ≤ m → decodeOnto (fun _ b rest => ((), utf8Unit b rest)) n () bytes done =
      done.reverse ++ decodeOnto (fun _ b rest => ((), utf8Unit b rest)) m () bytes []
  | n, m, [], done, _, _ => by cases n <;> cases m <;> simp [decodeOnto]
  | n + 1, m + 1, b :: rest, done, hn, hm => by
    have hle := (utf8Unit_suffix b rest).length_le
    have hn := Nat.le_trans hle (Nat.le_of_succ_le_succ hn)
    have hm := Nat.le_trans hle (Nat.le_of_succ_le_succ hm)
    simp only [decodeOnto]
    -- Both sides read the same sequence, after which both read on from nothing.
    rw [decodeOnto_utf8 n m _ _ hn hm, decodeOnto_utf8 m m _ (_ ++ []) hm hm]
    simp

/-- The text of some bytes is that of their first sequence and of what is left behind it. -/
theorem decodeUtf8_cons (b : UInt8) (rest : Bytes) :
    decodeUtf8 (b :: rest) = (utf8Unit b rest).1 ++ decodeUtf8 (utf8Unit b rest).2 := by
  have hle := (utf8Unit_suffix b rest).length_le
  show decodeOnto _ rest.length () (utf8Unit b rest).2 ((utf8Unit b rest).1.reverse ++ []) = _
  rw [decodeOnto_utf8 _ _ _ _ hle (Nat.le_refl _), List.append_nil, List.reverse_reverse]
  rfl

/-! ## More bytes -/

/-- Whether more bytes follow matters only to a sequence that is broken off at the end. An ASCII
byte does not go on with it. -/
theorem utf8Tail_append : ∀ {n bits : Nat} {low high : UInt8} {rest : Bytes}, 0x80 ≤ low →
    utf8Tail low high n bits (rest ++ y) =
        ((utf8Tail low high n bits rest).1, (utf8Tail low high n bits rest).2 ++ y) ∨
      utf8Tail low high n bits rest = (malformed, []) ∧ ∃ b ∈ y.head?, 0x80 ≤ b
  | 0, _, _, _, _, _ => .inl rfl
  | n + 1, bits, low, high, [], hlow => by
    cases y with
    | nil => exact .inl rfl
    | cons b y =>
      by_cases hb : low ≤ b
      · exact .inr ⟨rfl, b, rfl, UInt8.le_trans hlow hb⟩
      · refine .inl ?_
        exact if_neg fun h => hb h.1
  | n + 1, bits, low, high, b :: rest, hlow => by
    rw [List.cons_append, utf8Tail, utf8Tail]
    split
    · exact utf8Tail_append (by decide)
    · exact .inl rfl

theorem low_of_utf8Lead? {lead : Utf8Lead} (h : utf8Lead? b = some lead) : 0x80 ≤ lead.low := by
  unfold utf8Lead? at h
  repeat' split at h
  all_goals cases h
  all_goals
    dsimp only
    decide

theorem utf8Unit_append (b : UInt8) (rest y : Bytes) :
    utf8Unit b (rest ++ y) = ((utf8Unit b rest).1, (utf8Unit b rest).2 ++ y) ∨
      utf8Unit b rest = (malformed, []) ∧ ∃ b ∈ y.head?, 0x80 ≤ b := by
  unfold utf8Unit
  split
  · exact .inl rfl
  · cases h : utf8Lead? b with
    | none => exact .inl rfl
    | some lead => exact utf8Tail_append (low_of_utf8Lead? h)

/-- Bytes in front of an ASCII byte are read by themselves. -/
theorem decodeUtf8_append (hy : ∀ b ∈ y.head?, b < 0x80) (x : Bytes) :
    decodeUtf8 (x ++ y) = decodeUtf8 x ++ decodeUtf8 y := by
  induction hn : x.length using Nat.strongRecOn generalizing x with
  | _ n ih =>
    cases x with
    | nil => rfl
    | cons b rest =>
      have hlt : (utf8Unit b rest).2.length < n := by
        rw [← hn, List.length_cons]
        exact Nat.lt_succ_of_le (utf8Unit_suffix b rest).length_le
      rcases utf8Unit_append b rest y with hunit | ⟨-, c, hc, hle⟩
      · rw [List.cons_append, decodeUtf8_cons, decodeUtf8_cons, hunit, ih _ hlt _ rfl,
          List.append_assoc]
      · exact absurd (hy c hc) (UInt8.not_lt.mpr hle)

/-- The text of the first bytes is a beginning of the whole text, or such a beginning and a U+FFFD
for what is broken off. -/
theorem decodeUtf8_beginning (x y : Bytes) : ∃ s, s <+: decodeUtf8 (x ++ y) ∧
    (decodeUtf8 x = s ∨ decodeUtf8 x = s ++ malformed) := by
  induction hn : x.length using Nat.strongRecOn generalizing x with
  | _ n ih =>
    cases x with
    | nil => exact ⟨[], List.nil_prefix, .inl rfl⟩
    | cons b rest =>
      have hlt : (utf8Unit b rest).2.length < n := by
        rw [← hn, List.length_cons]
        exact Nat.lt_succ_of_le (utf8Unit_suffix b rest).length_le
      rcases utf8Unit_append b rest y with hunit | ⟨hunit, -⟩
      · obtain ⟨s, hs, hdecode⟩ := ih _ hlt _ rfl
        refine ⟨(utf8Unit b rest).1 ++ s, ?_, ?_⟩
        · rw [List.cons_append, decodeUtf8_cons, hunit]
          exact (List.prefix_append_right_inj _).mpr hs
        · rw [decodeUtf8_cons, List.append_assoc]
          exact hdecode.imp (congrArg _) (congrArg _)
      · refine ⟨[], List.nil_prefix, .inr ?_⟩
        rw [decodeUtf8_cons, hunit]
        rfl

theorem utf8Tail_ne_nil : ∀ {n bits : Nat} {low high : UInt8} {rest : Bytes},
    (utf8Tail low high n bits rest).1 ≠ []
  | 0, _, _, _, _ => List.cons_ne_nil _ _
  | _ + 1, _, _, _, [] => List.cons_ne_nil _ _
  | _ + 1, _, _, _, _ :: _ => by
    rw [utf8Tail]
    split
    · exact utf8Tail_ne_nil
    · exact List.cons_ne_nil _ _

/-- No byte is read as nothing. -/
theorem decodeUtf8_ne_nil (hx : x ≠ []) : decodeUtf8 x ≠ [] := by
  obtain ⟨b, rest, rfl⟩ := List.exists_cons_of_ne_nil hx
  have hunit : (utf8Unit b rest).1 ≠ [] := by
    unfold utf8Unit
    split
    · exact List.cons_ne_nil _ _
    · split
      · exact List.cons_ne_nil _ _
      · exact utf8Tail_ne_nil
  rw [decodeUtf8_cons]
  exact List.append_ne_nil_of_left_ne_nil hunit _

/-- The bytes of a text are read back, whatever follows. -/
theorem decodeUtf8_bytesOf_append (s : String) (y : Bytes) :
    decodeUtf8 (bytesOf s ++ y) = s.toList ++ decodeUtf8 y := by
  rw [bytesOf_eq_flatMap]
  induction s.toList with
  | nil => rfl
  | cons c cs ih =>
    obtain ⟨b, more, hwrite, hread⟩ := readsBack_utf8 c (cs.flatMap String.utf8EncodeChar ++ y)
    rw [List.flatMap_cons, hwrite, List.append_assoc, List.cons_append, decodeUtf8_cons, hread, ih]
    rfl

end Hypertext.Charset

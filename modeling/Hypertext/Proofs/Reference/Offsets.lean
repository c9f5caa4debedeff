import Hypertext.Proofs.Reference.Parts
import Hypertext.Proofs.Text.Cut
import Mathlib.Data.Nat.PSub

/-!
# Reading references by byte offsets

A reader that goes through a text by byte offsets counts characters, or bytes, and then cuts the
text where it has counted to. It fails where an offset names no place of the text, or where it takes
more from a number than there is. Here is such a reader, with every cut and subtraction as one that
may fail (`referenceAt?`, `round?`); it never does. What it counts are letters, digits and signs of
ASCII, of one byte each, so that it reads a reference as it is read character by character
(`agrees_referenceAt?`), and it ends with the same text (`ends`).

The main statement is `resolve_byOffsets`. It says as well what becomes of the text around the
references: it is put out as it stands (`CutInto`).
-/

namespace Hypertext.Reference

variable {table : List Char → Option Expansion} {s run x out taken rest chars : List Char} {n : Nat}

/-! ## The reader -/

/-- The number of bytes of the semicolon that a text begins with, if there is one. -/
def semicolonBytes (s : List Char) : Nat :=
  if s.head? = some ';' then 1 else 0

/-- Reads digits behind `mark` bytes of a reference, and a semicolon if one follows: the number of
bytes of the reference, if there is one, and the output with its character. -/
def digitsAt? (base mark : Nat) (digits out : List Char) : Option (Option Nat × List Char) :=
  let count := (digits.takeWhile fun c => (digit? base c).isSome).length
  if count = 0 then some (none, out)
  else do
    let run ← takeBytes? count digits
    let behind ← dropBytes? count digits
    some (some (mark + count + semicolonBytes behind), out ++ [charOfNumber (number base run)])

/-- Reads a numeric reference behind its ampersand and number sign. -/
def numberAt? (s out : List Char) : Option (Option Nat × List Char) :=
  if s.head? = some 'x' ∨ s.head? = some 'X' then digitsAt? 16 3 s.tail out
  else digitsAt? 10 2 s out

/-- Looks up the beginnings of a name that have at most this many bytes, from the longest one on. -/
def shorterNameAt? (table : List Char → Option Expansion) (name out : List Char) :
    Nat → Option (Option Nat × List Char)
  | 0 => some (none, out)
  | 1 => some (none, out)
  | n + 2 => do
    let beginning ← takeBytes? (n + 2) name
    match table beginning with
    | some e => some (some (1 + (n + 2)), out ++ e.chars)
    | none => shorterNameAt? table name out (n + 1)

/-- A byte that is a letter or a digit of ASCII. -/
def isNameByte (b : UInt8) : Bool :=
  (Char.ofNat b.toNat).isAlphanum

/-- Reads a named reference behind its ampersand. -/
def nameAt? (table : List Char → Option Expansion) (s out : List Char) :
    Option (Option Nat × List Char) :=
  let count := ((utf8 s).takeWhile isNameByte).length
  if count = 0 then some (none, out)
  else do
    let behind ← dropBytes? count s
    let name ← takeBytes? (count + semicolonBytes behind) s
    match table name with
    | some e => some (some (1 + (utf8 name).length), out ++ e.chars)
    | none => do
      let most ← (utf8 name).length.psub 1
      shorterNameAt? table name out (min most longestUnterminated)

/-- Reads the reference that a text begins with: the number of its bytes, if there is one, and the
output with its characters. -/
def referenceAt? (table : List Char → Option Expansion) (s out : List Char) :
    Option (Option Nat × List Char) := do
  match ← dropBytes? 1 s with
  | '#' :: number => numberAt? number out
  | name => nameAt? table name out

/-- The byte offset of the first ampersand. -/
def ampersandAt? (s : List Char) : Option Nat :=
  if '&' ∈ s then some (utf8 (s.takeWhile (· != '&'))).length else none

/-- What a round of the reader comes to: the text that is left and the output so far, or the whole
output. -/
inductive Outcome where
  | more (rest out : List Char)
  | done (out : List Char)

/-- Reads up to the next ampersand, and the reference there, or the ampersand if it begins none. -/
def round? (table : List Char → Option Expansion) (s out : List Char) : Option Outcome :=
  match ampersandAt? s with
  | none => some (.done (out ++ s))
  | some offset => do
    let before ← takeBytes? offset s
    let s ← dropBytes? offset s
    match ← referenceAt? table s (out ++ before) with
    | (some count, out) => do
      let rest ← dropBytes? count s
      some (.more rest out)
    | (none, out) => do
      let rest ← dropBytes? 1 s
      some (.more rest (out ++ ['&']))

/-- From a text and an output on, the reader goes on round by round without a failure until it ends
with this output. -/
inductive Ends (table : List Char → Option Expansion) :
    List Char → List Char → List Char → Prop where
  | done {s out result : List Char} (h : round? table s out = some (.done result)) :
      Ends table s out result
  | more {s out rest out' result : List Char} (h : round? table s out = some (.more rest out'))
      (hends : Ends table rest out' result) : Ends table s out result

/-! ## What is counted -/

/-- The bytes of letters and digits, counted one by one, are those of the letters and digits. -/
theorem takeWhile_utf8 (s : List Char) :
    (utf8 s).takeWhile isNameByte = utf8 (s.takeWhile isNameChar) := by
  induction s with
  | nil => rw [utf8_nil, List.takeWhile_nil, List.takeWhile_nil, utf8_nil]
  | cons c s ih =>
    rcases Nat.lt_or_ge 0x7F c.toNat with hc | hc
    · have hchar : ¬ isNameChar c := fun h => Nat.not_le.mpr hc (toNat_le_of_isAlphanum h)
      obtain ⟨b, more, hbytes⟩ :=
        List.exists_cons_of_ne_nil (String.utf8EncodeChar_ne_nil (c := c))
      have hb : ¬ isNameByte b := fun h => by
        have hle := le_of_mem_utf8EncodeChar hc (hbytes ▸ List.mem_cons_self)
        have hvalid : b.toNat.isValidChar := .inl (Nat.lt_trans b.toNat_lt (by decide))
        have hascii := toNat_le_of_isAlphanum h
        rw [toNat_charOfNat hvalid] at hascii
        omega
      rw [utf8_cons, hbytes, List.cons_append, List.takeWhile_cons_of_neg hb,
        List.takeWhile_cons_of_neg hchar, utf8_nil]
    · have hbyte : isNameByte (UInt8.ofNat c.toNat) = isNameChar c := by
        have hlt : c.toNat < 256 := by omega
        rw [isNameByte, UInt8.toNat_ofNat_of_lt' hlt, Char.ofNat_toNat, isNameChar]
      rw [utf8_cons, utf8EncodeChar_of_ascii hc, List.singleton_append]
      by_cases hname : isNameChar c
      · rw [List.takeWhile_cons_of_pos (hbyte ▸ hname), List.takeWhile_cons_of_pos hname, ih,
          utf8_cons, utf8EncodeChar_of_ascii hc, List.singleton_append]
      · rw [List.takeWhile_cons_of_neg (hbyte ▸ hname), List.takeWhile_cons_of_neg hname, utf8_nil]

/-- The semicolon that a text begins with, if there is one. -/
def semicolon (s : List Char) : List Char :=
  (s.take 1).takeWhile (· == ';')

theorem semicolon_append (s : List Char) : semicolon s ++ withoutSemicolon s = s := by
  unfold withoutSemicolon
  split
  · rfl
  · next h =>
    cases s with
    | nil => rfl
    | cons c s =>
      have hc : (c == ';') = false := beq_eq_false_iff_ne.mpr fun e => h s (by rw [e])
      simp [semicolon, hc]

theorem semicolonBytes_eq (s : List Char) : semicolonBytes s = (semicolon s).length := by
  cases s with
  | nil => rfl
  | cons c s => by_cases hc : c = ';' <;> simp [semicolonBytes, semicolon, hc]

theorem eq_of_mem_semicolon : ∀ {s : List Char}, ∀ c ∈ semicolon s, c = ';'
  | [], _, hc => by cases hc
  | d :: s, c, hc => by
    by_cases hd : d = ';'
    · subst hd
      exact List.mem_singleton.mp hc
    · simp [semicolon, hd] at hc

/-- A run of letters and digits with a semicolon behind it is ASCII. -/
theorem toNat_le_of_mem_run (hrun : ∀ c ∈ run, c.isAlphanum) (x : List Char) :
    ∀ c ∈ run ++ semicolon x, c.toNat ≤ 0x7F := by
  refine List.forall_mem_append.mpr ⟨fun c hc => toNat_le_of_isAlphanum (hrun c hc), fun c hc => ?_⟩
  rw [eq_of_mem_semicolon c hc]
  decide

/-! ## One reference -/

/-- What the reader by offsets does with an ampersand in front of `s`, beside what is read there. It
finds no reference where none is read, and then puts nothing out. Otherwise it puts out what the
reference stands for. The bytes that it counts are the ampersand and more, all of them ASCII, and
their number names the place where the reference ends. -/
inductive Agrees (s out : List Char) :
    Option (List Char × List Char) → Option (Option Nat × List Char) → Prop where
  | nothing : Agrees s out none (some (none, out))
  | read {chars rest : List Char} {n : Nat} (one_lt : 1 < n)
      (le : n ≤ (utf8 ('&' :: s)).length) (ascii : ∀ b ∈ (utf8 ('&' :: s)).take n, b < 0x80)
      (rest_eq : dropBytes? n ('&' :: s) = some rest) (chars_ne_nil : chars ≠ []) :
      Agrees s out (some (chars, rest)) (some (some n, out ++ chars))

/-- The characters of ASCII that are read behind an ampersand are counted as bytes. -/
theorem Agrees.of_ascii (hs : s = taken ++ rest) (hne : taken ≠ [])
    (hascii : ∀ c ∈ taken, c.toNat ≤ 0x7F) (hchars : chars ≠ []) (hn : n = 1 + taken.length) :
    Agrees s out (some (chars, rest)) (some (some n, out ++ chars)) := by
  have hall : ∀ c ∈ '&' :: taken, c.toNat ≤ 0x7F := List.forall_mem_cons.mpr ⟨by decide, hascii⟩
  have hlength : (utf8 ('&' :: taken)).length = n := by
    rw [length_utf8_of_ascii hall, hn, List.length_cons, Nat.add_comm]
  have hpos := List.length_pos_of_ne_nil hne
  have hread : '&' :: s = '&' :: taken ++ rest := by rw [hs, List.cons_append]
  refine .read (by omega) ?_ ?_ ?_ hchars <;> rw [hread]
  · rw [utf8_append, List.length_append, hlength]
    exact Nat.le_add_right _ _
  · rw [utf8_append, ← hlength, List.take_left]
    exact lt_of_mem_utf8_of_ascii hall
  · exact dropBytes?_append hlength rest

theorem dropBytes?_ampersand (s : List Char) : dropBytes? 1 ('&' :: s) = some s :=
  have hascii : ∀ c ∈ ['&'], c.toNat ≤ 0x7F := List.forall_mem_singleton.mpr (by decide)
  dropBytes?_append (length_utf8_of_ascii hascii) s

theorem agrees_digitsAt? {mark : List Char} (hmark : ∀ c ∈ mark, c.toNat ≤ 0x7F) (base : Nat)
    (s out : List Char) : Agrees (mark ++ s) out
      ((digitsOf? base s).map fun n => ([n.char], n.rest))
      (digitsAt? base (1 + mark.length) s out) := by
  obtain ⟨run, x, rfl, hrun, hx⟩ := exists_run (fun c => (digit? base c).isSome) s
  rw [digitsAt?]
  simp only [takeWhile_append_stop hrun hx]
  by_cases hne : run = []
  · subst hne
    have hnone : digitsOf? base ([] ++ x) = none := by
      simp only [digitsOf?, takeWhile_append_stop hrun hx]
    rw [hnone]
    exact .nothing
  · have hascii := toNat_le_of_mem_run (fun c hc => isAlphanum_of_digit? (hrun c hc)) x
    have hlength := length_utf8_of_ascii (List.forall_mem_append.mp hascii).1
    have hcount : run.length ≠ 0 := fun h => hne (List.length_eq_zero_iff.mp h)
    obtain ⟨numeric, hread, hparts⟩ := Option.map_eq_some_iff.mp (digitsOf?_append hne hrun hx)
    obtain ⟨hchar, hrest⟩ := Prod.mk.inj hparts
    rw [if_neg hcount, takeBytes?_append hlength, dropBytes?_append hlength, hread, Option.map_some,
      hchar, hrest]
    have hs : mark ++ (run ++ x) = mark ++ (run ++ semicolon x) ++ withoutSemicolon x := by
      simp only [List.append_assoc, semicolon_append]
    refine .of_ascii hs ?_ (List.forall_mem_append.mpr ⟨hmark, hascii⟩) (List.cons_ne_nil _ _) ?_
    · simp [hne]
    · simp only [semicolonBytes_eq, List.length_append]
      omega

theorem agrees_numberAt? (s out : List Char) : Agrees ('#' :: s) out
    ((numeric? s).map fun n => ([n.char], n.rest)) (numberAt? s out) := by
  have hsign : '#'.toNat ≤ 0x7F := by decide
  rw [numeric?_eq, numberAt?]
  split
  · next hmark =>
    cases s with
    | nil => simp at hmark
    | cons c s =>
      have hc : c.toNat ≤ 0x7F := by
        rcases hmark with h | h <;> obtain rfl := Option.some.inj h <;> decide
      have hascii : ∀ d ∈ ['#', c], d.toNat ≤ 0x7F :=
        List.forall_mem_cons.mpr ⟨hsign, List.forall_mem_singleton.mpr hc⟩
      exact agrees_digitsAt? hascii 16 s out
  · exact agrees_digitsAt? (List.forall_mem_singleton.mpr hsign) 10 s out

theorem wholeName_append (hrun : ∀ c ∈ run, isNameChar c) (hx : ∀ c ∈ x.head?, ¬ isNameChar c) :
    wholeName (run ++ x) = run ++ semicolon x := by
  rw [wholeName, takeWhile_append_stop hrun hx, List.drop_left]
  rfl

/-- The beginnings of a name are cut off by their numbers of characters. -/
theorem agrees_shorterNameAt? {name : List Char} (hascii : ∀ c ∈ name, c.toNat ≤ 0x7F)
    (hs : s = name ++ x) (out : List Char) (hn : n ≤ name.length) : Agrees s out
      ((longestBelow table name n).map fun (e, k) => (e.chars, s.drop k))
      (shorterNameAt? table name out n) := by
  induction n using longestBelow.induct table name with
  | case1 => exact .nothing
  | case2 => exact .nothing
  | case3 n e he =>
    have hlength : (name.take (n + 2)).length = n + 2 := List.length_take_of_le hn
    have hbeginning : ∀ c ∈ name.take (n + 2), c.toNat ≤ 0x7F :=
      fun c hc => hascii c (List.mem_of_mem_take hc)
    have hne : name.take (n + 2) ≠ [] := List.ne_nil_of_length_pos (by omega)
    have hcut : s = name.take (n + 2) ++ s.drop (n + 2) := by
      rw [← List.take_append_of_le_length hn, ← hs, List.take_append_drop]
    rw [longestBelow, he, shorterNameAt?, takeBytes?_of_ascii hascii hn]
    simp only [Option.map_some, Option.bind_eq_bind, Option.bind_some, he]
    exact .of_ascii hcut hne hbeginning (List.cons_ne_nil _ _) (by rw [hlength])
  | case4 n hnone ih =>
    rw [longestBelow, hnone, shorterNameAt?, takeBytes?_of_ascii hascii hn]
    simp only [Option.bind_eq_bind, Option.bind_some, hnone]
    exact ih (Nat.le_of_succ_le hn)

theorem agrees_nameAt? (table : List Char → Option Expansion) (s out : List Char) : Agrees s out
    ((named? table s).map fun (e, n) => (e.chars, s.drop n)) (nameAt? table s out) := by
  obtain ⟨run, x, rfl, hrun, hx⟩ := exists_run isNameChar s
  have hascii := toNat_le_of_mem_run hrun x
  have hlength := length_utf8_of_ascii (List.forall_mem_append.mp hascii).1
  have hname := length_utf8_of_ascii hascii
  have hs : run ++ x = run ++ semicolon x ++ withoutSemicolon x := by
    rw [List.append_assoc, semicolon_append]
  rw [named?_eq, nameAt?]
  simp only [takeWhile_utf8, takeWhile_append_stop hrun hx, wholeName_append hrun hx, hlength]
  by_cases hne : run = []
  · subst hne
    exact .nothing
  · have hcount : run.length ≠ 0 := fun h => hne (List.length_eq_zero_iff.mp h)
    have hcut : takeBytes? (run.length + semicolonBytes x) (run ++ x) =
        some (run ++ semicolon x) := by
      rw [hs]
      refine takeBytes?_append ?_ _
      rw [hname, List.length_append, semicolonBytes_eq]
    -- The run is not empty, so one can be taken from its length.
    have hpos : 1 ≤ (run ++ semicolon x).length := by
      rw [List.length_append]
      omega
    rw [if_neg hne, if_neg hcount, dropBytes?_append hlength]
    simp only [Option.bind_eq_bind, Option.bind_some, hcut, hname, Nat.psub_eq_sub hpos]
    cases he : table (run ++ semicolon x) with
    | some e =>
      have hdrop : (run ++ x).drop (run ++ semicolon x).length = withoutSemicolon x := by
        rw [hs, List.drop_left]
      simp only [Option.map_some, hdrop]
      exact .of_ascii hs (List.ne_nil_of_length_pos hpos) hascii (List.cons_ne_nil _ _) rfl
    | none =>
      exact agrees_shorterNameAt? hascii hs out ((Nat.min_le_left _ _).trans (Nat.sub_le _ _))

/-- A reference is read by offsets as it is read character by character. -/
theorem agrees_referenceAt? (table : List Char → Option Expansion) (s out : List Char) :
    Agrees s out (reference? table s) (referenceAt? table ('&' :: s) out) := by
  rw [referenceAt?, dropBytes?_ampersand]
  by_cases hs : s.head? = some '#'
  · obtain ⟨number, rfl⟩ := List.head?_eq_some_iff.mp hs
    exact agrees_numberAt? number out
  · rw [reference?_eq_map_named? hs]
    have hname := agrees_nameAt? table s out
    simp only [Option.bind_eq_bind, Option.bind_some]
    split
    · exact absurd rfl hs
    · exact hname

/-! ## Round by round -/

theorem resolve_append_of_not_mem : ∀ {before : List Char}, '&' ∉ before → ∀ s : List Char,
    resolve table (before ++ s) = before ++ resolve table s
  | [], _, _ => rfl
  | c :: before, h, s => by
    obtain ⟨hc, hbefore⟩ := not_or.mp (List.mem_cons.not.mp h)
    rw [List.cons_append, resolve_cons (Ne.symm hc), resolve_append_of_not_mem hbefore,
      List.cons_append]

theorem round?_of_not_mem (hs : '&' ∉ s) : round? table s out = some (.done (out ++ s)) := by
  rw [round?, ampersandAt?, if_neg hs]

/-- A round takes the ampersand and keeps what the whole output will be. -/
theorem exists_round (table : List Char → Option Expansion) {before : List Char}
    (hbefore : '&' ∉ before) (s out : List Char) :
    ∃ rest out', round? table (before ++ '&' :: s) out = some (.more rest out') ∧
      rest.length ≤ s.length ∧
      out' ++ resolve table rest = out ++ resolve table (before ++ '&' :: s) := by
  have hmem : '&' ∈ before ++ '&' :: s := List.mem_append_right before List.mem_cons_self
  have hfront : (before ++ '&' :: s).takeWhile (· != '&') = before := by
    refine takeWhile_append_stop (fun c hc => bne_iff_ne.mpr fun e => hbefore (e ▸ hc)) ?_
    rintro c ⟨⟩
    decide
  have hagrees := agrees_referenceAt? table s (out ++ before)
  rw [round?, ampersandAt?, if_pos hmem, hfront, resolve_append_of_not_mem hbefore]
  simp only [takeBytes?_append rfl, dropBytes?_append rfl, Option.bind_eq_bind, Option.bind_some]
  -- Whatever is found, the cut behind it is one that the agreement names.
  generalize hread : reference? table s = reading at hagrees
  generalize referenceAt? table ('&' :: s) (out ++ before) = found at hagrees ⊢
  cases hagrees with
  | nothing =>
    refine ⟨s, out ++ before ++ ['&'], ?_, Nat.le_refl _, ?_⟩
    · simp only [Option.bind_some, dropBytes?_ampersand]
    · rw [resolve_ampersand hread]
      simp
  | @read chars rest n _ _ _ hrest _ =>
    refine ⟨rest, out ++ before ++ chars, ?_, (reference?_suffix hread).length_le, ?_⟩
    · simp only [Option.bind_some, hrest]
    · rw [resolve_reference hread]
      simp

/-- The reader by offsets ends, with what is read character by character. By induction on the length
of the text, as each round takes an ampersand at least. -/
theorem ends (s out : List Char) : Ends table s out (out ++ resolve table s) := by
  induction hn : s.length using Nat.strongRecOn generalizing s out with
  | _ n ih =>
    by_cases hs : '&' ∈ s
    · obtain ⟨before, rest, rfl, hbefore⟩ := List.eq_append_cons_of_mem hs
      obtain ⟨rest', out', hround, hle, hout⟩ := exists_round table hbefore rest out
      rw [← hout]
      rw [List.length_append, List.length_cons] at hn
      exact .more hround (ih rest'.length (by omega) rest' out' rfl)
    · have hresolve : resolve table (s ++ []) = s ++ [] := resolve_append_of_not_mem hs []
      rw [List.append_nil] at hresolve
      rw [hresolve]
      exact .done (round?_of_not_mem hs)

/-! ## What is copied -/

/-- A part of a text that is read: a character that stands for itself, or an ampersand and a name
that stand for characters. -/
inductive Part where
  | plain (c : Char)
  | reference (name chars : List Char)

/-- The text of a part. -/
def Part.written : Part → List Char
  | .plain c => [c]
  | .reference name _ => '&' :: name

/-- What a part stands for. -/
def Part.read : Part → List Char
  | .plain c => [c]
  | .reference _ chars => chars

/-- A text is cut into parts: at each ampersand it is seen whether it begins a reference, and all
other characters stand for themselves. -/
inductive CutInto (table : List Char → Option Expansion) : List Char → List Part → Prop where
  | nil : CutInto table [] []
  | plain {c : Char} {s : List Char} {parts : List Part} (hc : c ≠ '&')
      (h : CutInto table s parts) : CutInto table (c :: s) (.plain c :: parts)
  | ampersand {s : List Char} {parts : List Part} (hnone : reference? table s = none)
      (h : CutInto table s parts) : CutInto table ('&' :: s) (.plain '&' :: parts)
  | reference {name chars s : List Char} {parts : List Part}
      (hread : reference? table (name ++ s) = some (chars, s)) (h : CutInto table s parts) :
      CutInto table ('&' :: (name ++ s)) (.reference name chars :: parts)

variable {parts : List Part}

theorem CutInto.flatMap_written (h : CutInto table s parts) : parts.flatMap Part.written = s := by
  induction h with
  | nil => rfl
  | plain _ _ ih => rw [List.flatMap_cons, ih]; rfl
  | ampersand _ _ ih => rw [List.flatMap_cons, ih]; rfl
  | reference _ _ ih => rw [List.flatMap_cons, ih]; rfl

theorem CutInto.flatMap_read (h : CutInto table s parts) :
    parts.flatMap Part.read = resolve table s := by
  induction h with
  | nil => rfl
  | plain hc _ ih => rw [List.flatMap_cons, ih, resolve_cons hc]; rfl
  | ampersand hnone _ ih => rw [List.flatMap_cons, ih, resolve_ampersand hnone]; rfl
  | reference hread _ ih => rw [List.flatMap_cons, ih, resolve_reference hread]; rfl

theorem exists_cutInto (table : List Char → Option Expansion) (s : List Char) :
    ∃ parts, CutInto table s parts := by
  induction hn : s.length using Nat.strongRecOn generalizing s with
  | _ n ih =>
    cases s with
    | nil => exact ⟨[], .nil⟩
    | cons c s =>
      rw [List.length_cons] at hn
      by_cases hc : c = '&'
      · subst hc
        cases hread : reference? table s with
        | none =>
          obtain ⟨parts, h⟩ := ih s.length (by omega) s rfl
          exact ⟨_, .ampersand hread h⟩
        | some found =>
          obtain ⟨chars, rest⟩ := found
          obtain ⟨name, rfl⟩ := reference?_suffix hread
          rw [List.length_append] at hn
          obtain ⟨parts, h⟩ := ih rest.length (by omega) rest rfl
          exact ⟨_, .reference hread h⟩
      · obtain ⟨parts, h⟩ := ih s.length (by omega) s rfl
        exact ⟨_, .plain hc h⟩

/-- Reading by offsets never fails. A reference is found behind an ampersand where one is read, and
then something is put out. And reading a whole text ends: with its references replaced by what they
stand for, and all other characters as they stand. -/
theorem resolve_byOffsets (table : List Char → Option Expansion) (s : List Char) :
    (∀ out, Agrees s out (reference? table s) (referenceAt? table ('&' :: s) out)) ∧
    ∃ parts, CutInto table s parts ∧ s = parts.flatMap Part.written ∧
      resolve table s = parts.flatMap Part.read ∧ Ends table s [] (parts.flatMap Part.read) := by
  obtain ⟨parts, hparts⟩ := exists_cutInto table s
  refine ⟨agrees_referenceAt? table s, parts, hparts, hparts.flatMap_written.symm,
    hparts.flatMap_read.symm, ?_⟩
  rw [hparts.flatMap_read]
  exact ends s []

example : referenceAt? standard ['&', 'n', 'o', 't', 'i', 't', ';', 'é'] ['x'] =
    some (some 4, ['x', '¬']) := by
  decide +kernel

end Hypertext.Reference

import Hypertext.Proofs.Reference.Resolve
import Hypertext.Proofs.Text.Bytes

/-!
# The longest name

A named reference is the longest beginning of what comes after the ampersand that is in the table
(`LongestName`), although only a few beginnings are looked up: the letters and digits with the
semicolon behind them, and then at most five short ones. This is so for every table of names as
they are written (`NamesOnly`), because a name that is none of these would either go on behind a
semicolon or be too long to do without one (`IsName.eq_wholeName_or_short`).

* `named?_some`, `named?_none`: what the search finds is the longest name, and it finds one if
  there is one.
* `namesOnly_standard`: the standard table is such a table.
* `reference?_longestName`: the reader of references takes the longest name as well.
-/

namespace Hypertext.Reference

variable {table : List Char → Option Expansion} {s name : List Char} {e : Expansion} {n k : Nat}

/-- A name as it is written: letters and digits with a semicolon, or two to six of them without. -/
inductive IsName : List Char → Prop where
  | terminated {run : List Char} (hne : run ≠ []) (hrun : ∀ c ∈ run, c.isAlphanum) :
    IsName (run ++ [';'])
  | short {run : List Char} (hrun : ∀ c ∈ run, c.isAlphanum) (htwo : 2 ≤ run.length)
    (hsix : run.length ≤ 6) : IsName run

/-- A table that has nothing but names. -/
def NamesOnly (table : List Char → Option Expansion) : Prop :=
  ∀ name, (table name).isSome → IsName name

/-- The longest beginning of `s` that is in the table, and what the table has for it. -/
structure LongestName (table : List Char → Option Expansion) (s name : List Char) (e : Expansion) :
    Prop where
  prefix_text : name <+: s
  expansion : table name = some e
  longest : ∀ other, other <+: s → (table other).isSome → other.length ≤ name.length

theorem LongestName.unique {name' : List Char} {e' : Expansion} (h : LongestName table s name e)
    (h' : LongestName table s name' e') : name = name' ∧ e = e' := by
  have hle := h.longest name' h'.prefix_text (Option.isSome_of_eq_some h'.expansion)
  have hge := h'.longest name h.prefix_text (Option.isSome_of_eq_some h.expansion)
  obtain rfl : name = name' :=
    (List.prefix_of_prefix_length_le h.prefix_text h'.prefix_text hge).eq_of_length_le hle
  exact ⟨rfl, Option.some.inj (h.expansion.symm.trans h'.expansion)⟩

/-! ## The names that are looked up -/

/-- The name that is looked up first: the letters and digits that `s` begins with, and a semicolon
if one comes next. -/
def wholeName (s : List Char) : List Char :=
  s.takeWhile isNameChar ++
    ((s.drop (s.takeWhile isNameChar).length).take 1).takeWhile (· == ';')

theorem named?_eq (table : List Char → Option Expansion) (s : List Char) : named? table s =
    if s.takeWhile isNameChar = [] then none
    else match table (wholeName s) with
      | some e => some (e, (wholeName s).length)
      | none => longestBelow table (wholeName s) (min ((wholeName s).length - 1) 6) := by
  rw [named?]
  simp only [List.isEmpty_iff]
  rfl

theorem wholeName_begins (s : List Char) : wholeName s <+: s := by
  have hsemicolon : ((s.drop (s.takeWhile isNameChar).length).take 1).takeWhile (· == ';') <+:
      s.drop (s.takeWhile isNameChar).length :=
    (List.takeWhile_prefix _).trans (List.take_prefix _ _)
  have hrun := List.prefix_iff_eq_append.mp (List.takeWhile_prefix (l := s) isNameChar)
  have hwhole := (List.prefix_append_right_inj (s.takeWhile isNameChar)).mpr hsemicolon
  rwa [hrun] at hwhole

/-- A name that a text begins with is the one that is looked up first, or a short beginning of
it. -/
theorem IsName.eq_wholeName_or_short (hname : IsName name) (h : name <+: s) : name = wholeName s ∨
    name <+: wholeName s ∧ 2 ≤ name.length ∧ name.length ≤ min ((wholeName s).length - 1) 6 := by
  cases hname with
  | @terminated run hne hrun =>
    obtain ⟨rest, rfl⟩ := h
    refine .inl ?_
    -- The semicolon ends the letters and digits of the text where it ends those of the name.
    have htake : (run ++ [';'] ++ rest).takeWhile isNameChar = run := by
      rw [List.append_assoc]
      refine takeWhile_append_stop hrun fun c hc => ?_
      obtain rfl : ';' = c := Option.some.inj hc
      decide
    rw [wholeName, htake, List.append_assoc, List.drop_left]
    rfl
  | short hrun htwo hsix =>
    obtain ⟨rest, rfl⟩ := h
    obtain ⟨more, hmore⟩ : name <+: wholeName (name ++ rest) := by
      have htake : (name ++ rest).takeWhile isNameChar = name ++ rest.takeWhile isNameChar :=
        List.takeWhile_append_of_pos hrun
      rw [wholeName, htake, List.append_assoc]
      exact List.prefix_append _ _
    -- Behind a name without a semicolon, the letters and digits of the text may go on.
    cases more with
    | nil => exact .inl ((List.append_nil name).symm.trans hmore)
    | cons c more =>
      refine .inr ⟨⟨c :: more, hmore⟩, htwo, le_min ?_ hsix⟩
      rw [← hmore, List.length_append, List.length_cons]
      omega

/-- A text that begins with a name begins with a letter or a digit. -/
theorem IsName.takeWhile_ne_nil (hname : IsName name) (h : name <+: s) :
    s.takeWhile isNameChar ≠ [] := by
  obtain ⟨c, rest, rfl, hc⟩ : ∃ c rest, name = c :: rest ∧ isNameChar c := by
    cases hname with
    | @terminated run hne hrun =>
      obtain ⟨c, run, rfl⟩ := List.exists_cons_of_ne_nil hne
      exact ⟨c, run ++ [';'], rfl, hrun c List.mem_cons_self⟩
    | short hrun htwo =>
      obtain ⟨c, run, rfl⟩ := List.exists_cons_of_length_pos (Nat.lt_of_lt_of_le Nat.two_pos htwo)
      exact ⟨c, run, rfl, hrun c List.mem_cons_self⟩
  obtain ⟨more, rfl⟩ := h
  rw [List.cons_append, List.takeWhile_cons_of_pos hc]
  exact List.cons_ne_nil _ _

/-! ## The search among short names -/

/-- What the search finds, and that it found nothing longer. -/
theorem longestBelow_some (h : longestBelow table name n = some (e, k)) : k ≤ n ∧
    table (name.take k) = some e ∧ ∀ j, k < j → j ≤ n → table (name.take j) = none := by
  induction n using longestBelow.induct table name with
  | case1 => cases h
  | case2 => cases h
  | case3 n e' he =>
    rw [longestBelow, he] at h
    cases h
    exact ⟨Nat.le_refl _, he, fun j hk hj => absurd hk (Nat.not_lt.mpr hj)⟩
  | case4 n hnone ih =>
    rw [longestBelow, hnone] at h
    obtain ⟨hk, he, hlonger⟩ := ih h
    refine ⟨Nat.le_succ_of_le hk, he, fun j hj hjn => ?_⟩
    rcases Nat.le_succ_iff.mp hjn with hjn | rfl
    · exact hlonger j hj hjn
    · exact hnone

theorem longestBelow_none (h : longestBelow table name n = none) :
    ∀ j, 2 ≤ j → j ≤ n → table (name.take j) = none := by
  induction n using longestBelow.induct table name with
  | case1 => intro j htwo hj; omega
  | case2 => intro j htwo hj; omega
  | case3 n e he =>
    rw [longestBelow, he] at h
    cases h
  | case4 n hnone ih =>
    rw [longestBelow, hnone] at h
    intro j htwo hjn
    rcases Nat.le_succ_iff.mp hjn with hjn | rfl
    · exact ih h j htwo hjn
    · exact hnone

/-! ## What is found -/

theorem take_wholeName (hk : k ≤ (wholeName s).length) : (wholeName s).take k = s.take k := by
  obtain ⟨rest, hs⟩ := wholeName_begins s
  rw [← List.take_append_of_le_length hk, hs]

/-- The name that is looked up first is the longest one, if it is in the table. -/
theorem longestName_wholeName (htable : NamesOnly table) (he : table (wholeName s) = some e) :
    LongestName table s (wholeName s) e where
  prefix_text := wholeName_begins s
  expansion := he
  longest other hother hin := by
    rcases (htable other hin).eq_wholeName_or_short hother with rfl | ⟨hshort, -, -⟩
    · exact Nat.le_refl _
    · exact hshort.length_le

/-- Otherwise the longest one is the short beginning that the search finds. -/
theorem longestName_short (htable : NamesOnly table) (hnone : table (wholeName s) = none)
    (h : longestBelow table (wholeName s) (min ((wholeName s).length - 1) 6) = some (e, k)) :
    LongestName table s (s.take k) e ∧ k ≤ s.length := by
  obtain ⟨hk, he, hlonger⟩ := longestBelow_some h
  have hwhole : k ≤ (wholeName s).length := by omega
  have hs : k ≤ s.length := hwhole.trans (wholeName_begins s).length_le
  refine ⟨⟨List.take_prefix k s, take_wholeName hwhole ▸ he, fun other hother hin => ?_⟩, hs⟩
  rw [List.length_take_of_le hs]
  rcases (htable other hin).eq_wholeName_or_short hother with rfl | ⟨hshort, -, hle⟩
  · rw [hnone] at hin
    cases hin
  · refine Nat.le_of_not_lt fun hlt => ?_
    rw [List.prefix_iff_eq_take.mp hshort, hlonger other.length hlt hle] at hin
    cases hin

theorem named?_some (htable : NamesOnly table) (h : named? table s = some (e, n)) :
    LongestName table s (s.take n) e ∧ n ≤ s.length := by
  rw [named?_eq] at h
  split at h
  · cases h
  split at h
  · next e' he =>
    cases h
    have hlongest := longestName_wholeName htable he
    rw [← take_wholeName (Nat.le_refl _), List.take_length]
    exact ⟨hlongest, hlongest.prefix_text.length_le⟩
  · next hnone => exact longestName_short htable hnone h

/-- If no name is found, there is none that the text begins with. -/
theorem named?_none (htable : NamesOnly table) (h : named? table s = none) :
    ∀ name, name <+: s → table name = none := by
  intro name hname
  rw [← Option.not_isSome_iff_eq_none]
  intro hin
  rw [named?_eq] at h
  have hcases := (htable name hin).eq_wholeName_or_short hname
  split at h
  · next hrun => exact (htable name hin).takeWhile_ne_nil hname hrun
  split at h
  · cases h
  · next hnone =>
    rcases hcases with rfl | ⟨hshort, htwo, hle⟩
    · rw [hnone] at hin
      cases hin
    · rw [List.prefix_iff_eq_take.mp hshort, longestBelow_none h name.length htwo hle] at hin
      cases hin

theorem named?_eq_some_iff (htable : NamesOnly table) :
    named? table s = some (e, n) ↔ ∃ name, LongestName table s name e ∧ name.length = n := by
  refine ⟨fun h => ?_, fun ⟨name, hlongest, hn⟩ => ?_⟩
  · obtain ⟨hlongest, hn⟩ := named?_some htable h
    exact ⟨_, hlongest, List.length_take_of_le hn⟩
  · cases h : named? table s with
    | none =>
      have hnone := named?_none htable h name hlongest.prefix_text
      rw [hlongest.expansion] at hnone
      cases hnone
    | some found =>
      obtain ⟨hfound, hle⟩ := named?_some htable h
      obtain ⟨rfl, rfl⟩ := hlongest.unique hfound
      rw [← hn, List.length_take_of_le hle]

theorem named?_eq_none_iff (htable : NamesOnly table) :
    named? table s = none ↔ ∀ name, name <+: s → table name = none := by
  refine ⟨named?_none htable, fun hnone => Option.eq_none_iff_forall_ne_some.mpr ?_⟩
  rintro ⟨e, n⟩ h
  have hlongest := (named?_some htable h).1
  exact Option.some_ne_none e (hlongest.expansion.symm.trans (hnone _ hlongest.prefix_text))

/-- Without a number sign, a reference is a named one. -/
theorem reference?_eq_map_named? (hs : s.head? ≠ some '#') :
    reference? table s = (named? table s).map fun (e, n) => (e.chars, s.drop n) := by
  unfold reference?
  split
  · exact absurd rfl hs
  · rfl

theorem reference?_eq_some_iff (htable : NamesOnly table) (hs : s.head? ≠ some '#')
    {chars rest : List Char} : reference? table s = some (chars, rest) ↔
      ∃ name e, LongestName table s name e ∧ chars = e.chars ∧ s = name ++ rest := by
  rw [reference?_eq_map_named? hs, Option.map_eq_some_iff]
  constructor
  · rintro ⟨⟨e, n⟩, h, hrest⟩
    obtain ⟨name, hlongest, rfl⟩ := (named?_eq_some_iff htable).mp h
    obtain ⟨rfl, rfl⟩ := Prod.mk.inj hrest
    exact ⟨name, e, hlongest, rfl, (List.prefix_iff_eq_append.mp hlongest.prefix_text).symm⟩
  · rintro ⟨name, e, hlongest, rfl, rfl⟩
    refine ⟨(e, name.length), (named?_eq_some_iff htable).mpr ⟨name, hlongest, rfl⟩, ?_⟩
    exact Prod.ext rfl List.drop_left

theorem reference?_eq_none_iff (htable : NamesOnly table) (hs : s.head? ≠ some '#') :
    reference? table s = none ↔ ∀ name, name <+: s → table name = none := by
  rw [reference?_eq_map_named? hs, Option.map_eq_none_iff, named?_eq_none_iff htable]

/-! ## The standard table -/

/-- Whether characters go on to the end of a name, behind `read` letters and digits. -/
def endsName (read : Nat) : List Char → Bool
  | [] => decide (2 ≤ read) && decide (read ≤ 6)
  | c :: rest => if c.isAlphanum then endsName (read + 1) rest
    else c == ';' && rest.isEmpty && decide (0 < read)

theorem isName_of_endsName : ∀ {rest run : List Char}, (∀ c ∈ run, c.isAlphanum) →
    endsName run.length rest → IsName (run ++ rest)
  | [], run, hrun, h => by
    simp only [endsName, Bool.and_eq_true, decide_eq_true_eq] at h
    rw [List.append_nil]
    exact .short hrun h.1 h.2
  | c :: rest, run, hrun, h => by
    rw [endsName] at h
    split at h
    · next hc =>
      have hlonger : ∀ d ∈ run ++ [c], d.isAlphanum := by
        intro d hd
        rcases List.mem_append.mp hd with hd | hd
        · exact hrun d hd
        · exact List.mem_singleton.mp hd ▸ hc
      have hread : endsName (run ++ [c]).length rest := by
        rwa [List.length_append, List.length_singleton]
      rw [← List.singleton_append, ← List.append_assoc]
      exact isName_of_endsName hlonger hread
    · simp only [Bool.and_eq_true, beq_iff_eq, List.isEmpty_iff, decide_eq_true_eq] at h
      obtain ⟨⟨rfl, rfl⟩, hpos⟩ := h
      exact .terminated (List.ne_nil_of_length_pos hpos) hrun

theorem toNat_le_of_isAlphanum {c : Char} (hc : c.isAlphanum) : c.toNat ≤ 0x7F := by
  change ((decide (c.val ≥ 'A'.val ∧ c.val ≤ 'Z'.val) ||
    (decide (c.val ≥ 'a'.val) && decide (c.val ≤ 'z'.val))) ||
    (decide (c.val ≥ '0'.val) && decide (c.val ≤ '9'.val))) = true at hc
  simp only [Bool.or_eq_true, Bool.and_eq_true, decide_eq_true_eq, UInt32.le_iff_toNat_le] at hc
  rcases hc with (⟨-, hc⟩ | ⟨-, hc⟩) | ⟨-, hc⟩ <;> exact Nat.le_trans hc (by decide)

/-- Names are written in ASCII. -/
theorem IsName.toNat_le (hname : IsName name) : ∀ c ∈ name, c.toNat ≤ 0x7F := by
  intro c hc
  cases hname with
  | terminated hne hrun =>
    rcases List.mem_append.mp hc with hc | hc
    · exact toNat_le_of_isAlphanum (hrun c hc)
    · obtain rfl := List.mem_singleton.mp hc
      decide
  | short hrun => exact toNat_le_of_isAlphanum (hrun c hc)

/-- The names of the standard table, read off their bytes. -/
theorem endsName_of_mem_namesWithInitial (initial : Char) :
    ∀ entry ∈ namesWithInitial initial,
      endsName 0 (entry.1.toByteArray.data.toList.map fun b => Char.ofNat b.toNat) := by
  unfold namesWithInitial
  split <;> decide +kernel

theorem namesOnly_standard : NamesOnly standard := by
  intro name hin
  cases name with
  | nil => cases hin
  | cons initial rest =>
    rw [standard, Option.isSome_map, Option.isSome_iff_exists] at hin
    obtain ⟨entry, hentry⟩ := hin
    have hname := endsName_of_mem_namesWithInitial initial entry (List.mem_of_find?_eq_some hentry)
    have hwritten := List.find?_some hentry
    rw [beq_iff_eq] at hwritten
    rw [hwritten, ← bytesOf_eq] at hname
    have hempty : ∀ c ∈ ([] : List Char), c.isAlphanum := fun c hc => absurd hc List.not_mem_nil
    have hread := isName_of_endsName hempty hname
    rw [List.nil_append] at hread
    -- The bytes read as characters are ASCII, so they are those of the name.
    have hascii : ∀ b ∈ bytesOf (String.ofList (initial :: rest)), b.toNat ≤ 0x7F := by
      intro b hb
      have hvalid : b.toNat.isValidChar := .inl (Nat.lt_trans b.toNat_lt (by decide))
      have hle := hread.toNat_le _ (List.mem_map_of_mem hb)
      rwa [toNat_charOfNat hvalid] at hle
    rwa [← toList_eq_map_bytesOf hascii, String.toList_ofList] at hread

/-! ## References with names -/

/-- An ampersand and the longest name behind it are read as what the name stands for. Where no name
comes behind an ampersand, nothing is read, and the ampersand stands for itself. -/
theorem reference?_longestName (htable : NamesOnly table) (hs : s.head? ≠ some '#') :
    (∀ chars rest, reference? table s = some (chars, rest) ↔
      ∃ name e, LongestName table s name e ∧ chars = e.chars ∧ s = name ++ rest) ∧
    (reference? table s = none ↔ ∀ name, name <+: s → table name = none) ∧
    (∀ name e rest, LongestName table s name e → s = name ++ rest →
      resolve table ('&' :: s) = e.chars ++ resolve table rest) ∧
    ((∀ name, name <+: s → table name = none) →
      resolve table ('&' :: s) = '&' :: resolve table s) :=
  ⟨fun _ _ => reference?_eq_some_iff htable hs, reference?_eq_none_iff htable hs,
    fun name e _ hlongest hrest =>
      resolve_reference ((reference?_eq_some_iff htable hs).mpr ⟨name, e, hlongest, rfl, hrest⟩),
    fun hnone => resolve_ampersand ((reference?_eq_none_iff htable hs).mpr hnone)⟩

/-- Of `notit;` the name `not` is read, as nothing longer is a name. -/
theorem reference?_notit : NamesOnly standard ∧ ['n', 'o', 't', 'i', 't', ';'].head? ≠ some '#' ∧
    (∃ e, LongestName standard ['n', 'o', 't', 'i', 't', ';'] ['n', 'o', 't'] e ∧
      e.chars = ['¬']) ∧
    resolve standard ['&', 'n', 'o', 't', 'i', 't', ';'] =
      '¬' :: resolve standard ['i', 't', ';'] := by
  have hhead : ['n', 'o', 't', 'i', 't', ';'].head? ≠ some '#' := by decide
  obtain ⟨hsome, -, hresolve, -⟩ := reference?_longestName namesOnly_standard hhead
  obtain ⟨name, e, hlongest, hchars, hrest⟩ := (hsome ['¬'] ['i', 't', ';']).mp (by decide +kernel)
  obtain rfl : ['n', 'o', 't'] = name :=
    List.append_cancel_right (show ['n', 'o', 't'] ++ ['i', 't', ';'] = _ from hrest)
  refine ⟨namesOnly_standard, hhead, ⟨e, hlongest, hchars.symm⟩, ?_⟩
  rw [hresolve _ e _ hlongest hrest, ← hchars]
  rfl

end Hypertext.Reference

import Hypertext.Text.Pattern

/-!
# Where a pattern fits

Which of several fits of a pattern is found is a matter of greed; whether one is found is not. A
text is a fit of a pattern if it can be cut up into what the pieces take, in order
(`Pattern.Matches`).

* `Pattern.isSome_split?`: a pattern fits to the beginning of a text if some beginning of the text
  is a fit;
* `Pattern.isSome_search?`: it is found in a text if some part of the text is a fit.
-/

namespace Hypertext

/-- How many characters may be taken. -/
def Count.Allows : Count → Nat → Prop
  | .one, n => n = 1
  | .optional, n => n ≤ 1
  | .any, _ => True
  | .some, n => 0 < n

/-- The piece may take these characters. -/
def Piece.Takes (piece : Piece) (taken : List Char) : Prop :=
  piece.count.Allows taken.length ∧ ∀ c ∈ taken, piece.accepts c

namespace Pattern

/-- The text can be cut up into what the pieces take, in order. -/
def Matches : Pattern → List Char → Prop
  | [], s => s = []
  | piece :: pieces, s => ∃ taken rest, s = taken ++ rest ∧ piece.Takes taken ∧ Matches pieces rest

variable {p q : Pattern} {s u v : List Char}

theorem matches_append : ∀ {p : Pattern} {s : List Char},
    (p ++ q).Matches s ↔ ∃ u v, s = u ++ v ∧ p.Matches u ∧ q.Matches v
  | [], s => by
    constructor
    · exact fun h => ⟨[], s, rfl, rfl, h⟩
    · rintro ⟨_, v, rfl, rfl, h⟩
      exact h
  | piece :: p, s => by
    rw [List.cons_append, Matches]
    constructor
    · rintro ⟨taken, rest, rfl, htakes, hrest⟩
      obtain ⟨u, v, rfl, hu, hv⟩ := matches_append.mp hrest
      exact ⟨taken ++ u, v, (List.append_assoc taken u v).symm, ⟨taken, u, rfl, htakes, hu⟩, hv⟩
    · rintro ⟨_, v, rfl, ⟨taken, u, rfl, htakes, hu⟩, hv⟩
      exact ⟨taken, u ++ v, List.append_assoc taken u v, htakes,
        matches_append.mpr ⟨u, v, rfl, hu, hv⟩⟩

theorem Matches.append (hu : p.Matches u) (hv : q.Matches v) : (p ++ q).Matches (u ++ v) :=
  matches_append.mpr ⟨u, v, rfl, hu, hv⟩

theorem matches_singleton {piece : Piece} : Matches [piece] s ↔ piece.Takes s := by
  constructor
  · rintro ⟨taken, _, rfl, htaken, rfl⟩
    rwa [List.append_nil]
  · exact fun h => ⟨s, [], (List.append_nil s).symm, h, rfl⟩

/-- What no piece accepts does not occur in a fit. -/
theorem Matches.forall_mem {P : Char → Prop} : ∀ {p : Pattern} {s : List Char}, p.Matches s →
    (∀ piece ∈ p, ∀ c, piece.accepts c → P c) → ∀ c ∈ s, P c
  | [], _, rfl, _, _, hc => by cases hc
  | piece :: p, _, ⟨taken, rest, rfl, htakes, hrest⟩, hp, c, hc => by
    rcases List.mem_append.mp hc with hc | hc
    · exact hp piece List.mem_cons_self c (htakes.2 c hc)
    · exact hrest.forall_mem (fun x hx => hp x (List.mem_cons_of_mem piece hx)) c hc

theorem Matches.ne {c : Char} (h : p.Matches s) (hp : ∀ piece ∈ p, piece.accepts c = false) :
    ∀ d ∈ s, d ≠ c :=
  h.forall_mem fun piece hpiece d hd e => by
    rw [e, hp piece hpiece] at hd
    cases hd

/-! ## At the beginning of a text -/

variable {α : Type} {accepts : Char → Bool} {next : List Char → Option α}

/-- A class goes on with `next` behind some of the characters that it accepts, if it can. -/
theorem isSome_greedy : ∀ {s : List Char}, (greedy accepts next s).isSome ↔
    ∃ taken rest, s = taken ++ rest ∧ (∀ c ∈ taken, accepts c) ∧ (next rest).isSome
  | [] => by
    rw [greedy]
    constructor
    · exact fun h => ⟨[], [], rfl, List.forall_mem_nil _, h⟩
    · rintro ⟨taken, rest, e, -, h⟩
      obtain ⟨-, rfl⟩ := List.append_eq_nil_iff.mp e.symm
      exact h
  | c :: s => by
    have hgreedy : (greedy accepts next (c :: s)).isSome ↔
        (accepts c ∧ (greedy accepts next s).isSome) ∨ (next (c :: s)).isSome := by
      rw [greedy]
      cases accepts c <;> cases greedy accepts next s <;> simp
    rw [hgreedy, isSome_greedy]
    constructor
    · rintro (⟨hc, taken, rest, rfl, htaken, h⟩ | h)
      · exact ⟨c :: taken, rest, rfl, List.forall_mem_cons.mpr ⟨hc, htaken⟩, h⟩
      · exact ⟨[], c :: s, rfl, List.forall_mem_nil _, h⟩
    · rintro ⟨_ | ⟨d, taken⟩, rest, e, htaken, h⟩
      · rw [List.nil_append] at e
        exact .inr (e ▸ h)
      · obtain ⟨rfl, rfl⟩ := List.cons.inj e
        obtain ⟨hc, htaken⟩ := List.forall_mem_cons.mp htaken
        exact .inl ⟨hc, taken, rest, rfl, htaken, h⟩

/-- A class takes one character, if it accepts it, and goes on with `next`. -/
def takeOne (accepts : Char → Bool) (next : List Char → Option α) : List Char → Option α
  | [] => none
  | c :: rest => if accepts c then next rest else none

theorem isSome_takeOne : ∀ {s : List Char}, (takeOne accepts next s).isSome ↔
    ∃ c rest, s = c :: rest ∧ accepts c ∧ (next rest).isSome
  | [] => by simp [takeOne]
  | c :: s => by
    rw [takeOne]
    constructor
    · intro h
      split at h
      · exact ⟨c, s, rfl, ‹_›, h⟩
      · cases h
    · rintro ⟨_, _, e, hc, h⟩
      obtain ⟨rfl, rfl⟩ := List.cons.inj e
      rw [if_pos hc]
      exact h

/-- How a pattern fits, by what its first piece may take. -/
theorem split?_cons (piece : Piece) (p : Pattern) (s : List Char) :
    split? (piece :: p) s =
      let next := fun after => if p.isEmpty then some (s, after) else p.split? after
      match piece.count with
      | .one => takeOne piece.accepts next s
      | .optional => (takeOne piece.accepts next s).or (next s)
      | .any => greedy piece.accepts next s
      | .some => takeOne piece.accepts (greedy piece.accepts next) s := by
  obtain ⟨count, accepts⟩ := piece
  cases count with
  | one | any | some => cases s <;> rfl
  | optional =>
    cases s with
    | nil => rfl
    | cons c rest =>
      simp only [split?, takeOne]
      -- The second try is made just when the first one gives nothing.
      generalize (if accepts c then _ else none : Option (List Char × List Char)) = first
      cases first <;> rfl

/-- A pattern fits if its first piece can take a beginning of the text such that the other pieces
fit behind it. -/
theorem isSome_split?_cons {piece : Piece} {p : Pattern} {s : List Char} :
    (split? (piece :: p) s).isSome ↔
      ∃ taken rest, s = taken ++ rest ∧ piece.Takes taken ∧ (p.split? rest).isSome := by
  obtain ⟨count, accepts⟩ := piece
  have hnext : ∀ after, (if p.isEmpty then some (s, after) else p.split? after).isSome ↔
      (p.split? after).isSome := by
    intro after
    cases p <;> simp [split?]
  rw [split?_cons]
  cases count with
  | one =>
    simp only [isSome_takeOne, hnext, Piece.Takes]
    constructor
    · rintro ⟨c, rest, rfl, hc, h⟩
      exact ⟨[c], rest, rfl, ⟨rfl, List.forall_mem_singleton.mpr hc⟩, h⟩
    · rintro ⟨taken, rest, rfl, ⟨hlength, htaken⟩, h⟩
      obtain ⟨c, rfl⟩ := List.length_eq_one_iff.mp hlength
      exact ⟨c, rest, rfl, htaken c List.mem_cons_self, h⟩
  | optional =>
    simp only [Option.isSome_or, Bool.or_eq_true, isSome_takeOne, hnext, Piece.Takes]
    constructor
    · rintro (⟨c, rest, rfl, hc, h⟩ | h)
      · exact ⟨[c], rest, rfl, ⟨Nat.le_refl 1, List.forall_mem_singleton.mpr hc⟩, h⟩
      · exact ⟨[], s, rfl, ⟨Nat.zero_le 1, List.forall_mem_nil _⟩, h⟩
    · rintro ⟨taken, rest, rfl, ⟨hlength, htaken⟩, h⟩
      rcases Nat.le_one_iff_eq_zero_or_eq_one.mp hlength with hlength | hlength
      · rw [List.length_eq_zero_iff.mp hlength]
        exact .inr h
      · obtain ⟨c, rfl⟩ := List.length_eq_one_iff.mp hlength
        exact .inl ⟨c, rest, rfl, htaken c List.mem_cons_self, h⟩
  | any =>
    simp only [isSome_greedy, hnext, Piece.Takes, Count.Allows, true_and]
  | some =>
    simp only [isSome_takeOne, isSome_greedy, hnext, Piece.Takes]
    constructor
    · rintro ⟨c, _, rfl, hc, taken, rest, rfl, htaken, h⟩
      exact ⟨c :: taken, rest, rfl, ⟨Nat.succ_pos _, List.forall_mem_cons.mpr ⟨hc, htaken⟩⟩, h⟩
    · rintro ⟨_ | ⟨c, taken⟩, rest, rfl, ⟨hlength, htaken⟩, h⟩
      · cases hlength
      · obtain ⟨hc, htaken⟩ := List.forall_mem_cons.mp htaken
        exact ⟨c, taken ++ rest, rfl, hc, taken, rest, rfl, htaken, h⟩

/-- A pattern fits to the beginning of a text if some beginning of the text is a fit. -/
theorem isSome_split? : ∀ {p : Pattern} {s : List Char},
    (p.split? s).isSome ↔ ∃ u v, s = u ++ v ∧ p.Matches u
  | [], s => by
    rw [split?]
    exact ⟨fun _ => ⟨[], s, rfl, rfl⟩, fun _ => rfl⟩
  | piece :: p, s => by
    rw [isSome_split?_cons]
    constructor
    · rintro ⟨taken, rest, rfl, htakes, h⟩
      obtain ⟨u, v, rfl, hu⟩ := isSome_split?.mp h
      exact ⟨taken ++ u, v, (List.append_assoc taken u v).symm, taken, u, rfl, htakes, hu⟩
    · rintro ⟨_, v, rfl, taken, u, rfl, htakes, hu⟩
      exact ⟨taken, u ++ v, List.append_assoc taken u v, htakes, isSome_split?.mpr ⟨u, v, rfl, hu⟩⟩

/-! ## Anywhere in a text -/

/-- A pattern is found in a text if some part of the text is a fit. -/
theorem isSome_search? : ∀ {s : List Char}, (p.search? s).isSome ↔
    ∃ before u after, s = before ++ u ++ after ∧ p.Matches u
  | [] => by
    rw [search?, fit?, Option.isSome_map, isSome_split?]
    constructor
    · rintro ⟨u, v, e, hu⟩
      exact ⟨[], u, v, e, hu⟩
    · rintro ⟨before, u, after, e, hu⟩
      obtain ⟨h, rfl⟩ := List.append_eq_nil_iff.mp e.symm
      obtain ⟨rfl, rfl⟩ := List.append_eq_nil_iff.mp h
      exact ⟨[], [], rfl, hu⟩
  | c :: s => by
    have hsearch : (p.search? (c :: s)).isSome ↔
        (p.split? (c :: s)).isSome ∨ (p.search? s).isSome := by
      rw [search?, fit?]
      cases p.split? (c :: s) <;> simp
    rw [hsearch, isSome_split?, isSome_search?]
    constructor
    · rintro (⟨u, v, e, hu⟩ | ⟨before, u, after, rfl, hu⟩)
      · exact ⟨[], u, v, e, hu⟩
      · exact ⟨c :: before, u, after, rfl, hu⟩
    · rintro ⟨_ | ⟨d, before⟩, u, after, e, hu⟩
      · exact .inl ⟨u, after, e, hu⟩
      · exact .inr ⟨before, u, after, (List.cons.inj e).2, hu⟩

end Pattern

end Hypertext

import Hypertext.Proofs.Text.Pattern

/-!
# Which fit is found

Of several fits of a pattern to a text, the one counts whose first piece takes most, among these the
one whose second piece takes most, and so on. So a fit is found if no piece of it could take more
(`Pattern.Fills`), or if the rest of the pattern would not fit where a piece takes more
(`Piece.andThen_eq_of_last`).
-/

namespace Hypertext

/-- Lets a piece take characters and goes on with `next`, in the order of preference. -/
def Piece.andThen {α : Type} (piece : Piece) (next : List Char → Option α) :
    List Char → Option α :=
  match piece.count with
  | .one => Pattern.takeOne piece.accepts next
  | .optional => fun s => (Pattern.takeOne piece.accepts next s).or (next s)
  | .any => Pattern.greedy piece.accepts next
  | .some => Pattern.takeOne piece.accepts (Pattern.greedy piece.accepts next)

namespace Pattern

variable {α : Type} {accepts : Char → Bool} {next : List Char → Option α} {piece : Piece}
  {p q : Pattern} {s u v taken rest : List Char}

theorem split?_cons_of_ne_nil (piece : Piece) (hp : p ≠ []) (s : List Char) :
    split? (piece :: p) s = piece.andThen p.split? s := by
  obtain ⟨count, accepts⟩ := piece
  have hempty : p.isEmpty = false := List.isEmpty_eq_false_iff.mpr hp
  rw [split?_cons, Piece.andThen, hempty]
  cases count <;> rfl

/-- The last piece is what is captured. -/
theorem split?_singleton (piece : Piece) (s : List Char) :
    split? [piece] s = piece.andThen (fun after => some (s, after)) s := by
  obtain ⟨count, accepts⟩ := piece
  rw [split?_cons, Piece.andThen]
  cases count <;> rfl

/-- A class takes as much as it can where `next` does not go on behind more of it. -/
theorem greedy_eq_of_last : ∀ {taken : List Char}, (∀ c ∈ taken, accepts c) → (next rest).isSome →
    (∀ more after, rest = more ++ after → more ≠ [] → (∀ c ∈ more, accepts c) →
      next after = none) →
    greedy accepts next (taken ++ rest) = next rest
  | [], _, hnext, hlast => by
    rw [List.nil_append]
    cases rest with
    | nil => rfl
    | cons c rest =>
      rw [greedy]
      split
      · next hc =>
        have hnone : greedy accepts next rest = none := by
          rw [← Option.not_isSome_iff_eq_none, isSome_greedy]
          rintro ⟨more, after, rfl, hmore, hafter⟩
          rw [hlast (c :: more) after rfl (List.cons_ne_nil _ _)
            (List.forall_mem_cons.mpr ⟨hc, hmore⟩)] at hafter
          cases hafter
        rw [hnone]
      · rfl
  | c :: taken, htaken, hnext, hlast => by
    obtain ⟨hc, htaken⟩ := List.forall_mem_cons.mp htaken
    obtain ⟨a, ha⟩ := Option.isSome_iff_exists.mp hnext
    rw [List.cons_append, greedy, if_pos hc, greedy_eq_of_last htaken hnext hlast, ha]

theorem takeOne_eq_of_cons {c : Char} (hc : accepts c) (s : List Char) :
    takeOne accepts next (c :: s) = next s :=
  if_pos hc

end Pattern

/-- A piece takes as much as it can where `next` does not go on behind more of it. -/
theorem Piece.andThen_eq_of_last {α : Type} {piece : Piece} {next : List Char → Option α}
    {taken rest : List Char} (htakes : piece.Takes taken) (hnext : (next rest).isSome)
    (hlast : ∀ more after, rest = more ++ after → more ≠ [] → piece.Takes (taken ++ more) →
      next after = none) :
    piece.andThen next (taken ++ rest) = next rest := by
  obtain ⟨count, accepts⟩ := piece
  obtain ⟨hcount, htaken⟩ := htakes
  cases count with
  | one =>
    obtain ⟨c, rfl⟩ := List.length_eq_one_iff.mp hcount
    exact Pattern.takeOne_eq_of_cons (htaken c List.mem_cons_self) rest
  | optional =>
    show (Pattern.takeOne accepts next (taken ++ rest)).or (next (taken ++ rest)) = next rest
    rcases Nat.le_one_iff_eq_zero_or_eq_one.mp hcount with hcount | hcount
    · obtain rfl := List.length_eq_zero_iff.mp hcount
      have hnone : Pattern.takeOne accepts next rest = none := by
        rw [← Option.not_isSome_iff_eq_none, Pattern.isSome_takeOne]
        rintro ⟨c, after, rfl, hc, hafter⟩
        rw [hlast [c] after rfl (List.cons_ne_nil _ _)
          ⟨Nat.le_refl 1, List.forall_mem_singleton.mpr hc⟩] at hafter
        cases hafter
      rw [List.nil_append, hnone, Option.none_or]
    · obtain ⟨c, rfl⟩ := List.length_eq_one_iff.mp hcount
      have hone : Pattern.takeOne accepts next ([c] ++ rest) = next rest :=
        Pattern.takeOne_eq_of_cons (htaken c List.mem_cons_self) rest
      rw [hone, Option.or_of_isSome hnext]
  | any =>
    exact Pattern.greedy_eq_of_last htaken hnext fun more after e hne hmore =>
      hlast more after e hne ⟨trivial, List.forall_mem_append.mpr ⟨htaken, hmore⟩⟩
  | some =>
    obtain ⟨c, taken, rfl⟩ := List.exists_cons_of_length_pos hcount
    obtain ⟨hc, htaken'⟩ := List.forall_mem_cons.mp htaken
    rw [List.cons_append]
    refine (Pattern.takeOne_eq_of_cons hc _).trans ?_
    refine Pattern.greedy_eq_of_last htaken' hnext fun more after e hne hmore =>
      hlast more after e hne ⟨Nat.succ_pos _, List.forall_mem_append.mpr ⟨htaken, hmore⟩⟩

/-- The piece takes these characters, and could not take one more of what follows. -/
structure Piece.TakesMost (piece : Piece) (taken rest : List Char) : Prop where
  takes : piece.Takes taken
  most : ∀ c ∈ rest.head?, ¬ piece.Takes (taken ++ [c])

theorem Piece.Takes.takesMost {piece : Piece} {taken rest : List Char} (h : piece.Takes taken)
    (hrest : ∀ c ∈ rest.head?, ¬ piece.accepts c) : piece.TakesMost taken rest :=
  ⟨h, fun c hc hmore =>
    hrest c hc (hmore.2 c (List.mem_append_right taken (List.mem_singleton_self c)))⟩

theorem Piece.TakesMost.not_takes {piece : Piece} {taken more after : List Char}
    (h : piece.TakesMost taken (more ++ after)) (hne : more ≠ []) :
    ¬ piece.Takes (taken ++ more) := by
  obtain ⟨c, more, rfl⟩ := List.exists_cons_of_ne_nil hne
  rintro ⟨hcount, hmore⟩
  refine h.most c rfl ⟨?_, fun d hd => hmore d ?_⟩
  · have hone := h.takes.1
    simp only [List.length_append, List.length_cons, List.length_nil] at hcount ⊢
    cases hpiece : piece.count <;> simp only [hpiece, Count.Allows] at hone hcount ⊢ <;> omega
  · exact ((List.prefix_append [c] more).sublist.append_left taken).mem hd

theorem Piece.andThen_eq {α : Type} {piece : Piece} {next : List Char → Option α}
    {taken rest : List Char} (h : piece.TakesMost taken rest) (hnext : (next rest).isSome) :
    piece.andThen next (taken ++ rest) = next rest :=
  Piece.andThen_eq_of_last h.takes hnext fun more after e hne hmore => by
    subst e
    exact absurd hmore (h.not_takes hne)

namespace Pattern

/-- The text can be cut up into what the pieces take, where none of them could take more. -/
def TakesMost : Pattern → List Char → List Char → Prop
  | [], s, _ => s = []
  | piece :: pieces, s, rest => ∃ taken more, s = taken ++ more ∧
      piece.TakesMost taken (more ++ rest) ∧ TakesMost pieces more rest

variable {p q : Pattern} {s u v taken rest : List Char}

theorem takesMost_singleton (h : piece.TakesMost taken rest) : TakesMost [piece] taken rest :=
  ⟨taken, [], (List.append_nil taken).symm, h, rfl⟩

theorem TakesMost.append : ∀ {p : Pattern} {u : List Char}, p.TakesMost u (v ++ rest) →
    q.TakesMost v rest → (p ++ q).TakesMost (u ++ v) rest
  | [], _, rfl, hv => hv
  | piece :: p, _, ⟨taken, more, rfl, htaken, hmore⟩, hv =>
    ⟨taken, more ++ v, List.append_assoc _ _ _, by rwa [List.append_assoc], hmore.append hv⟩

/-- Pieces of one character each take no more. -/
theorem Matches.takesMost : ∀ {p : Pattern} {u : List Char}, p.Matches u →
    (∀ piece ∈ p, piece.count = .one) → p.TakesMost u rest
  | [], _, h, _ => h
  | piece :: p, _, ⟨taken, more, rfl, htaken, hmore⟩, hone => by
    obtain ⟨hpiece, hone⟩ := List.forall_mem_cons.mp hone
    refine ⟨taken, more, rfl, ⟨htaken, fun c _ h => ?_⟩, hmore.takesMost hone⟩
    have hlength := htaken.1
    have hlonger := h.1
    rw [hpiece] at hlength hlonger
    simp only [Count.Allows, List.length_append, List.length_singleton] at hlength hlonger
    omega

/-- Where the first pieces take most, the others decide which fit is found. -/
theorem split?_append_of_takesMost (hq : q ≠ []) (hrest : (q.split? rest).isSome) :
    ∀ {p : Pattern} {u : List Char}, p.TakesMost u rest →
      (p ++ q).split? (u ++ rest) = q.split? rest
  | [], _, rfl => rfl
  | piece :: p, _, ⟨taken, more, rfl, htaken, hmore⟩ => by
    have hnext := split?_append_of_takesMost hq hrest hmore
    have hne : p ++ q ≠ [] := List.append_ne_nil_of_right_ne_nil p hq
    rw [List.cons_append, split?_cons_of_ne_nil piece hne, List.append_assoc,
      Piece.andThen_eq htaken (hnext ▸ hrest), hnext]

/-- What the last piece takes is captured. -/
theorem split?_of_takesMost (h : piece.TakesMost taken rest) :
    split? [piece] (taken ++ rest) = some (taken ++ rest, rest) := by
  rw [split?_singleton, Piece.andThen_eq h rfl]

theorem fit?_of_split? (h : p.split? s = some (taken ++ rest, rest)) : p.fit? s = some taken := by
  simp [fit?, h]

/-- Characters that no fit begins with are searched in vain. -/
theorem search?_append_of_rejected (hpiece : piece.count = .one) (s : List Char) :
    ∀ {q : List Char}, (∀ c ∈ q, ¬ piece.accepts c) →
      search? (piece :: p) (q ++ s) = search? (piece :: p) s
  | [], _ => rfl
  | c :: q, hq => by
    obtain ⟨hc, hq⟩ := List.forall_mem_cons.mp hq
    have hnone : fit? (piece :: p) (c :: (q ++ s)) = none := by
      simp [fit?, split?_cons, hpiece, takeOne, hc]
    rw [List.cons_append, search?, hnone]
    exact search?_append_of_rejected hpiece s hq

end Pattern

end Hypertext

import Hypertext.Output.Sink
import Hypertext.Proofs.Text.Bytes

/-!
# What a sink holds of a stream

A stream is what is written to a sink in all, whatever the writes that bring it. A sink that
cuts the write that crosses its limit keeps a first part of the stream (`Capacity.clip`), and
there are two states that it can be in: it `Holds` the stream, or the stream `Overflows` it and
it holds that first part.

* `Sink.Holds.write?`: a write to a sink that holds a stream appends a first part of the write,
  or it overflows the sink.
* `Sink.Overflows.write?`: an overflowing sink refuses every write that is not empty, so no
  later byte gets into it.
* `Output.bytesOf_text`: the stream of an output is that of its writes, one after another.
-/

namespace Hypertext

namespace Capacity

variable {c : Capacity} {stream : Bytes}

/-- Whether there is room for so many bytes. -/
def Admits : Capacity → Nat → Prop
  | .unlimited, _ => True
  | .cut limit, n => n ≤ limit
  | .whole limit, n => n ≤ limit

/-- The first part of a stream, as far as there is room for it. -/
def clip : Capacity → Bytes → Bytes
  | .unlimited, stream => stream
  | .cut limit, stream => stream.take limit
  | .whole limit, stream => stream.take limit

/-- Whether the write that crosses the limit is cut. -/
def Cuts (c : Capacity) : Prop :=
  ∀ limit, c ≠ .whole limit

theorem cuts_unlimited : unlimited.Cuts :=
  fun _ => nofun

theorem cuts_cut (limit : Nat) : (cut limit).Cuts :=
  fun _ => nofun

theorem admits_zero : ∀ c : Capacity, c.Admits 0
  | .unlimited => trivial
  | .cut limit => limit.zero_le
  | .whole limit => limit.zero_le

theorem Admits.mono {m n : Nat} (h : c.Admits n) (hmn : m ≤ n) : c.Admits m := by
  cases c with
  | unlimited => trivial
  | cut limit | whole limit => exact Nat.le_trans hmn h

/-- What has no room keeps its first part when more follows. -/
theorem clip_append (h : ¬ c.Admits stream.length) (more : Bytes) :
    c.clip (stream ++ more) = c.clip stream := by
  cases c with
  | unlimited => exact absurd trivial h
  | cut limit | whole limit =>
    exact List.take_append_of_le_length (Nat.le_of_not_le h)

end Capacity

namespace Sink

variable {s : Sink} {c : Capacity} {stream : Bytes}

/-- A sink that got a stream and had room for it. -/
structure Holds (s : Sink) (c : Capacity) (stream : Bytes) : Prop where
  capacity : s.capacity = c
  held : s.held.toList = stream
  room : c.Admits stream.length

/-- A sink that got a stream and had room for a first part only. -/
structure Overflows (s : Sink) (c : Capacity) (stream : Bytes) : Prop where
  capacity : s.capacity = c
  held : s.held.toList = c.clip stream
  short : ¬ c.Admits stream.length

theorem Holds.empty (c : Capacity) : Holds { capacity := c } c [] where
  capacity := rfl
  held := rfl
  room := c.admits_zero

theorem Overflows.append (h : s.Overflows c stream) (more : Bytes) :
    s.Overflows c (stream ++ more) where
  capacity := h.capacity
  held := h.held.trans (Capacity.clip_append h.short more).symm
  short := fun hroom => h.short (hroom.mono (by simp))

theorem Holds.size_held (h : s.Holds c stream) : s.held.size = stream.length := by
  rw [← h.held, Array.length_toList]

/-- A sink that cuts holds the first bytes of a stream, whether or not they are all. -/
theorem held_eq_take {limit : Nat}
    (h : s.Holds (.cut limit) stream ∨ s.Overflows (.cut limit) stream) :
    s.held.toList = stream.take limit := by
  rcases h with h | h
  · rw [h.held, List.take_of_length_le h.room]
  · exact h.held

/-- What a sink that cuts says to a write of `n` bytes: it takes a first part of them, or it is
full already. -/
theorem Holds.accepts (hc : c.Cuts) (h : s.Holds c stream) (n : Nat) :
    (s.accepts n = none ∧ 0 < n ∧ c = .cut stream.length) ∨
      ∃ k, s.accepts n = some k ∧ k ≤ n ∧ (0 < n → 0 < k) ∧ c.Admits (stream.length + k) := by
  cases c with
  | unlimited =>
    exact .inr ⟨n, by simp only [Sink.accepts, h.capacity], Nat.le_refl n, id, trivial⟩
  | cut limit =>
    have hroom : stream.length ≤ limit := h.room
    simp only [Sink.accepts, h.capacity, h.size_held, Capacity.Admits]
    by_cases hn : n = 0
    · exact .inr ⟨0, if_pos hn, n.zero_le, by omega, hroom⟩
    rw [if_neg hn]
    by_cases hfull : limit ≤ stream.length
    · exact .inl ⟨if_pos hfull, by omega, by rw [Nat.le_antisymm hroom hfull]⟩
    · exact .inr ⟨_, if_neg hfull, Nat.min_le_left .., by omega, by omega⟩
  | whole limit => exact absurd rfl (hc limit)

/-- One write to a sink that cuts: it takes a first part, or it is full already. -/
theorem Holds.write? (hc : c.Cuts) (h : s.Holds c stream) (bytes : Bytes) :
    (s.write? bytes = (s, none) ∧ s.Overflows c (stream ++ bytes)) ∨
      ∃ s' taken rest, s.write? bytes = (s', some rest) ∧ taken ++ rest = bytes ∧
        s'.Holds c (stream ++ taken) ∧ (bytes ≠ [] → rest.length < bytes.length) := by
  unfold Sink.write?
  obtain ⟨hnone, hn, rfl⟩ | ⟨k, hsome, hk, hpos, hroom⟩ := h.accepts hc bytes.length
  · refine .inl ⟨by rw [hnone], h.capacity, ?_, ?_⟩
    · rw [h.held, Capacity.clip, List.take_left]
    · simp only [Capacity.Admits, List.length_append]
      omega
  · refine .inr ⟨⟨s.capacity, s.held ++ bytes.take k⟩, bytes.take k, bytes.drop k, by rw [hsome],
      List.take_append_drop k bytes, ⟨h.capacity, by rw [Array.toList_appendList, h.held], ?_⟩,
      fun hb => ?_⟩
    · rwa [List.length_append, List.length_take, Nat.min_eq_left hk]
    · have := hpos (List.length_pos_iff.2 hb)
      rw [List.length_drop]
      omega

/-- A sink without room refuses what is not empty. -/
theorem Overflows.write? (h : s.Overflows c stream) {bytes : Bytes} (hb : bytes ≠ []) :
    s.write? bytes = (s, none) := by
  have hpos := List.length_pos_iff.2 hb
  have hshort := h.short
  have hsize : s.held.size = (c.clip stream).length := by rw [← h.held, Array.length_toList]
  have hnone : s.accepts bytes.length = none := by
    cases c with
    | unlimited => exact absurd trivial hshort
    | cut limit | whole limit =>
      simp only [Capacity.Admits, Capacity.clip, List.length_take] at hshort hsize
      simp only [accepts, h.capacity]
      grind
  simp only [Sink.write?, hnone]

end Sink

/-! ## The stream of an output -/

namespace Output

theorem bytesOf_foldl : ∀ (writes : List String) (s : String),
    bytesOf (writes.foldl (· ++ ·) s) = bytesOf s ++ writes.flatMap bytesOf
  | [], s => (List.append_nil _).symm
  | text :: writes, s => by
    rw [List.foldl_cons, bytesOf_foldl writes, bytesOf_append, List.flatMap_cons,
      List.append_assoc]

/-- The bytes of everything that was written are those of the writes in order. -/
theorem bytesOf_text (o : Output) : bytesOf o.text = o.writes.toList.flatMap bytesOf := by
  rw [text, ← Array.foldl_toList, bytesOf_foldl, bytesOf_eq]
  rfl

end Output

end Hypertext

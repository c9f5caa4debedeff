import Hypertext.Output.Buffer
import Hypertext.Proofs.Output.Sink
import Hypertext.Proofs.Writer.Layout

/-!
# A buffer passes on one stream

A buffer `Carries` a stream when its sink holds a first part of it and the rest is pending. What
is done to a buffer either keeps that, for the stream with what is written behind it, or leaves
a sink that this stream overflows (`Buffer.Passed`).

* `Buffer.Carries.flush`: emptying a buffer. `Buffer.flush_overflows`: emptying it once more
  adds nothing to a sink without room.
* `Buffer.Carries.write?`: one write, the only place where the size of the buffer counts.
* `Output.buffered_sent`: whatever the writes and wherever the buffer is emptied between them, the
  sink ends up with the bytes of the output as far as it has room.
* `layout_buffered`: so it is for every layout, and for layouts these bytes are known.
-/

namespace Hypertext

namespace Buffer

variable {b : Buffer} {c : Capacity} {stream : Bytes}

/-- A buffer through which a stream goes: a first part is in the sink, and the rest is pending. -/
def Carries (b : Buffer) (c : Capacity) (stream : Bytes) : Prop :=
  ∃ sent, b.sink.Holds c sent ∧ sent ++ b.pending.toList = stream

/-- What passing on a stream comes to. -/
def Passed (c : Capacity) (stream : Bytes) : Buffer × Bool → Prop
  | (b, true) => b.Carries c stream
  | (b, false) => b.sink.Overflows c stream

theorem Carries.empty {s : Sink} (h : s.Holds c stream) : Carries ⟨s, #[]⟩ c stream :=
  ⟨stream, h, List.append_nil _⟩

/-- With nothing pending the stream is in the sink. -/
theorem Carries.holds (h : b.Carries c stream) (hp : b.pending = #[]) :
    b.sink.Holds c stream := by
  obtain ⟨sent, hsent, rfl⟩ := h
  simpa only [hp, List.append_nil] using hsent

/-- A buffer takes what it has space for. -/
theorem Carries.push (h : b.Carries c stream) (bytes : Bytes) :
    Carries ⟨b.sink, b.pending ++ bytes⟩ c (stream ++ bytes) := by
  obtain ⟨sent, hsent, rfl⟩ := h
  exact ⟨sent, hsent, by rw [Array.toList_appendList, List.append_assoc]⟩

/-! ## Emptying -/

theorem pending_flushWithin (fuel : Nat) (h : (b.flushWithin fuel).2 = true) :
    (b.flushWithin fuel).1.pending = #[] := by
  induction fuel generalizing b with
  | zero => exact Array.isEmpty_iff.1 h
  | succ fuel ih =>
    rw [flushWithin] at h ⊢
    split at h
    · rwa [if_pos ‹_›, ← Array.isEmpty_iff]
    · rw [if_neg ‹_›]
      cases hw : b.sink.write? b.pending.toList with
      | mk s rest =>
        cases rest with
        | none => simp only [hw, Bool.false_eq_true] at h
        | some rest =>
          rw [hw] at h
          exact ih h

theorem Carries.flushWithin (hc : c.Cuts) {fuel : Nat} (h : b.Carries c stream)
    (hfuel : b.pending.size ≤ fuel) : Passed c stream (b.flushWithin fuel) := by
  induction fuel generalizing b with
  | zero =>
    have hp : b.pending = #[] := Array.eq_empty_of_size_eq_zero (Nat.le_zero.1 hfuel)
    rw [Buffer.flushWithin, hp]
    exact h
  | succ fuel ih =>
    rw [Buffer.flushWithin]
    split
    · exact h
    have hp : b.pending.toList ≠ [] := by
      rwa [ne_eq, Array.toList_eq_nil_iff, ← Array.isEmpty_iff]
    obtain ⟨sent, hsent, hstream⟩ := h
    obtain ⟨hw, hfull⟩ | ⟨s, taken, rest, hw, hpending, hs, hlt⟩ :=
      hsent.write? hc b.pending.toList
    · rw [hw, ← hstream]
      exact hfull
    · rw [hw]
      have hcarries : Carries ⟨s, rest.toArray⟩ c stream :=
        ⟨sent ++ taken, hs, by rw [List.append_assoc, hpending, hstream]⟩
      -- The sink took a part of what was pending, so less fuel is enough for the rest.
      have hrest : rest.length < b.pending.size := by
        simpa only [Array.length_toList] using hlt hp
      refine ih hcarries ?_
      rw [List.size_toArray]
      omega

/-- Emptying a buffer. -/
theorem Carries.flush (hc : c.Cuts) (h : b.Carries c stream) : Passed c stream b.flush :=
  h.flushWithin hc (Nat.le_refl _)

theorem pending_flush (h : b.flush.2 = true) : b.flush.1.pending = #[] :=
  pending_flushWithin _ h

/-- Emptying a buffer once more adds nothing to a sink without room. -/
theorem flush_overflows (h : b.sink.Overflows c stream) :
    b.flush.1.sink.Overflows c stream := by
  rw [Buffer.flush]
  cases hsize : b.pending.size with
  | zero => exact h
  | succ fuel =>
    have hp : b.pending.toList ≠ [] := by
      rw [ne_eq, Array.toList_eq_nil_iff, ← Array.size_eq_zero_iff]
      omega
    rw [Buffer.flushWithin, h.write? hp]
    split <;> exact h

/-! ## Writing -/

/-- What one write comes to: a first part of it is taken and carried on, or the sink has no room
for what came so far and the write. -/
def Taken (c : Capacity) (stream bytes : Bytes) : Buffer × Option Bytes → Prop
  | (b, some rest) => ∃ taken, taken ++ rest = bytes ∧ b.Carries c (stream ++ taken) ∧
      (bytes ≠ [] → rest.length < bytes.length)
  | (b, none) => b.sink.Overflows c (stream ++ bytes)

theorem Carries.taken (h : b.Carries c stream) (bytes : Bytes) :
    Taken c stream bytes (⟨b.sink, b.pending ++ bytes⟩, some []) :=
  ⟨bytes, List.append_nil _, h.push bytes, List.length_pos_iff.2⟩

/-- A write past an empty buffer goes to the sink. -/
theorem Carries.write?_sink (hc : c.Cuts) (h : b.Carries c stream) (hp : b.pending = #[])
    (bytes : Bytes) : Taken c stream bytes
      (⟨(b.sink.write? bytes).1, b.pending⟩, (b.sink.write? bytes).2) := by
  obtain ⟨hw, hfull⟩ | ⟨s, taken, rest, hw, hbytes, hs, hlt⟩ := (h.holds hp).write? hc bytes
  · rw [hw]
    exact hfull
  · rw [hw, hp]
    exact ⟨taken, hbytes, .empty hs, hlt⟩

/-- One write to a buffer. -/
theorem Carries.write? (hc : c.Cuts) (h : b.Carries c stream) (bytes : Bytes) :
    Taken c stream bytes (b.write? bytes) := by
  rw [Buffer.write?]
  split
  · exact h.taken bytes
  generalize hs : (if size < b.pending.size + bytes.length then b.flush else (b, true)) = space
  have hspace : Passed c stream space := by
    rw [← hs]
    split
    · exact h.flush hc
    · exact h
  -- Nothing is pending in front of a large write: the buffer has been emptied, or it was empty
  -- because a write of its size would just have fitted.
  have hpending (hlarge : size ≤ bytes.length) : space.2 = true → space.1.pending = #[] := by
    rw [← hs]
    split
    · exact pending_flush
    · exact fun _ => Array.eq_empty_of_size_eq_zero (show b.pending.size = 0 by omega)
  obtain ⟨b', emptied⟩ := space
  cases emptied with
  | false => exact Sink.Overflows.append hspace bytes
  | true =>
    by_cases hlarge : size ≤ bytes.length
    · simpa only [Bool.not_true, Bool.false_eq_true, if_false, if_pos hlarge] using
        Carries.write?_sink hc hspace (hpending hlarge rfl) bytes
    · simpa only [Bool.not_true, Bool.false_eq_true, if_false, if_neg hlarge] using
        Carries.taken hspace bytes

theorem Carries.writeAllWithin (hc : c.Cuts) {fuel : Nat} {bytes : Bytes}
    (h : b.Carries c stream) (hfuel : bytes.length ≤ fuel) :
    Passed c (stream ++ bytes) (b.writeAllWithin fuel bytes) := by
  induction fuel generalizing b stream bytes with
  | zero =>
    obtain rfl := List.eq_nil_of_length_eq_zero (Nat.le_zero.1 hfuel)
    rw [List.append_nil]
    exact h
  | succ fuel ih =>
    rw [Buffer.writeAllWithin]
    by_cases hb : bytes = []
    · rw [if_pos (by rw [hb]; rfl), hb, List.append_nil]
      exact h
    rw [if_neg (by rwa [List.isEmpty_iff])]
    have hw := h.write? hc bytes
    generalize b.write? bytes = written at hw
    obtain ⟨b', _ | rest⟩ := written
    · exact hw
    · obtain ⟨taken, rfl, hcarries, hlt⟩ := hw
      have hrest := hlt hb
      rw [← List.append_assoc]
      exact ih hcarries (by omega)

/-- A text that is written whole, in several rounds if need be. -/
theorem Carries.writeAll (hc : c.Cuts) (h : b.Carries c stream) (bytes : Bytes) :
    Passed c (stream ++ bytes) (b.writeAll bytes) :=
  h.writeAllWithin hc (Nat.le_refl _)

/-- Texts in order, by induction on them. -/
theorem Carries.writeTexts (hc : c.Cuts) {texts : List String} (h : b.Carries c stream) :
    Passed c (stream ++ texts.flatMap bytesOf) (b.writeTexts texts) := by
  induction texts generalizing b stream with
  | nil =>
    rw [List.flatMap_nil, List.append_nil]
    exact h
  | cons text texts ih =>
    rw [Buffer.writeTexts, List.flatMap_cons, ← List.append_assoc]
    have hw := h.writeAll hc (bytesOf text)
    generalize b.writeAll (bytesOf text) = written at hw
    obtain ⟨b', _ | _⟩ := written
    · exact Sink.Overflows.append hw _
    · exact ih hw

end Buffer

/-! ## A whole run -/

namespace Output

variable {c : Capacity}

/-- What sending an output somewhere comes to: the sink holds all of it and its own fate is
reported, or it overflows the sink, and that is reported or the fault behind it. -/
def Sent (o : Output) (c : Capacity) (run : Sink × Except WriteError Unit) : Prop :=
  run.1.Holds c (bytesOf o.text) ∧ run.2 = o.report true ∨
    run.1.Overflows c (bytesOf o.text) ∧
      (run.2 = .error .sinkFull ∨ ∃ f, o.fault = some f ∧ run.2 = .error (.fault f))

theorem buffered_sent (hc : c.Cuts) (o : Output) : o.Sent c (o.buffered { capacity := c }) := by
  have hw : Buffer.Passed c ([] ++ o.writes.toList.flatMap bytesOf)
      (Buffer.writeTexts ⟨{ capacity := c }, #[]⟩ o.writes.toList) :=
    (Buffer.Carries.empty (Sink.Holds.empty c)).writeTexts hc
  rw [List.nil_append, ← o.bytesOf_text] at hw
  rw [buffered]
  generalize Buffer.writeTexts ⟨{ capacity := c }, #[]⟩ o.writes.toList = written at hw
  obtain ⟨b, _ | _⟩ := written
  · exact .inr ⟨Buffer.flush_overflows hw, .inl rfl⟩
  have hflush := Buffer.Carries.flush hc hw
  have hpending := @Buffer.pending_flush b
  dsimp only
  generalize b.flush = emptied at hflush hpending ⊢
  obtain ⟨b', _ | _⟩ := emptied
  · cases hf : o.fault with
    | some f => exact .inr ⟨hflush, .inr ⟨f, hf, rfl⟩⟩
    | none => exact .inr ⟨Buffer.flush_overflows hflush, .inl rfl⟩
  · have hholds := Buffer.Carries.holds hflush (hpending rfl)
    cases hf : o.fault with
    | some f => exact .inl ⟨hholds, by simp only [report, hf]⟩
    | none => exact .inl ⟨hholds, by simp only [report, hf]⟩

/-- A sink that has room for the whole output gets it, and the output's own fate is reported. -/
theorem buffered_of_room (hc : c.Cuts) {o : Output} (h : c.Admits (bytesOf o.text).length) :
    (o.buffered { capacity := c }).1.held.toList = bytesOf o.text ∧
      (o.buffered { capacity := c }).2 = o.report true := by
  obtain ⟨hholds, hresult⟩ | ⟨hfull, -⟩ := o.buffered_sent hc
  · exact ⟨hholds.held, hresult⟩
  · exact absurd h hfull.short

/-- A sink that takes everything has room. -/
theorem buffered_unlimited (o : Output) :
    (o.buffered { capacity := .unlimited }).1.held.toList = bytesOf o.text ∧
      (o.buffered { capacity := .unlimited }).2 = o.report true :=
  buffered_of_room Capacity.cuts_unlimited trivial

/-- A sink that cuts gets the first bytes up to its limit. -/
theorem held_buffered_cut (o : Output) (limit : Nat) :
    (o.buffered { capacity := .cut limit }).1.held.toList = (bytesOf o.text).take limit :=
  Sink.held_eq_take ((o.buffered_sent (Capacity.cuts_cut limit)).imp And.left And.left)

theorem report_none {o : Output} (h : o.fault = none) : o.report true = .ok () := by
  simp only [report, h]

theorem report_some {o : Output} {f : Fault} (h : o.fault = some f) :
    o.report true = .error (.fault f) := by
  simp only [report, h]

theorem report_eq_ok_iff (o : Output) : o.report true = .ok () ↔ o.fault = none := by
  cases hf : o.fault <;> simp [report, hf]

/-- What is reported when there is room. -/
theorem buffered_cut_of_le {o : Output} {limit : Nat} (h : (bytesOf o.text).length ≤ limit) :
    (o.buffered { capacity := .cut limit }).2 = o.report true :=
  (buffered_of_room (Capacity.cuts_cut limit) h).2

/-- What is reported when there is no room for the end. -/
theorem buffered_cut_of_lt {o : Output} {limit : Nat} (h : limit < (bytesOf o.text).length) :
    (o.buffered { capacity := .cut limit }).2 = .error .sinkFull ∨
      ∃ f, o.fault = some f ∧ (o.buffered { capacity := .cut limit }).2 = .error (.fault f) := by
  obtain ⟨hholds, -⟩ | ⟨-, hresult⟩ := o.buffered_sent (Capacity.cuts_cut limit)
  · exact absurd hholds.room (Nat.not_le.2 h)
  · exact hresult

/-- No other output than one without fault that fits is reported as sent. -/
theorem buffered_cut_eq_ok (o : Output) (limit : Nat) :
    (o.buffered { capacity := .cut limit }).2 = .ok () ↔
      o.fault = none ∧ (bytesOf o.text).length ≤ limit := by
  refine ⟨fun hok => ?_, fun ⟨hf, hroom⟩ => (buffered_cut_of_le hroom).trans (report_none hf)⟩
  by_cases hroom : (bytesOf o.text).length ≤ limit
  · rw [buffered_cut_of_le hroom] at hok
    cases hf : o.fault with
    | none => exact ⟨rfl, hroom⟩
    | some f => rw [report_some hf] at hok; cases hok
  · obtain hfull | ⟨f, -, hresult⟩ := buffered_cut_of_lt (Nat.lt_of_not_le hroom)
    · rw [hfull] at hok; cases hok
    · rw [hresult] at hok; cases hok

end Output

/-- The layout of a node of a tree that can be built, sent through the buffer to a sink that cuts
at a limit. The bytes that a sink without limit gets are those of the recursive layout up to its
fault, and the limited sink gets the first of them. What is reported is the fate of the layout if
they all fit; otherwise that the sink is full, or the fault. -/
theorem layout_buffered {t : Tree} (ht : t.Reachable) (o : LayoutOptions) (id : NodeId)
    (limit : Nat) :
    let fault := (layoutOf o (t.shape id)).fault
    let whole := (t.layout o id).buffered { capacity := .unlimited }
    let part := (t.layout o id).buffered { capacity := .cut limit }
    let bytes := whole.1.held.toList
    bytes = bytesOf (String.ofList (layoutOf o (t.shape id)).text) ∧
    (fault = none → whole.2 = .ok ()) ∧
    (∀ f, fault = some f → whole.2 = .error (.fault f)) ∧
    part.1.held.toList = bytes.take limit ∧
    (part.2 = .ok () ↔ fault = none ∧ bytes.length ≤ limit) ∧
    (∀ f, fault = some f → bytes.length ≤ limit → part.2 = .error (.fault f)) ∧
    (fault = none → limit < bytes.length → part.2 = .error .sinkFull) ∧
    (∀ f, fault = some f → limit < bytes.length →
      part.2 = .error .sinkFull ∨ part.2 = .error (.fault f)) := by
  intro fault whole part bytes
  have hpassage := ht.linked.layout_passage o id
  have hfault : (t.layout o id).fault = fault := congrArg Passage.fault hpassage
  obtain ⟨hbytes, hwhole⟩ := (t.layout o id).buffered_unlimited
  have hle (h : bytes.length ≤ limit) : part.2 = (t.layout o id).report true :=
    Output.buffered_cut_of_le (by rwa [← hbytes])
  have hlt (h : limit < bytes.length) :
      part.2 = .error .sinkFull ∨ ∃ f, fault = some f ∧ part.2 = .error (.fault f) :=
    hfault ▸ Output.buffered_cut_of_lt (by rwa [← hbytes])
  refine ⟨?_, fun h => ?_, fun f h => ?_, ?_, ?_, fun f h hroom => ?_, fun h hover => ?_,
    fun f h hover => ?_⟩
  · rw [← hpassage, ← Output.text_eq]
    exact hbytes
  · exact hwhole.trans (Output.report_none (hfault.trans h))
  · exact hwhole.trans (Output.report_some (hfault.trans h))
  · exact (Output.held_buffered_cut _ limit).trans (by rw [← hbytes])
  · rw [Output.buffered_cut_eq_ok, hfault, ← hbytes]
  · exact (hle hroom).trans (Output.report_some (hfault.trans h))
  · obtain hfull | ⟨f, hf, -⟩ := hlt hover
    · exact hfull
    · rw [h] at hf
      cases hf
  · obtain hfull | ⟨f', hf, hresult⟩ := hlt hover
    · exact .inl hfull
    · rw [h] at hf
      cases hf
      exact .inr hresult

/-- A list that a sink of sixteen bytes cuts in front of its text. -/
theorem layout_buffered_shortList : shortList.Reachable ∧
    ((shortList.layout {} Tree.root).buffered { capacity := .cut 16 }).1.held.toList =
      bytesOf "<ul>\n  <li>\n    " ∧
    ((shortList.layout {} Tree.root).buffered { capacity := .cut 16 }).2 = .error .sinkFull := by
  have hr : shortList.Reachable := ⟨.document, _, rfl⟩
  obtain ⟨hbytes, -, -, hheld, -, -, hfull, -⟩ := layout_buffered hr {} Tree.root 16
  rw [hbytes, bytesOf_eq] at hheld hfull
  refine ⟨hr, hheld.trans ?_, hfull ?_ ?_⟩
  · rw [bytesOf_eq]
    decide +kernel
  · decide +kernel
  · decide +kernel

end Hypertext

import Hypertext.Proofs.Output.Sink

/-!
# Writes sent straight to a sink

Without a buffer each text goes to the sink by itself, so what a limited sink holds at the end
depends on its kind.

* `Output.into_sent`: a sink that cuts gets the first bytes up to its limit. Whether they are all is
  decided before the fault of the output is: a fault is reported only by a writer whose texts have
  all been taken.
* `Output.into_whole`: a sink that takes texts whole or not at all gets the longest first part of
  them that fits (`LongestFit`). A later text is not taken, even if there is room for it.
-/

namespace Hypertext

/-! ## Texts whole or not at all -/

/-- A first part of texts that has so much room, and there is no longer one that has. -/
structure LongestFit (room : Nat) (texts taken : List String) : Prop where
  first : taken <+: texts
  fits : (taken.flatMap bytesOf).length ≤ room
  longest : ∀ {more : List String}, more <+: texts → (more.flatMap bytesOf).length ≤ room →
    more <+: taken

namespace LongestFit

variable {room : Nat} {text : String} {texts taken : List String}

theorem nil (room : Nat) : LongestFit room [] [] where
  first := List.nil_prefix
  fits := room.zero_le
  longest h _ := h

/-- A text that has no room ends the part. -/
theorem refused (h : room < (bytesOf text).length) (texts : List String) :
    LongestFit room (text :: texts) [] where
  first := List.nil_prefix
  fits := room.zero_le
  longest {more} hmore hle := by
    rcases List.prefix_cons_iff.mp hmore with rfl | ⟨rest, rfl, -⟩
    · exact List.nil_prefix
    · rw [List.flatMap_cons, List.length_append] at hle
      omega

/-- A text that has room leaves the rest of it to the texts behind. -/
theorem cons (h : (bytesOf text).length ≤ room)
    (hrest : LongestFit (room - (bytesOf text).length) texts taken) :
    LongestFit room (text :: texts) (text :: taken) where
  first := (List.prefix_cons_inj text).mpr hrest.first
  fits := by
    have hfits := hrest.fits
    rw [List.flatMap_cons, List.length_append]
    omega
  longest {more} hmore hle := by
    rcases List.prefix_cons_iff.mp hmore with rfl | ⟨rest, rfl, hprefix⟩
    · exact List.nil_prefix
    · rw [List.flatMap_cons, List.length_append] at hle
      exact (List.prefix_cons_inj text).mpr (hrest.longest hprefix (by omega))

/-- There is only one longest part. -/
theorem unique {taken' : List String} (h : LongestFit room texts taken)
    (h' : LongestFit room texts taken') : taken = taken' :=
  (h'.longest h.first h.fits).eq_of_length_le (h.longest h'.first h'.fits).length_le

end LongestFit

namespace Sink

variable {s : Sink} {c : Capacity} {stream : Bytes} {limit : Nat}

/-- What writing to a sink comes to: it holds the stream, or the stream overflows it. -/
def Passed (c : Capacity) (stream : Bytes) : Sink × Bool → Prop
  | (s, true) => s.Holds c stream
  | (s, false) => s.Overflows c stream

theorem Holds.writeAllWithin (hc : c.Cuts) {fuel : Nat} {bytes : Bytes} (h : s.Holds c stream)
    (hfuel : bytes.length ≤ fuel) : Passed c (stream ++ bytes) (writeAllWithin fuel s bytes) := by
  induction fuel generalizing s stream bytes with
  | zero =>
    obtain rfl := List.eq_nil_of_length_eq_zero (Nat.le_zero.1 hfuel)
    rw [List.append_nil]
    exact h
  | succ fuel ih =>
    rw [Sink.writeAllWithin]
    by_cases hb : bytes = []
    · rw [if_pos (by rw [hb]; rfl), hb, List.append_nil]
      exact h
    rw [if_neg (by rwa [List.isEmpty_iff])]
    obtain ⟨hw, hfull⟩ | ⟨s', taken, rest, hw, rfl, hs, hlt⟩ := h.write? hc bytes
    · rw [hw]
      exact hfull
    · have hrest := hlt hb
      rw [hw, ← List.append_assoc]
      exact ih hs (by omega)

/-- Texts in order to a sink that cuts, by induction on them. -/
theorem Holds.writeTexts (hc : c.Cuts) {texts : List String} (h : s.Holds c stream) :
    Passed c (stream ++ texts.flatMap bytesOf) (s.writeTexts texts) := by
  induction texts generalizing s stream with
  | nil =>
    rw [List.flatMap_nil, List.append_nil]
    exact h
  | cons text texts ih =>
    rw [Sink.writeTexts, List.flatMap_cons, ← List.append_assoc]
    have hw : Passed c (stream ++ bytesOf text) (s.writeAll (bytesOf text)) :=
      h.writeAllWithin hc (Nat.le_refl _)
    generalize s.writeAll (bytesOf text) = written at hw
    obtain ⟨s', _ | _⟩ := written
    · exact hw.append _
    · exact ih hw

/-- A text that a sink takes at one go. -/
theorem writeAll_taken {bytes : Bytes} (h : s.accepts bytes.length = some bytes.length)
    (hb : bytes ≠ []) : s.writeAll bytes = (⟨s.capacity, s.held ++ bytes⟩, true) := by
  have hnil : ∀ fuel s', Sink.writeAllWithin fuel s' [] = (s', true) := fun fuel s' => by
    cases fuel <;> rfl
  obtain ⟨fuel, hfuel⟩ := Nat.exists_eq_add_of_lt (List.length_pos_iff.mpr hb)
  have hw : s.write? bytes = (⟨s.capacity, s.held ++ bytes⟩, some []) := by
    simp only [write?, h, List.take_length, List.drop_length]
  rw [writeAll, hfuel, Nat.zero_add, Sink.writeAllWithin, if_neg (by rwa [List.isEmpty_iff]), hw]
  exact hnil fuel _

/-- A text that a sink refuses. -/
theorem writeAll_refused {bytes : Bytes} (h : s.accepts bytes.length = none) (hb : bytes ≠ []) :
    s.writeAll bytes = (s, false) := by
  obtain ⟨fuel, hfuel⟩ := Nat.exists_eq_add_of_lt (List.length_pos_iff.mpr hb)
  have hw : s.write? bytes = (s, none) := by
    simp only [write?, h]
  rw [writeAll, hfuel, Nat.zero_add, Sink.writeAllWithin, if_neg (by rwa [List.isEmpty_iff]), hw]

/-- A sink that cuts no text takes one for which there is room. -/
theorem Holds.writeAll_of_le (h : s.Holds (.whole limit) stream) {bytes : Bytes}
    (hroom : (stream ++ bytes).length ≤ limit) :
    (s.writeAll bytes).1.Holds (.whole limit) (stream ++ bytes) ∧ (s.writeAll bytes).2 = true := by
  by_cases hb : bytes = []
  · rw [hb, List.append_nil]
    exact ⟨h, rfl⟩
  have haccepts : s.accepts bytes.length = some bytes.length := by
    rw [List.length_append] at hroom
    simp only [Sink.accepts, h.capacity, h.size_held, if_pos hroom]
  rw [writeAll_taken haccepts hb]
  exact ⟨⟨h.capacity, by rw [Array.toList_appendList, h.held], hroom⟩, rfl⟩

/-- It refuses any other, and is left as it was. -/
theorem Holds.writeAll_of_lt (h : s.Holds (.whole limit) stream) {bytes : Bytes}
    (hroom : limit < (stream ++ bytes).length) : s.writeAll bytes = (s, false) := by
  have hle : stream.length ≤ limit := h.room
  rw [List.length_append] at hroom
  refine writeAll_refused ?_ (List.length_pos_iff.mp (by omega))
  simp only [Sink.accepts, h.capacity, h.size_held, if_neg (Nat.not_le.mpr hroom)]

/-- Texts in order to a sink that cuts no text, by induction on them. -/
theorem Holds.writeTexts_whole (h : s.Holds (.whole limit) stream) (texts : List String) :
    ∃ taken, LongestFit (limit - stream.length) texts taken ∧
      (s.writeTexts texts).1.Holds (.whole limit) (stream ++ taken.flatMap bytesOf) ∧
      (s.writeTexts texts).2 = decide (taken = texts) := by
  induction texts generalizing s stream with
  | nil =>
    refine ⟨[], .nil _, ?_, (decide_eq_true rfl).symm⟩
    rw [List.flatMap_nil, List.append_nil]
    exact h
  | cons text texts ih =>
    have hle : stream.length ≤ limit := h.room
    have hlength : (stream ++ bytesOf text).length = stream.length + (bytesOf text).length :=
      List.length_append
    rw [Sink.writeTexts]
    by_cases hroom : (stream ++ bytesOf text).length ≤ limit
    · obtain ⟨hholds, htaken⟩ := h.writeAll_of_le hroom
      generalize s.writeAll (bytesOf text) = written at hholds htaken
      obtain ⟨s', _ | _⟩ := written
      · cases htaken
      obtain ⟨taken, hfit, hrest, hall⟩ := ih hholds
      rw [hlength, ← Nat.sub_sub] at hfit
      refine ⟨text :: taken, hfit.cons (by omega), ?_, ?_⟩
      · rw [List.flatMap_cons, ← List.append_assoc]
        exact hrest
      · simp only [List.cons_inj_right]
        exact hall
    · rw [h.writeAll_of_lt (Nat.not_le.mp hroom)]
      refine ⟨[], .refused (by omega) texts, ?_, (decide_eq_false (List.cons_ne_nil _ _).symm).symm⟩
      rw [List.flatMap_nil, List.append_nil]
      exact h

end Sink

namespace Output

variable {c : Capacity}

/-- An output sent straight to a sink that cuts: the sink holds all of it and its own fate is
reported, or the output overflows it and that is reported. -/
theorem into_sent (hc : c.Cuts) (o : Output) :
    ((o.into { capacity := c }).1.Holds c (bytesOf o.text) ∧
      (o.into { capacity := c }).2 = o.report true) ∨
    ((o.into { capacity := c }).1.Overflows c (bytesOf o.text) ∧
      (o.into { capacity := c }).2 = .error .sinkFull) := by
  have hw : Sink.Passed c ([] ++ o.writes.toList.flatMap bytesOf)
      (Sink.writeTexts { capacity := c } o.writes.toList) := (Sink.Holds.empty c).writeTexts hc
  rw [List.nil_append, ← o.bytesOf_text] at hw
  rw [into]
  generalize Sink.writeTexts { capacity := c } o.writes.toList = written at hw
  obtain ⟨s, _ | _⟩ := written
  · exact .inr ⟨hw, rfl⟩
  · exact .inl ⟨hw, rfl⟩

/-- A sink that takes everything gets the whole output, and the output's own fate is reported. -/
theorem into_unlimited (o : Output) :
    (o.into { capacity := .unlimited }).1.held.toList = bytesOf o.text ∧
      (o.into { capacity := .unlimited }).2 = o.report true := by
  obtain ⟨hholds, hresult⟩ | ⟨hfull, -⟩ := o.into_sent Capacity.cuts_unlimited
  · exact ⟨hholds.held, hresult⟩
  · exact absurd trivial hfull.short

/-- A sink that cuts gets the first bytes up to its limit. -/
theorem held_into_cut (o : Output) (limit : Nat) :
    (o.into { capacity := .cut limit }).1.held.toList = (bytesOf o.text).take limit :=
  Sink.held_eq_take ((o.into_sent (Capacity.cuts_cut limit)).imp And.left And.left)

/-- What is reported depends on whether there is room for everything. -/
theorem result_into_cut (o : Output) (limit : Nat) :
    (o.into { capacity := .cut limit }).2 =
      o.report (decide ((bytesOf o.text).length ≤ limit)) := by
  obtain ⟨hholds, hresult⟩ | ⟨hfull, hresult⟩ := o.into_sent (Capacity.cuts_cut limit)
  · rw [hresult, decide_eq_true (show _ ≤ limit from hholds.room)]
  · rw [hresult, decide_eq_false (show ¬ _ ≤ limit from hfull.short)]
    rfl

/-- A sink that cuts no text gets the longest first part of them that fits, and what is reported
depends on whether these are all. -/
theorem into_whole (o : Output) (limit : Nat) :
    ∃ taken, LongestFit limit o.writes.toList taken ∧
      (o.into { capacity := .whole limit }).1.held.toList = taken.flatMap bytesOf ∧
      (o.into { capacity := .whole limit }).2 = o.report (decide (taken = o.writes.toList)) := by
  obtain ⟨taken, hfit, hholds, hall⟩ :=
    (Sink.Holds.empty (.whole limit)).writeTexts_whole o.writes.toList
  exact ⟨taken, hfit, hholds.held, congrArg o.report hall⟩

/-- That the sink is full is reported just when not everything was taken. -/
theorem report_eq_sinkFull (o : Output) (taken : Bool) :
    o.report taken = .error .sinkFull ↔ taken = false := by
  cases taken with
  | false => exact iff_of_true rfl rfl
  | true => cases hf : o.fault <;> simp [report, hf]

/-- Without a fault, success is reported just when everything was taken. -/
theorem report_eq_ok {o : Output} (h : o.fault = none) (taken : Bool) :
    o.report taken = .ok () ↔ taken = true := by
  cases taken <;> simp [report, h]

end Output

end Hypertext

import Hypertext.Proofs.Output.Buffer
import Hypertext.Proofs.Writer.Literal
import Hypertext.Proofs.Writer.Outcome

/-!
# The flag for the beginning of a line

The writer of layouts keeps a flag with its page and decides by it. The page is `Page.Truthful` if the
flag is set just when nothing has been written or the last byte is that of a newline, in whatever
pieces the bytes have come. All that the writer does to a page are writes one after another, also
where it writes markup into a layout, so every page that it comes to is truthful
(`Layout.becomes_comes`, `Page.Becomes.truthful`).

* `Output.Ended.sent`: an output with its last line ended, sent to a sink with room for that.
* `layout_lineStart`: the flag throughout a layout, and what it means for the end of the last line.
-/

namespace Hypertext

/-! ## The flag and the last byte -/

/-- Whether a line begins behind some more bytes, if the flag says so of what is before them. -/
def beginsBehind (flag : Bool) (bytes : Bytes) : Bool :=
  match bytes.getLast? with
  | none => flag
  | some byte => byte == 10

/-- It does not matter in which pieces the bytes come. -/
theorem foldl_beginsBehind : ∀ (pieces : List Bytes) (flag : Bool),
    pieces.foldl beginsBehind flag = beginsBehind flag pieces.flatten
  | [], _ => rfl
  | bytes :: pieces, flag => by
    rw [List.foldl_cons, foldl_beginsBehind pieces, List.flatten_cons]
    simp only [beginsBehind, List.getLast?_append]
    cases pieces.flatten.getLast? <;> rfl

/-- Nothing stands on the last line yet. -/
def AtLineStart (bytes : Bytes) : Prop :=
  bytes = [] ∨ bytes.getLast? = some 10

instance (bytes : Bytes) : Decidable (AtLineStart bytes) :=
  inferInstanceAs (Decidable (_ ∨ _))

theorem beginsBehind_true (bytes : Bytes) : beginsBehind true bytes = true ↔ AtLineStart bytes := by
  rw [beginsBehind, AtLineStart, ← List.getLast?_eq_none_iff]
  cases bytes.getLast? <;> simp

theorem lineBegins_iff (text : List Char) :
    lineBegins text = true ↔ AtLineStart (bytesOf (String.ofList text)) := by
  rw [AtLineStart, bytesOf_eq_nil, getLast?_bytesOf, String.toList_ofList, lineBegins]
  rcases List.eq_nil_or_concat text with rfl | ⟨text, c, rfl⟩ <;> simp

/-- The bytes of a text with its last line ended. -/
theorem bytesOf_lineEnded (text : List Char) :
    bytesOf (String.ofList (lineEnded text)) = bytesOf (String.ofList text) ++
      if AtLineStart (bytesOf (String.ofList text)) then [] else [10] := by
  rw [lineEnded]
  by_cases h : lineBegins text
  · rw [if_pos h, if_pos ((lineBegins_iff text).mp h), List.append_nil]
  · rw [if_neg h, if_neg (mt (lineBegins_iff text).mpr h), String.ofList_append, bytesOf_append,
      bytesOf_eq_flatMap (String.ofList ['\n']), String.toList_ofList]
    rfl

namespace Page

variable {p q : Page} {text : List Char}

/-- The bytes of a page. -/
def bytes (p : Page) : Bytes :=
  p.writes.toList.flatMap bytesOf

/-- The flag of a page tells whether a line begins. -/
structure Truthful (p : Page) : Prop where
  flag : p.atLineStart = true ↔ AtLineStart p.bytes
  /-- So it is however the bytes have come in pieces. -/
  pieces : ∀ pieces : List Bytes, pieces.flatten = p.bytes →
    pieces.foldl beginsBehind true = p.atLineStart

theorem Shows.bytes_eq (h : p.Shows text) : p.bytes = bytesOf (String.ofList text) := by
  have htext := Output.text_eq (p.output none)
  rw [h.passage none] at htext
  rw [← htext, Output.bytesOf_text]
  rfl

theorem Shows.truthful (h : p.Shows text) : p.Truthful := by
  have hflag : p.atLineStart = true ↔ AtLineStart p.bytes := by
    rw [h.2, lineBegins_iff, h.bytes_eq]
  refine ⟨hflag, fun pieces hpieces => ?_⟩
  rw [foldl_beginsBehind, hpieces, Bool.eq_iff_iff, beginsBehind_true, hflag]

/-- The flag is truthful on every page that comes from the empty one by writes. -/
theorem Becomes.truthful (h : Becomes {} p) : p.Truthful := by
  obtain ⟨more, hs⟩ := h.continues [] Shows.start
  exact hs.truthful

end Page

/-! ## Throughout a layout -/

namespace Layout

variable {t : Tree} {o : LayoutOptions} {tasks pending taken left : List Task} {p : Page}

/-- The writer comes to no page but by writes. -/
theorem becomes_comes (h : (loop t o).Comes tasks {} pending p) :
    Page.Becomes {} p := by
  refine h.invariant (P := Page.Becomes {}) (fun x p tasks q hround hp => ?_) (.refl {})
  have hwrite := becomes_write t o x p
  rw [(Loop.writing_next hround).1] at hwrite
  exact hp.trans hwrite

/-- Throughout the writes for a task the flag is truthful. -/
theorem truthful_write (hp : Page.Becomes {} p) (task : Task) : ∃ writes,
    (task.write t o p).1 = p.writeAll writes ∧ ∀ n, (p.writeAll (writes.take n)).Truthful := by
  obtain ⟨writes, hwrites⟩ := becomes_write t o task p
  exact ⟨writes, hwrites, fun n => (hp.trans (.writeAll p _)).truthful⟩

/-- The page that the writer ends with comes from the empty one by writes. -/
theorem becomes_ends {fault : Option Fault}
    (hends : (loop t o).Ends tasks {} taken left (p, fault)) : Page.Becomes {} p := by
  obtain ⟨pending, q, hcomes, ⟨-, hp⟩ | ⟨x, rest, tasks, -, hround⟩⟩ := hends.exists_comes
  · cases hp
    exact becomes_comes hcomes
  · obtain ⟨f, -, hresult⟩ := Loop.writing_stop hround
    cases hresult
    exact (becomes_comes hcomes).trans (becomes_write t o x q)

end Layout

/-! ## With the last line ended -/

namespace Output

/-- The output `ended` is `plain` with its last line ended: it has the same fault, and one byte more
if there is no fault and something stands on the last line. -/
structure Ended (plain ended : Output) : Prop where
  fault : ended.fault = plain.fault
  bytes : bytesOf ended.text = bytesOf plain.text ++
    if plain.fault = none ∧ ¬ AtLineStart (bytesOf plain.text) then [10] else []

variable {plain ended : Output} {c : Capacity}

theorem Ended.length_le (h : plain.Ended ended) :
    (bytesOf ended.text).length ≤ (bytesOf plain.text).length + 1 := by
  rw [h.bytes, List.length_append]
  split <;> simp

/-- Sent to a sink with room for one byte more, both fail alike and with the same bytes, and else
there is one newline more, unless the output is empty or ends with a newline. -/
theorem Ended.sent (h : plain.Ended ended) (hc : c.Cuts)
    (hroom : c.Admits ((bytesOf plain.text).length + 1)) :
    let sent := plain.buffered { capacity := c }
    let sentEnded := ended.buffered { capacity := c }
    let bytes := sent.1.held.toList
    bytes = bytesOf plain.text ∧ sentEnded.2 = sent.2 ∧
    (∀ error, sent.2 = .error error → sentEnded.1.held.toList = bytes) ∧
    (sent.2 = .ok () →
      sentEnded.1.held.toList = bytes ++ if AtLineStart bytes then [] else [10]) := by
  intro sent sentEnded bytes
  obtain ⟨hheld, hresult⟩ := buffered_of_room hc (hroom.mono (Nat.le_succ _))
  obtain ⟨hheld', hresult'⟩ := buffered_of_room hc (hroom.mono h.length_le)
  refine ⟨hheld, ?_, fun error herror => ?_, fun hok => ?_⟩
  · rw [hresult, hresult']
    simp only [report, h.fault]
  · have hf : plain.fault ≠ none := fun hf => by
      rw [hresult, report_none hf] at herror
      cases herror
    rw [hheld', h.bytes, if_neg fun hcond => hf hcond.1, List.append_nil]
    exact hheld.symm
  · have hf : plain.fault = none := by
      rwa [hresult, report_eq_ok_iff] at hok
    rw [hheld', h.bytes, show bytes = bytesOf plain.text from hheld]
    by_cases hstart : AtLineStart (bytesOf plain.text)
    · rw [if_neg fun hcond => hcond.2 hstart, if_pos hstart]
    · rw [if_pos ⟨hf, hstart⟩, if_neg hstart]

end Output

theorem layoutOf_ended (level width : UInt64) (r : Rose Content) :
    layoutOf { level, width, trailingNewline := true } r =
      (layoutOf { level, width } r).andThen fun text => ⟨lineEnded text, none⟩ := by
  let plain : LayoutOptions := { level, width }
  let ended : LayoutOptions := { level, width, trailingNewline := true }
  have hsame : laidOut ended level.toNat r = laidOut plain level.toNat r :=
    laidOut_congr (show ended.width = plain.width from rfl) r rfl
  rw [layoutOf_plain, layoutOf, hsame]
  rfl

/-- A layout with its last line ended, against the layout without that. -/
theorem Tree.Linked.layout_ended {t : Tree} {kids : NodeId → List NodeId} (h : t.Linked kids)
    (level width : UInt64) (id : NodeId) : (t.layout { level, width } id).Ended
      (t.layout { level, width, trailingNewline := true } id) := by
  have hended := (h.layout_passage { level, width, trailingNewline := true } id).trans
    (layoutOf_ended level width (t.shape id))
  rw [← h.layout_passage] at hended
  generalize t.layout { level, width } id = plain at hended ⊢
  generalize t.layout { level, width, trailingNewline := true } id = ended at hended ⊢
  refine ⟨(congrArg Passage.fault hended).trans (Passage.fault_andThen_mk _ _), ?_⟩
  rw [Output.text_eq ended, hended, Output.text_eq plain]
  cases hf : plain.fault with
  | none =>
    rw [Passage.andThen_none hf, bytesOf_lineEnded]
    by_cases hstart : AtLineStart (bytesOf (String.ofList plain.passage.text)) <;> simp [hstart]
  | some f =>
    rw [Passage.andThen_some hf]
    simp

/-- In every state that the writer of a layout comes to, and behind every single write for the task
that it takes next, the flag tells whether a line begins: it is set if nothing has been written or
the last byte is that of a newline. So a layout whose last line is ended fails as the layout does
without that, with the same bytes, and else it has one newline more, unless the layout is empty or
ends with a newline. The sink must have room for that byte. -/
theorem layout_lineStart {t : Tree} (ht : t.Reachable) (o : LayoutOptions) (id : NodeId) :
    (∃ taken left p fault, (Layout.loop t o).Ends [.node id o.level] {} taken left (p, fault) ∧
      t.layout o id = (if fault = none ∧ o.trailingNewline then p.endLine else p).output fault ∧
      p.Truthful ∧ p.endLine.Truthful) ∧
    (∀ pending p, (Layout.loop t o).Comes [.node id o.level] {} pending p → p.Truthful ∧
      ∀ task ∈ pending.head?, ∃ writes, (task.write t o p).1 = p.writeAll writes ∧
        ∀ n, (p.writeAll (writes.take n)).Truthful) ∧
    let plain := t.layout { o with trailingNewline := false } id
    let ended := t.layout { o with trailingNewline := true } id
    ∀ c : Capacity, c.Cuts → c.Admits ((bytesOf plain.text).length + 1) →
      let sent := plain.buffered { capacity := c }
      let sentEnded := ended.buffered { capacity := c }
      let bytes := sent.1.held.toList
      bytes = bytesOf plain.text ∧ sentEnded.2 = sent.2 ∧
      (∀ error, sent.2 = .error error → sentEnded.1.held.toList = bytes) ∧
      (sent.2 = .ok () →
        sentEnded.1.held.toList = bytes ++ if AtLineStart bytes then [] else [10]) := by
  have h := ht.linked
  refine ⟨?_, fun pending p hcomes => ?_,
    fun c hc hroom => (h.layout_ended o.level o.width id).sent hc hroom⟩
  · obtain ⟨taken, left, p, fault, hends, hlayout, -⟩ := Layout.exists_ends h o id
    have hp := Layout.becomes_ends hends
    exact ⟨taken, left, p, fault, hends, hlayout, hp.truthful, (hp.trans (.endLine p)).truthful⟩
  · have hp := Layout.becomes_comes hcomes
    exact ⟨hp.truthful, fun task _ => Layout.truthful_write hp task⟩

/-- The short list gets a newline at its end, and the unfinished page fails as it does without. -/
theorem layout_lineStart_pages : shortList.Reachable ∧ unfinishedPage.Reachable ∧
    ((shortList.layout { trailingNewline := true } Tree.root).buffered
      { capacity := .unlimited }).2 = .ok () ∧
    ((shortList.layout { trailingNewline := true } Tree.root).buffered
      { capacity := .unlimited }).1.held.toList =
        bytesOf "<ul>\n  <li>\n    a &lt; b\n  </li>\n</ul>\n" ∧
    ((unfinishedPage.layout { trailingNewline := true } Tree.root).buffered
      { capacity := .unlimited }).2 = .error (.fault .errorNode) ∧
    ((unfinishedPage.layout { trailingNewline := true } Tree.root).buffered
      { capacity := .unlimited }).1.held.toList =
        bytesOf "<img alt=\"a\"><script><b>x</b></script>" := by
  have hlist : shortList.Reachable := ⟨_, _, rfl⟩
  have hpage : unfinishedPage.Reachable := ⟨_, _, rfl⟩
  have hok : ((shortList.layout {} Tree.root).buffered { capacity := .unlimited }).2 = .ok () :=
    (Output.buffered_unlimited _).2.trans (Output.report_none (by decide +kernel))
  have hfails : ((unfinishedPage.layout {} Tree.root).buffered { capacity := .unlimited }).2 =
      .error (.fault .errorNode) :=
    (Output.buffered_unlimited _).2.trans (Output.report_some (by decide +kernel))
  obtain ⟨-, -, hends⟩ := layout_lineStart hlist {} Tree.root
  obtain ⟨hbytes, hsame, -, hended⟩ := hends .unlimited Capacity.cuts_unlimited trivial
  obtain ⟨-, -, hends'⟩ := layout_lineStart hpage {} Tree.root
  obtain ⟨hbytes', hsame', hfailed, -⟩ := hends' .unlimited Capacity.cuts_unlimited trivial
  refine ⟨hlist, hpage, hsame.trans hok, (hended hok).trans ?_, hsame'.trans hfails,
    (hfailed _ hfails).trans (hbytes'.trans ?_)⟩
  · rw [hbytes]
    decide +kernel
  · decide +kernel

end Hypertext

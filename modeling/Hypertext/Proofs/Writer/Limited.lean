import Hypertext.Proofs.Loop.Sending
import Hypertext.Proofs.Output.Buffer
import Hypertext.Proofs.Output.Straight
import Hypertext.Proofs.Writer.Faults
import Hypertext.Proofs.Writer.PlainText

/-!
# Writers and limited sinks

Plain text and markup go straight to a sink, in small writes. A sink that cuts gets the first bytes
of them and no others, wherever its limit falls.

* `Tree.plainText_limited`: plain text. A sink that cuts no write gets the longest first part of the
  writes that fits.
* `Tree.markup_limited`: markup, which may have a fault of its own. It is reported just when there
  was room for all that is written before it.
-/

namespace Hypertext.Tree

variable {t : Tree}

/-- Plain text sent to a sink that takes so many bytes. There is one write for each text and each
line break that is heard, in order. A sink that cuts gets the first bytes, and the writer succeeds
just when these are all. A sink that cuts no write gets the longest first part of the writes that
fits, and nothing of those behind; the writer succeeds just when these are all. The writer may as
well send each write before it reads the next node, and end when the sink refuses. -/
theorem plainText_limited (ht : t.Reachable) (id : NodeId) (limit : Nat) :
    let texts := (t.speakers id).map fun x => (t.contentAt x).said
    let bytes := bytesOf (t.plainText id).text
    let part := (t.plainText id).into { capacity := .cut limit }
    let whole := (t.plainText id).into { capacity := .whole limit }
    t.Lists id (t.speakers id) (fun x => t.Heard id x ∧ (t.contentAt x).speaks) ∧
    (t.plainText id).writes.toList = texts ∧
    part.1.held.toList = bytes.take limit ∧
    (part.2 = .ok () ↔ bytes.length ≤ limit) ∧
    (part.2 = .error .sinkFull ↔ limit < bytes.length) ∧
    (∃ taken, LongestFit limit texts taken ∧ whole.1.held.toList = taken.flatMap bytesOf ∧
      (whole.2 = .ok () ↔ taken = texts) ∧ (whole.2 = .error .sinkFull ↔ taken ≠ texts)) ∧
    ∀ s : Sink, ∃ read left, (Loop.sending t.plainTasks (fun x => (t.plainWrite? x).toList)
      fun _ => none).Ends [id] s read left ((t.plainText id).into s) := by
  intro texts bytes part whole
  have h := ht.linked
  have hwrites : (t.plainText id).writes.toList = texts := h.writes_speakers id
  have hfault : (t.plainText id).fault = none := rfl
  have hpart : part.2 = (t.plainText id).report (decide (bytes.length ≤ limit)) :=
    Output.result_into_cut _ limit
  obtain ⟨taken, hfit, hheld, hresult⟩ := (t.plainText id).into_whole limit
  rw [hwrites] at hfit hresult
  have hwhole : whole.2 = (t.plainText id).report (decide (taken = texts)) := hresult
  refine ⟨(h.lists_heard id).filter _, hwrites, Output.held_into_cut _ limit, ?_, ?_,
    ⟨taken, hfit, hheld, ?_, ?_⟩, exists_plainSendingEnds h id⟩
  · rw [hpart, Output.report_eq_ok hfault, decide_eq_true_iff]
  · rw [hpart, Output.report_eq_sinkFull, decide_eq_false_iff_not, Nat.not_le]
  · rw [hwhole, Output.report_eq_ok hfault, decide_eq_true_iff]
  · rw [hwhole, Output.report_eq_sinkFull, decide_eq_false_iff_not]

/-- The empty text has room in a sink that is full. The text behind the script does not fit, and the
one behind it would; a sink that cuts gets the beginning of the first. -/
theorem plainText_limited_remark : remark.Reachable ∧
    ((remark.plainText root).into { capacity := .cut 4 }).1.held.toList = bytesOf "a&\nc" ∧
    ((remark.plainText root).into { capacity := .cut 4 }).2 = .error .sinkFull ∧
    ((remark.plainText root).into { capacity := .whole 4 }).1.held.toList = bytesOf "a&\n" ∧
    ((remark.plainText root).into { capacity := .whole 4 }).2 = .error .sinkFull := by
  have ht : remark.Reachable := ⟨_, _, rfl⟩
  obtain ⟨-, hwrites, hheld, -, hfull, ⟨taken, hfit, hwhole, -, hrefused⟩, -⟩ :=
    plainText_limited ht root 4
  have htexts : (remark.speakers root).map (fun x => (remark.contentAt x).said) =
      ["a&", "\n", "", "cde", "f"] := by decide +kernel
  have hbytes : bytesOf (remark.plainText root).text = bytesOf "a&\ncdef" :=
    congrArg bytesOf (by decide +kernel)
  have htaken : LongestFit 4 ["a&", "\n", "", "cde", "f"] ["a&", "\n", ""] := by
    refine .cons ?_ (.cons ?_ (.cons ?_ (.refused ?_ _)))
    all_goals
      simp only [bytesOf_eq]
      decide +kernel
  rw [htexts] at hfit hrefused
  obtain rfl := hfit.unique htaken
  rw [hbytes] at hheld hfull
  refine ⟨ht, hheld.trans ?_, hfull.mpr ?_, hwhole.trans ?_, hrefused.mpr (by decide)⟩
  all_goals
    simp only [bytesOf_eq]
    decide +kernel

/-- Markup sent to a sink that cuts at a limit. The bytes that a sink without limit gets are those
of the recursive markup up to its fault, and the limited sink gets the first of them. That it is
full is reported just when they do not all fit, and else the same as without a limit. The writer
may as well send what it writes for a node before it asks whether the node has a fault, and end when
the sink refuses. -/
theorem markup_limited (ht : t.Reachable) (id : NodeId) (limit : Nat) :
    let fault := (markupOf false (t.shape id)).fault
    let whole := (t.markup id).into { capacity := .unlimited }
    let part := (t.markup id).into { capacity := .cut limit }
    let bytes := whole.1.held.toList
    bytes = bytesOf (String.ofList (markupOf false (t.shape id)).text) ∧
    (fault = none → whole.2 = .ok ()) ∧
    (∀ f, fault = some f → whole.2 = .error (.fault f)) ∧
    part.1.held.toList = bytes.take limit ∧
    (part.2 = .error .sinkFull ↔ limit < bytes.length) ∧
    (bytes.length ≤ limit → part.2 = whole.2) ∧
    ∀ s : Sink, ∃ read left, (Loop.sending (Markup.Task.next t) (Markup.Task.own t)
      (Markup.Task.fault t)).Ends [.node id false] s read left ((t.markup id).into s) := by
  intro fault whole part bytes
  have hpassage := ht.linked.markup_passage id
  have hfault : (t.markup id).fault = fault := congrArg Passage.fault hpassage
  obtain ⟨hbytes, hwhole⟩ := (t.markup id).into_unlimited
  have hpart : part.2 = (t.markup id).report (decide (bytes.length ≤ limit)) :=
    (Output.result_into_cut _ limit).trans (by rw [← hbytes])
  refine ⟨?_, fun h => ?_, fun f h => ?_, ?_, ?_, fun hle => ?_,
    Markup.exists_sendingEnds ht.linked id⟩
  · rw [← hpassage, ← Output.text_eq]
    exact hbytes
  · exact hwhole.trans (Output.report_none (hfault.trans h))
  · exact hwhole.trans (Output.report_some (hfault.trans h))
  · exact (Output.held_into_cut _ limit).trans (by rw [← hbytes])
  · rw [hpart, Output.report_eq_sinkFull, decide_eq_false_iff_not, Nat.not_le]
  · rw [hpart, decide_eq_true hle]
    exact hwhole.symm

/-- The broken page up to its fault: with room for all of that the fault is reported, and with room
for one byte less that the sink is full. -/
theorem markup_limited_brokenPage : brokenPage.Reachable ∧
    ((brokenPage.markup root).into { capacity := .cut 47 }).2 =
      .error (.fault (.voidElementChildren "br")) ∧
    ((brokenPage.markup root).into { capacity := .cut 46 }).2 = .error .sinkFull ∧
    ((brokenPage.markup root).into { capacity := .cut 46 }).1.held.toList =
      bytesOf "<pre>\n\nx</pre><script>a<b</script><p><br id=\"1" := by
  have ht : brokenPage.Reachable := ⟨_, _, rfl⟩
  obtain ⟨hbytes, -, hfault, -, -, hroom, -⟩ := markup_limited ht root 47
  obtain ⟨-, -, -, hheld, hfull, -⟩ := markup_limited ht root 46
  rw [hbytes, bytesOf_eq] at hroom hheld hfull
  refine ⟨ht, (hroom ?_).trans (hfault _ ?_), hfull.mpr ?_, hheld.trans ?_⟩
  · decide +kernel
  · decide +kernel
  · decide +kernel
  · rw [bytesOf_eq]
    decide +kernel

end Hypertext.Tree

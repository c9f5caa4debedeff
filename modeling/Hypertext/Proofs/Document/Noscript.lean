import Hypertext.Document.Read
import Hypertext.Proofs.Document.Copy
import Hypertext.Proofs.Reference.Resolve
import Hypertext.Proofs.Writer.Markup

/-!
# Text in a `noscript`

Reading an escaped text gives the text itself, in pieces: a reference is a piece, and so is a run
of characters that are written as they stand. A builder that collects the pieces in one place
(`Builder.Collects`) holds the whole text in the end (`Reader.run_written`).

The text in a `noscript` in the body is read in this way, but it is not escaped again when it is
written, since the element is one of those with literal content.

* `markup_noscript`: what is written of such a page is the text itself.
-/

namespace Hypertext.Document

open Reference (written isEscaped standard)

/-! ## Tokens of an escaped text -/

theorem lexReference_eq {s chars rest : List Char}
    (h : Reference.reference? standard s = some (chars, rest)) :
    ∃ unterminated, lexReference? false s = some ⟨chars, unterminated, rest⟩ := by
  unfold Reference.reference? at h
  unfold lexReference?
  split at h
  · obtain ⟨n, hn, hr⟩ := Option.map_eq_some_iff.mp h
    obtain ⟨rfl, rfl⟩ := Prod.mk.inj hr
    exact ⟨!n.terminated, by simp only [hn, Option.map_some]⟩
  · obtain ⟨⟨e, n⟩, hn, hr⟩ := Option.map_eq_some_iff.mp h
    obtain ⟨rfl, rfl⟩ := Prod.mk.inj hr
    exact ⟨false, by simp [hn]⟩

/-- A character that is written as it stands has no meaning in markup. -/
theorem isMarkup_eq_false {c : Char} (hc : ¬ isEscaped c) (hzero : c ≠ '\x00') :
    isMarkup c = false := by
  simp only [isEscaped, Bool.or_eq_true, beq_iff_eq, not_or] at hc
  simp [isMarkup, hc, hzero]

/-- A run of text reaches up to the next reference or to the end, if the character with number
zero is not in it. -/
theorem run_written {cs : List Char} (hzero : '\x00' ∉ cs) (x : List Char) :
    (cs.flatMap written ++ '<' :: x).takeWhile (!isMarkup ·) = cs.takeWhile (!isEscaped ·) ∧
      (cs.flatMap written ++ '<' :: x).dropWhile (!isMarkup ·) =
        (cs.dropWhile (!isEscaped ·)).flatMap written ++ '<' :: x := by
  induction cs with
  | nil => exact ⟨rfl, rfl⟩
  | cons c cs ih =>
    obtain ⟨htake, hdrop⟩ := ih fun h => hzero (List.mem_cons_of_mem c h)
    by_cases hc : isEscaped c
    · obtain ⟨body, hw, -⟩ := Reference.reference?_of_isEscaped hc []
      simp [List.flatMap_cons, hw, hc, isMarkup]
    · obtain ⟨hw, -⟩ := Reference.written_of_not_isEscaped hc
      have hplain := isMarkup_eq_false hc fun e => hzero (e ▸ List.mem_cons_self)
      simp [List.flatMap_cons, hw, hc, hplain, htake, hdrop]

/-- Without carriage returns, and without a byte order mark in front, a document is read as it
stands. -/
theorem normalize_eq {s : List Char} (hreturn : '\r' ∉ s) (hmark : s.head? ≠ some '\ufeff') :
    normalize s = s := by
  have huniform : ∀ (s done : List Char), '\r' ∉ s →
      uniformNewlines s done = done.reverse ++ s := by
    intro s
    induction s with
    | nil => exact fun done _ => (List.append_nil _).symm
    | cons c s ih =>
      intro done hreturn
      have hc : c ≠ '\r' := fun e => hreturn (e ▸ List.mem_cons_self)
      have hnext : uniformNewlines (c :: s) done = uniformNewlines s (c :: done) := by
        rw [uniformNewlines.eq_def]
        exact if_neg hc
      rw [hnext, ih _ fun h => hreturn (List.mem_cons_of_mem c h), List.reverse_cons,
        List.append_assoc, List.singleton_append]
  unfold normalize
  split
  · exact absurd rfl hmark
  · exact huniform s [] hreturn

/-! ## Text in one place -/

/-- A builder with the text that it has collected. Text that is read is added to it. -/
structure Builder.Collects (b : List Char → Builder) : Prop where
  text : ∀ before data, data ≠ [] →
    (b before).accept (.text .mixed data) = (b (before ++ data), none)
  mistake : ∀ before, (b before).accept .mistake = (b before, none)

namespace Reader

variable {b : List Char → Builder} {name : String}

/-- One round takes in what is read next. -/
theorem run_cons {n : Nat} {r : Reader} {c : Char} {s rest : List Char} {tokens : List Token}
    {after : Syntax} {b : Builder} {how : Option Syntax}
    (hnext : lexNext r.how r.lastTag r.builder.allowsSections n c s = ⟨tokens, after, rest⟩)
    (haccept : r.builder.acceptAll tokens = (b, how)) :
    run (n + 1) r (c :: s) =
      run n { builder := b, how := how.getD after, lastTag := lastTagAfter r.lastTag tokens }
        rest := by
  rw [run]
  simp only [hnext, haccept]

/-- A reference is read in one round. -/
theorem run_reference (hb : Builder.Collects b) (n : Nat) (before : List Char) {c : Char}
    (hc : isEscaped c) (x : List Char) :
    run (n + 1) { builder := b before, lastTag := name } (written c ++ x) =
      run n { builder := b (before ++ [c]), lastTag := name } x := by
  obtain ⟨body, hw, href⟩ := Reference.reference?_of_isEscaped hc x
  obtain ⟨unterminated, hlexed⟩ := lexReference_eq href
  have hnext : lexNext .markup name (b before).allowsSections n '&' (body ++ x) =
      ⟨if unterminated then [.mistake, .text .mixed [c]] else [.text .mixed [c]], .markup, x⟩ := by
    simp only [lexNext, lexTextReference, hlexed]
    rfl
  have haccept : (b before).acceptAll
      (if unterminated then [.mistake, .text .mixed [c]] else [.text .mixed [c]]) =
        (b (before ++ [c]), none) := by
    have htext := hb.text before [c] (List.cons_ne_nil _ _)
    cases unterminated with
    | false => exact htext
    | true =>
      show ((b before).accept .mistake).1.accept (.text .mixed [c]) = _
      rw [hb.mistake, htext]
  have hlast : lastTagAfter name
      (if unterminated then [.mistake, .text .mixed [c]] else [.text .mixed [c]]) = name := by
    cases unterminated <;> rfl
  rw [hw, List.cons_append, run_cons hnext haccept, hlast, Option.getD_none]

/-- A run of text that is written as it stands is read in one round. -/
theorem run_plain (hb : Builder.Collects b) (n : Nat) (before : List Char) {c : Char}
    (hc : ¬ isEscaped c) {cs : List Char} (hzero : '\x00' ∉ c :: cs) (x : List Char) :
    run (n + 1) { builder := b before, lastTag := name }
        (written c ++ (cs.flatMap written ++ '<' :: x)) =
      run n { builder := b (before ++ c :: cs.takeWhile (!isEscaped ·)), lastTag := name }
        ((cs.dropWhile (!isEscaped ·)).flatMap written ++ '<' :: x) := by
  obtain ⟨hw, hamp⟩ := Reference.written_of_not_isEscaped hc
  obtain ⟨htake, hdrop⟩ := run_written (fun h => hzero (List.mem_cons_of_mem c h)) x
  have hc0 : c ≠ '\x00' := fun e => hzero (e ▸ List.mem_cons_self)
  have hless : c ≠ '<' := by
    rintro rfl
    exact hc (by decide)
  have hvisible : (c :: cs.takeWhile (!isEscaped ·)).map visible =
      c :: cs.takeWhile (!isEscaped ·) := by
    refine (List.map_congr_left fun d hd => ?_).trans (List.map_id _)
    have hd0 : d ≠ '\x00' := by
      rintro rfl
      exact hzero (List.cons_subset_cons c (List.takeWhile_subset _) hd)
    exact if_neg hd0
  have hnext : lexNext .markup name (b before).allowsSections n c
      (cs.flatMap written ++ '<' :: x) =
        ⟨[.text .mixed (c :: cs.takeWhile (!isEscaped ·))], .markup,
          (cs.dropWhile (!isEscaped ·)).flatMap written ++ '<' :: x⟩ := by
    simp only [lexNext, if_neg hless, if_neg hamp, if_neg hc0, htake, hdrop, hvisible]
    rfl
  have haccept : (b before).acceptAll [.text .mixed (c :: cs.takeWhile (!isEscaped ·))] =
      (b (before ++ c :: cs.takeWhile (!isEscaped ·)), none) :=
    hb.text _ _ (List.cons_ne_nil _ _)
  rw [hw, List.singleton_append, run_cons hnext haccept, Option.getD_none]
  rfl

/-- An escaped text is read piece by piece, and the builder collects the text that was escaped.
By induction on the text: what is left after a piece is the written form of its end. -/
theorem run_collects (name : String) (hb : Builder.Collects b) (x : List Char) :
    ∀ (cs before : List Char) (n : Nat), '\x00' ∉ cs → (cs.flatMap written ++ '<' :: x).length ≤ n →
      ∃ m, ('<' :: x).length ≤ m ∧
        run n { builder := b before, lastTag := name } (cs.flatMap written ++ '<' :: x) =
          run m { builder := b (before ++ cs), lastTag := name } ('<' :: x)
  | [], before, n, _, hn => ⟨n, hn, by rw [List.append_nil]; rfl⟩
  | c :: cs, before, 0, _, hn => by simp at hn
  | c :: cs, before, n + 1, hzero, hn => by
    have hpos := List.length_pos_iff.mpr (Reference.written_ne_nil c)
    rw [List.flatMap_cons, List.append_assoc, List.length_append] at hn
    by_cases hc : isEscaped c
    · obtain ⟨m, hm, hrun⟩ := run_collects name hb x cs (before ++ [c]) n
        (fun h => hzero (List.mem_cons_of_mem c h)) (by omega)
      refine ⟨m, hm, ?_⟩
      rw [List.flatMap_cons, List.append_assoc, run_reference hb n before hc, hrun,
        List.append_assoc, List.singleton_append]
    · have hsplit := List.takeWhile_append_dropWhile (p := (!isEscaped ·)) (l := cs)
      have hrest : ((cs.dropWhile (!isEscaped ·)).flatMap written ++ '<' :: x).length ≤ n := by
        rw [← hsplit, List.flatMap_append, List.append_assoc, List.length_append] at hn
        omega
      obtain ⟨m, hm, hrun⟩ := run_collects name hb x (cs.dropWhile (!isEscaped ·))
        (before ++ c :: cs.takeWhile (!isEscaped ·)) n
        (fun h => hzero (List.mem_cons_of_mem c (List.dropWhile_subset _ h))) hrest
      refine ⟨m, hm, ?_⟩
      rw [List.flatMap_cons, List.append_assoc, run_plain hb n before hc hzero, hrun,
        List.append_assoc, List.cons_append, hsplit]
  termination_by cs => cs.length
  decreasing_by
  · exact Nat.lt_succ_self _
  · exact Nat.lt_succ_of_le (List.dropWhile_suffix _).length_le

end Reader

/-! ## A page with a `noscript` -/

/-- The parts of a page with a `noscript` in its body, and with text in that, if there is any. -/
def noscriptEntries (text : Option String) : List Draft.Entry :=
  let page : List Draft.Entry :=
    [{ part := .document, children := #[1] },
      { part := .element (.html "html") [], parent := some 0, children := #[2, 3] },
      { part := .element (.html "head") [], parent := some 1 },
      { part := .element (.html "body") [], parent := some 1, children := #[4] }]
  let noscript : Draft.Entry := { part := .element (.html "noscript") [], parent := some 3 }
  match text with
  | none => page ++ [noscript]
  | some s => page ++ [{ noscript with children := #[5] }, { part := .text s, parent := some 4 }]

/-- The builder while the body is open and empty. -/
def inBody : Builder where
  draft := ⟨#[{ part := .document, children := #[1] },
    { part := .element (.html "html") [], parent := some 0, children := #[2, 3] },
    { part := .element (.html "head") [], parent := some 1 },
    { part := .element (.html "body") [], parent := some 1 }]⟩
  mode := .inBody
  oldRules := true
  stack := [3, 1]
  head := some 2
  framesetOk := false

/-- The builder while that element is open. -/
def inNoscript (text : Option String) : Builder where
  draft := ⟨(noscriptEntries text).toArray⟩
  mode := .inBody
  oldRules := true
  stack := [4, 3, 1]
  head := some 2
  framesetOk := false

/-- The page in the end. -/
def noscriptPage (text : Option String) : List Dom :=
  [.node (.element (.html "html") [])
    [.node (.element (.html "head") []) [],
      .node (.element (.html "body") [])
        [.node (.element (.html "noscript") []) (text.toList.map fun s => .node (.text s) [])]]]

namespace inNoscript

theorem run_start (n : Nat) (x : List Char) :
    Reader.run (n + 3) {} ("<body><noscript>".toList ++ x) =
      Reader.run (n + 1) { builder := inNoscript none, lastTag := "noscript" } x := by
  have hbody : Reader.run (n + 3) {} ("<body>".toList ++ ("<noscript>".toList ++ x)) =
      Reader.run (n + 2) { builder := inBody, lastTag := "body" } ("<noscript>".toList ++ x) := rfl
  have hnext : lexNext .markup "body" inBody.allowsSections (n + 1) '<'
      ("noscript>".toList ++ x) = ⟨[.startTag { name := "noscript" }], .markup, x⟩ := rfl
  have haccept : inBody.acceptAll [.startTag { name := "noscript" }] = (inNoscript none, none) := by
    cbv
  exact hbody.trans (Reader.run_cons (r := { builder := inBody, lastTag := "body" }) hnext haccept)

theorem run_end (n : Nat) (text : Option String) :
    Reader.run (n + 2) { builder := inNoscript text, lastTag := "noscript" } "</noscript>".toList =
      { inNoscript text with stack := [3, 1] } := by
  cases text <;> rfl

theorem finish (text : Option String) :
    (Builder.accept { inNoscript text with stack := [3, 1] } .endOfFile).1.draft.finish =
      .node .document (noscriptPage text) := by
  cases text <;> cbv

theorem place (text : Option String) : (inNoscript text).place = .lastIn 4 := by
  cases text <;> cbv

theorem isForeign (text : Option String) (token : Token) :
    (inNoscript text).isForeign token = false := by
  cases text <;> cbv

/-- The first text makes a part, and any text after it is added to that. -/
theorem appendText (text : Option String) (s : String) : (inNoscript text).draft.appendText 4 s =
    (inNoscript (some (text.getD "" ++ s))).draft := by
  cases text with
  | none =>
    rw [Option.getD_none, String.empty_append]
    cbv
  | some t => cbv

theorem addBodyText (text : Option String) (data : List Char) :
    (inNoscript text).addBodyText data =
      inNoscript (some (text.getD "" ++ String.ofList data)) := by
  have hformatting : (inNoscript text).restartFormatting = inNoscript text := rfl
  have hframeset : (inNoscript text).noFrameset = inNoscript text := rfl
  rw [Builder.addBodyText, hformatting, hframeset, ite_self, Builder.addText, place]
  dsimp only
  rw [appendText]
  rfl

end inNoscript

/-- The text so far, if there is any. -/
def collected (text : List Char) : Option String :=
  if text = [] then none else some (String.ofList text)

theorem collected_append (before : List Char) {data : List Char} (hne : data ≠ []) :
    collected (before ++ data) = some ((collected before).getD "" ++ String.ofList data) := by
  cases before with
  | nil => simp [collected, hne]
  | cons c before =>
    rw [List.cons_append, collected, if_neg (List.cons_ne_nil _ _), collected,
      if_neg (List.cons_ne_nil _ _), ← List.cons_append, String.ofList_append]
    rfl

theorem getD_collected (text : List Char) :
    (collected text).getD "" = String.ofList text := by
  cases text <;> rfl

theorem inNoscript.collects : Builder.Collects fun text => inNoscript (collected text) where
  text before data hne := by
    have happly : (inNoscript (collected before)).apply (.text .mixed data) =
        (inNoscript (collected (before ++ data))).done := by
      rw [Builder.apply, isForeign, collected_append before hne, ← addBodyText]
      rfl
    obtain ⟨n, hn⟩ : ∃ n, (inNoscript (collected before)).rounds (.text .mixed data) = n + 2 :=
      ⟨_, (Nat.sub_add_cancel (by rw [Builder.rounds]; omega)).symm⟩
    have hempty : data.isEmpty = false := List.isEmpty_eq_false_iff.mpr hne
    show (if data.isEmpty then (inNoscript (collected before), none)
      else Builder.settle ((inNoscript (collected before)).rounds (.text .mixed data))
        (inNoscript (collected before)) [.text .mixed data]) = _
    rw [hempty, hn, Builder.settle, happly]
    rfl
  mistake before := rfl

/-- What is read of an escaped text in a `noscript` is the text. -/
theorem read_noscript {s : String} (hzero : '\x00' ∉ s.toList) :
    read ("<body><noscript>" ++ Reference.escape s ++ "</noscript>").toList =
      .node .document (noscriptPage (collected s.toList)) := by
  have hhtml : ("<body><noscript>" ++ Reference.escape s ++ "</noscript>").toList =
      "<body><noscript>".toList ++ (s.toList.flatMap written ++ "</noscript>".toList) := by
    rw [String.toList_append, String.toList_append, toList_escape, List.append_assoc]
    rfl
  have hnormal : normalize
      ("<body><noscript>".toList ++ (s.toList.flatMap written ++ "</noscript>".toList)) =
        "<body><noscript>".toList ++ (s.toList.flatMap written ++ "</noscript>".toList) := by
    refine normalize_eq ?_ (by simp)
    simp only [List.mem_append, not_or]
    exact ⟨by decide, not_mem_escaped (by decide) s, by decide⟩
  have hlength : ("<body><noscript>".toList ++
      (s.toList.flatMap written ++ "</noscript>".toList)).length + 1 =
        (s.toList.flatMap written ++ "</noscript>".toList).length + 14 + 3 := by
    rw [List.length_append, Nat.add_comm "<body><noscript>".toList.length]
    rfl
  obtain ⟨m, hm, hrun⟩ := Reader.run_collects "noscript" inNoscript.collects
    "/noscript>".toList s.toList [] ((s.toList.flatMap written ++ "</noscript>".toList).length + 15)
    hzero (Nat.le_add_right _ _)
  obtain ⟨n, rfl⟩ := Nat.exists_eq_add_of_le' (Nat.le_trans (by decide : 2 ≤ 11) hm)
  have hend := inNoscript.run_end n (collected s.toList)
  rw [hhtml, read, hnormal, hlength, inNoscript.run_start]
  have hread : Reader.run ((s.toList.flatMap written ++ "</noscript>".toList).length + 15)
      { builder := inNoscript none, lastTag := "noscript" }
        (s.toList.flatMap written ++ "</noscript>".toList) =
      { inNoscript (collected s.toList) with stack := [3, 1] } := hrun.trans hend
  rw [hread]
  exact inNoscript.finish _

end Hypertext.Document

namespace Hypertext

open Document

/-- An output that consists of a text and has no fault. -/
theorem Output.text?_of_passage {o : Output} {text : List Char}
    (h : o.passage = ⟨text, none⟩) : o.text? = .ok (String.ofList text) := by
  have hfault : o.fault = none := congrArg Passage.fault h
  rw [Output.text?, hfault, Output.text_eq, h]

theorem markupOf_noscriptPage (text : Option String) :
    markupOf false ((Dom.node .document (noscriptPage text)).rose.map Part.content) =
      ⟨"<html><head></head><body><noscript>".toList ++
        ((text.getD "").toList ++ "</noscript></body></html>".toList), none⟩ := by
  have hhtml : Tag.ofName? "html" = some .html := by decide
  have hhead : Tag.ofName? "head" = some .head := by decide
  have hbody : Tag.ofName? "body" = some .body := by decide
  have hnoscript : Tag.ofName? "noscript" = some .noscript := by decide
  cases text <;> simp [noscriptPage, Dom.rose, Dom.roseAll, Part.content, Element.named, Name.html,
    markupOf, markupOfAll, hhtml, hhead, hbody, hnoscript, Tag.isVoid, Tag.voids, Tag.isLiteral,
    Tag.literals, Element.startMarkup, Element.endMarkup, Element.spareNewline, dropsFirstNewline]

/-- The text in a `noscript` is written as it was read, without being escaped again. -/
theorem markup_noscript {s : String} (hzero : '\x00' ∉ s.toList) :
    ((parse ("<body><noscript>" ++ Reference.escape s ++ "</noscript>")).markup Tree.root).text? =
      .ok ("<html><head></head><body><noscript>" ++ s ++ "</noscript></body></html>") := by
  rw [parse, read_noscript hzero]
  have hreachable := Dom.reachable_toTree (noscriptPage (collected s.toList))
  have hpassage := hreachable.linked.markup_passage Tree.root
  rw [Dom.shape_toTree, Dom.contents, markupOf_noscriptPage, getD_collected, String.ofList_toList] at hpassage
  rw [Output.text?_of_passage hpassage]
  refine congrArg Except.ok (String.toList_inj.mp ?_)
  simp only [String.toList_ofList, String.toList_append, List.append_assoc]

/-- A text of one apostrophe, which is read from a reference and written as it stands. -/
theorem markup_noscript_apostrophe : '\x00' ∉ "'".toList ∧ Reference.escape "'" = "&#39;" ∧
    ((parse ("<body><noscript>" ++ Reference.escape "'" ++ "</noscript>")).markup
      Tree.root).text? =
        .ok ("<html><head></head><body><noscript>" ++ "'" ++ "</noscript></body></html>") := by
  have hzero : '\x00' ∉ "'".toList := by decide
  exact ⟨hzero, by decide, markup_noscript hzero⟩

/-- The written form of the apostrophe is not found in the markup of that page. -/
theorem markup_noscript_unescaped : ∃ text : String,
    ((parse ("<body><noscript>" ++ Reference.escape "'" ++ "</noscript>")).markup
      Tree.root).text? = .ok text ∧
    ¬ ("<noscript>" ++ Reference.escape "'" ++ "</noscript>").toList <:+: text.toList := by
  refine ⟨"<html><head></head><body><noscript>'</noscript></body></html>", ?_, by decide⟩
  have hfault : ((parse ("<body><noscript>" ++ Reference.escape "'" ++ "</noscript>")).markup
      Tree.root).fault = none := by decide +kernel
  have htext : ((parse ("<body><noscript>" ++ Reference.escape "'" ++ "</noscript>")).markup
      Tree.root).text = "<html><head></head><body><noscript>'</noscript></body></html>" := by
    decide +kernel
  rw [Output.text?, hfault, htext]

end Hypertext

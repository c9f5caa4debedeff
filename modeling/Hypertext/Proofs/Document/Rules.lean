import Hypertext.Document.Read
import Hypertext.Proofs.Document.Builder

/-!
# Rules that keep void elements empty

Every rule of every mode keeps a builder sound. The rules consist of operations that do so; what
is to be shown is that none of the elements that a rule starts is void. A rule knows the name of
the element from the cases that it distinguishes, but for the last rule for start tags in the
body, which is left with the elements that no rule mentions. Each group of these rules passes on
what is known of the void elements among them (`Sound.emptyStartTag`).

Of MathML and SVG any element may be started, for none of them is void by its name
(`Sound.foreignRules`).

* `Builder.Sound.rulesOf`: the rules of a mode keep a builder sound.
* `Builder.Sound.apply`: so do those that hold at a token.
-/

namespace Hypertext.Document

namespace Name

/-- The void elements are those of the catalog. -/
theorem exists_void {name : String} (h : (Name.html name).isVoid = true) :
    ∃ t ∈ Tag.voids, name = t.name := by
  simp only [isVoid, Bool.and_eq_true, Tag.isVoid, Option.any_eq_true] at h
  obtain ⟨-, t, ht, hvoid⟩ := h
  exact ⟨t, List.contains_iff_mem.mp hvoid, Tag.ofName?_eq_some.mp ht⟩

/-- Outside HTML no element is void. -/
theorem isVoid_eq_false {q : Name} (h : q.vocabulary ≠ .html) : q.isVoid = false := by
  rw [isVoid, beq_eq_false_iff_ne.mpr h, Bool.false_and]

end Name

namespace Builder

variable {b : Builder} {id : PartId} {tag : StartTag} {q : Name}

namespace Sound

/-! ## Effects -/

theorem done (h : b.Sound) : b.done.1.Sound := h

theorem again (h : b.Sound) (mode : Mode) (token : Token) : (b.again mode token).1.Sound := h

theorem split (h : b.Sound) (data : List Char) : (b.split data).1.Sound := h

theorem effect {c : Prop} [Decidable c] {x y : Effect} (hx : c → x.1.Sound)
    (hy : ¬c → y.1.Sound) : (if c then x else y).1.Sound := by
  split
  · next hc => exact hx hc
  · next hc => exact hy hc

/-- The element of a tag with a known name. -/
theorem startNamed (h : b.Sound) {name : String} (hname : tag.name = name)
    (hv : (Name.html name).isVoid = false) : (b.startTag tag).Sound :=
  h.startTag (hname ▸ hv)

theorem readText (h : b.Sound) {name : String} (hname : tag.name = name)
    (hv : (Name.html name).isVoid = false) (how : Syntax) : (b.readText tag how).1.Sound :=
  h.startText (hname ▸ hv)

theorem mergeHtml (h : b.Sound) (tag : StartTag) : (b.mergeHtml tag).1.Sound := by
  rw [Builder.mergeHtml]
  split
  · exact effect (fun _ => h) fun _ => h.grow (h.draft.addMissing _ _)
  · exact h

theorem addBodyText (h : b.Sound) (data : List Char) : (b.addBodyText data).Sound :=
  (ite h.restartFormatting h.restartFormatting.noFrameset).addText data

/-! ## The head -/

theorem addDoctype (h : b.Sound) (d : DoctypeToken) : (b.addDoctype d).Sound :=
  ite (h.grow (h.draft.appendNew h.draft.canHold_document _)) h

theorem initialRules (h : b.Sound) (token : Token) : (b.initialRules token).1.Sound := by
  unfold Builder.initialRules
  split
  · exact h.split _
  · exact h.done
  · exact (h.addCommentTo h.draft.canHold_document _).done
  · exact h

theorem beforeHtmlRules (h : b.Sound) (token : Token) : (b.beforeHtmlRules token).1.Sound := by
  have otherwise := (h.startRoot []).again .beforeHead token
  unfold Builder.beforeHtmlRules
  split
  · exact h.split _
  · exact h.done
  · exact (h.addCommentTo h.draft.canHold_document _).done
  · exact effect (fun _ => ((h.startRoot _).enter _).done) fun _ => otherwise
  · exact effect (fun _ => otherwise) fun _ => h.done
  · exact otherwise

theorem startHead (h : b.Sound) (attributes : List Attribute) :
    (b.startHead attributes).Sound :=
  have hopen := h.startElement (q := Name.html "head") (by decide) attributes
  ⟨hopen.draft, hopen.stack, hopen.formatting, fun id hid => hopen.stack id (List.mem_of_head? hid)⟩

theorem beforeHeadRules (h : b.Sound) (token : Token) : (b.beforeHeadRules token).1.Sound := by
  have otherwise := (h.startHead []).again .inHead token
  unfold Builder.beforeHeadRules
  split
  · exact h.split _
  · exact h.done
  · exact (h.addComment _).done
  · exact effect (fun _ => h.mergeHtml _) fun _ =>
      effect (fun _ => ((h.startHead _).enter _).done) fun _ => otherwise
  · exact effect (fun _ => otherwise) fun _ => h.done
  · exact otherwise

theorem startTemplate (h : b.Sound) (hname : tag.name = "template") :
    (b.startTemplate tag).Sound :=
  h.mark.noFrameset.startNamed hname (by decide)

theorem endTemplate (h : b.Sound) : b.endTemplate.Sound :=
  ite ((h.popWhile _).popThrough _).forgetToMark h

theorem headRules (h : b.Sound) (token : Token) : (b.headRules token).1.Sound := by
  have otherwise := h.pop.again .afterHead token
  cases token with
  | text kind data =>
    cases kind with
    | mixed => exact h.split data
    | blank => exact (h.addText data).done
    | solid => exact otherwise
  | comment data => exact (h.addComment data).done
  | startTag tag =>
    simp only [Builder.headRules]
    split <;> with_reducible first
      | exact h.mergeHtml tag
      | exact (h.addVoid tag).done
      | exact h.readText ‹_› (by decide) _
      | exact ((h.startNamed ‹_› (by decide)).enter _).done
      | exact (h.startTemplate ‹_›).done
      | exact h.done
      | exact otherwise
  | endTag name =>
    simp only [Builder.headRules]
    split <;> with_reducible first
      | exact (h.pop.enter _).done
      | exact h.endTemplate.done
      | exact h.done
      | exact otherwise
  | _ => exact otherwise

theorem headNoscriptRules (h : b.Sound) (token : Token) :
    (b.headNoscriptRules token).1.Sound := by
  have otherwise := h.pop.again .inHead token
  cases token with
  | text kind data =>
    cases kind with
    | mixed => exact h.split data
    | blank => exact h.headRules _
    | solid => exact otherwise
  | comment data => exact h.headRules _
  | startTag tag =>
    simp only [Builder.headNoscriptRules]
    split <;> with_reducible first
      | exact h.mergeHtml tag
      | exact h.headRules _
      | exact h.done
      | exact otherwise
  | endTag name =>
    simp only [Builder.headNoscriptRules]
    split <;> with_reducible first
      | exact (h.pop.enter _).done
      | exact h.done
      | exact otherwise
  | _ => exact otherwise

/-- The head is opened once more, and taken off the stack again. -/
theorem headAgain (h : b.Sound) {head : PartId} (hhead : b.head = some head) (token : Token) :
    (({ b with stack := head :: b.stack }.headRules token).1.removeOpen head).Sound :=
  ((h.push (h.head head hhead)).headRules token).removeOpen head

theorem afterHeadRules (h : b.Sound) (token : Token) : (b.afterHeadRules token).1.Sound := by
  have hbody : (Name.html "body").isVoid = false := by decide
  have otherwise := (h.startImplied hbody).again .inBody token
  cases token with
  | text kind data =>
    cases kind with
    | mixed => exact h.split data
    | blank => exact (h.addText data).done
    | solid => exact otherwise
  | comment data => exact (h.addComment data).done
  | startTag tag =>
    simp only [Builder.afterHeadRules]
    split
    · exact h.mergeHtml tag
    · next hname => exact ((h.startNamed hname (by decide)).noFrameset.enter _).done
    · next hname => exact ((h.startNamed hname (by decide)).enter _).done
    -- the elements that belong in the head
    iterate 10
      split
      · next hhead => exact h.headAgain hhead _
      · exact otherwise
    · exact h.done
    · exact otherwise
  | endTag name =>
    simp only [Builder.afterHeadRules]
    split <;> with_reducible first
      | exact h.headRules _
      | exact h.done
      | exact otherwise
  | _ => exact otherwise

/-! ## Start tags in the body -/

theorem endItem (h : b.Sound) (names : List String) : ∀ ids, (b.endItem names ids).Sound
  | [] => h
  | _ :: rest => ite (h.close _) (ite h (h.endItem names rest))

theorem replaceBody (h : b.Sound) (hname : tag.name = "frameset") :
    (b.replaceBody tag).Sound := by
  unfold Builder.replaceBody
  split
  · next body _ =>
    refine ite ?_ h
    have hroot : ∀ id ∈ b.stack.getLast?.toList, id ∈ b.stack := fun id hid =>
      List.mem_of_getLast? (Option.mem_toList.mp hid)
    exact ((h.grow (h.draft.detach body)).of_subset hroot).startNamed hname (by decide)
  · exact h

theorem mergeBody (h : b.Sound) (tag : StartTag) : (b.mergeBody tag).Sound := by
  unfold Builder.mergeBody
  split
  · exact ite h (h.grow (h.draft.addMissing _ _))
  · exact h

theorem startForm (h : b.Sound) (hname : tag.name = "form") : (b.startForm tag).Sound :=
  have hopen := h.closeParagraph.startNamed hname (by decide)
  ite h (ite hopen hopen)

theorem startSelect (h : b.Sound) (hname : tag.name = "select") : (b.startSelect tag).Sound :=
  have hopen := h.restartFormatting.startNamed hname (by decide)
  ite hopen hopen

theorem addBodyVoid (h : b.Sound) (tag : StartTag) : (b.addBodyVoid tag).Sound :=
  h.restartFormatting.addVoid tag

theorem startForeign (h : b.Sound) (hv : q.isVoid = false) (tag : StartTag) :
    (b.startForeign q tag).Sound :=
  have hnew := h.insert q (attributesIn q.vocabulary tag.attributes)
  ite hnew.1 (hnew.1.push (hnew.2 hv))

/-- The void elements belong in the head, are added as such, or are passed over in the body. -/
theorem void_mentioned : ∀ t ∈ Tag.voids, headNames.contains t.name = true ∨
    emptyNames.contains t.name = true ∨ t.name = "input" ∨
    (t.name = "param" ∨ t.name = "source" ∨ t.name = "track") ∨ t.name = "hr" ∨
    misplacedNames.contains t.name = true := by
  decide +kernel

theorem startNamedIn (h : b.Sound) {names : List String} (hmem : names.contains tag.name = true)
    (hv : ∀ n ∈ names, (Name.html n).isVoid = false) : (b.startTag tag).Sound :=
  h.startTag (hv _ (List.contains_iff_mem.mp hmem))

theorem startEither (h : b.Sound) {m n : String} (hname : tag.name = m ∨ tag.name = n)
    (hm : (Name.html m).isVoid = false) (hn : (Name.html n).isVoid = false) :
    (b.startTag tag).Sound := by
  rcases hname with hname | hname
  · exact h.startNamed hname hm
  · exact h.startNamed hname hn

/-- What is left for the last rules: an element that is void is one that they pass over. -/
theorem ordinaryStartTag (h : b.Sound)
    (hv : (Name.html tag.name).isVoid = true → misplacedNames.contains tag.name = true) :
    (b.ordinaryStartTag tag).1.Sound := by
  have hf := h.restartFormatting
  unfold Builder.ordinaryStartTag
  refine effect (fun hname => (h.startSelect hname).done) fun _ => ?_
  refine effect (fun hname => ((ite h.pop h).restartFormatting.startEither hname (by decide)
    (by decide)).done) fun _ => ?_
  refine effect (fun hname => ((ite h.endImplied h).startEither hname (by decide)
    (by decide)).done) fun _ => ?_
  refine effect (fun hname => ((ite (h.endImpliedExcept _) h).startEither hname (by decide)
    (by decide)).done) fun _ => ?_
  refine effect (fun _ => (hf.startForeign (Name.isVoid_eq_false (by simp)) tag).done)
    fun _ => ?_
  refine effect (fun _ => (hf.startForeign (Name.isVoid_eq_false (by simp)) tag).done)
    fun _ => ?_
  exact effect (fun _ => h.done) fun hmisplaced =>
    (hf.startTag (Bool.eq_false_iff.mpr fun hvoid => hmisplaced (hv hvoid))).done

theorem textStartTag (h : b.Sound)
    (hv : (Name.html tag.name).isVoid = true → misplacedNames.contains tag.name = true) :
    (b.textStartTag tag).1.Sound := by
  unfold Builder.textStartTag
  refine effect (fun hname => h.noFrameset.dropNewline.readText hname (by decide) _) fun _ => ?_
  refine effect (fun hname => h.closeParagraph.restartFormatting.noFrameset.readText hname
    (by decide) _) fun _ => ?_
  refine effect (fun hname => h.noFrameset.readText hname (by decide) _) fun _ => ?_
  exact effect (fun hname => h.readText hname (by decide) _) fun _ => h.ordinaryStartTag hv

/-- Behind the rules for elements without content, a void element is one that the body passes
over. -/
theorem emptyStartTag (h : b.Sound) (hhead : ¬ headNames.contains tag.name = true) :
    (b.emptyStartTag tag).1.Sound := by
  unfold Builder.emptyStartTag
  refine effect (fun _ => (h.addBodyVoid tag).noFrameset.done) fun hempty => ?_
  refine effect (fun _ => (h.addBodyVoid _).noFrameset.done) fun _ => ?_
  refine effect (fun _ => (ite (h.addBodyVoid tag) (h.addBodyVoid tag).noFrameset).done)
    fun hinput => ?_
  refine effect (fun _ => (h.addVoid tag).done) fun hsource => ?_
  refine effect (fun _ => (h.closeParagraph.addVoid tag).noFrameset.done) fun hrule => ?_
  refine h.textStartTag fun hvoid => ?_
  obtain ⟨t, ht, hname⟩ := Name.exists_void hvoid
  rw [hname] at hhead hempty hinput hsource hrule ⊢
  rcases void_mentioned t ht with hin | hin | hin | hin | hin | hin
  · exact absurd hin hhead
  · exact absurd hin hempty
  · exact absurd hin hinput
  · exact absurd hin hsource
  · exact absurd hin hrule
  · exact hin

theorem formattingStartTag (h : b.Sound) (hhead : ¬ headNames.contains tag.name = true) :
    (b.formattingStartTag tag).1.Sound := by
  have hf := h.restartFormatting
  unfold Builder.formattingStartTag
  refine effect (fun hname => ((ite (h.endImplied.popThrough _) h).restartFormatting.startNamed
    hname (by decide)).noFrameset.done) fun _ => ?_
  refine effect (fun hname => (h.endOpenLink.restartFormatting.startFormatting
    (hname ▸ by decide)).done) fun _ => ?_
  refine effect (fun hmem => ?_) fun _ => ?_
  · have hall : ∀ n ∈ formattingNames, (Name.html n).isVoid = false := by decide +kernel
    exact (hf.startFormatting (hall _ (List.contains_iff_mem.mp hmem))).done
  refine effect (fun hname => ((ite (hf.endFormatting _).restartFormatting hf).startFormatting
    (hname ▸ by decide)).done) fun _ => ?_
  refine effect (fun hname => ?_) fun _ => ?_
  · have hopen : (b.restartFormatting.startTag tag).Sound := by
      rcases hname with hname | hname
      · exact hf.startNamed hname (by decide)
      · exact hf.startEither hname (by decide) (by decide)
    exact hopen.mark.noFrameset.done
  exact effect (fun hname => (((ite h h.closeParagraph).startNamed hname
    (by decide)).noFrameset.enter _).done) fun _ => h.emptyStartTag hhead

theorem blockStartTag (h : b.Sound) (hhead : ¬ headNames.contains tag.name = true) :
    (b.blockStartTag tag).1.Sound := by
  have hp := h.closeParagraph
  unfold Builder.blockStartTag
  refine effect (fun hmem => (hp.startNamedIn hmem (by decide +kernel)).done) fun _ => ?_
  refine effect (fun hmem => ((hp.pop.ite hp).startNamedIn hmem (by decide +kernel)).done)
    fun _ => ?_
  refine effect (fun hname => (hp.startEither hname (by decide)
    (by decide)).noFrameset.dropNewline.done) fun _ => ?_
  refine effect (fun hname => (h.startForm hname).done) fun _ => ?_
  refine effect (fun hname => ((h.noFrameset.endItem _ _).closeParagraph.startNamed hname
    (by decide)).done) fun _ => ?_
  refine effect (fun hname => ((h.noFrameset.endItem _ _).closeParagraph.startEither hname
    (by decide) (by decide)).done) fun _ => ?_
  exact effect (fun hname => hp.startNamed hname (by decide)) fun _ => h.formattingStartTag hhead

theorem bodyStartTag (h : b.Sound) (tag : StartTag) : (b.bodyStartTag tag).1.Sound := by
  unfold Builder.bodyStartTag
  refine effect (fun _ => h.mergeHtml tag) fun _ => ?_
  refine effect (fun _ => h.headRules _) fun hhead => ?_
  refine effect (fun _ => (h.mergeBody tag).done) fun _ => ?_
  exact effect (fun hname => (h.replaceBody hname).done) fun _ => h.blockStartTag hhead

/-! ## The rest of the body -/

theorem endForm (h : b.Sound) : b.endForm.Sound := by
  unfold Builder.endForm
  refine ite (ite (h.endImplied.popThrough _) h) ?_
  split
  · exact h
  · next form _ =>
    have hnone : Sound { b with form := none } := h
    exact ite (hnone.endImplied.removeOpen form) hnone

theorem endClosable (h : b.Sound) (bounds : Name → Bool) (name : String) :
    (b.endClosable bounds name).Sound :=
  ite (h.endImplied.popThrough name) h

theorem bodyEndTag (h : b.Sound) (name : String) : (b.bodyEndTag name).1.Sound := by
  have hp := ite (c := b.inScope Name.boundsButtonScope "p") h
    (h.startImplied (show (Name.html "p").isVoid = false by decide))
  have hclosed := (ite (c := b.inScope Name.boundsScope name) (h.close name) h).done
  unfold Builder.bodyEndTag
  refine effect (fun _ => h.headRules _) fun _ => ?_
  refine effect (fun _ => (ite (h.enter _) h).done) fun _ => ?_
  refine effect (fun _ => effect (fun _ => h.again _ _) fun _ => h.done) fun _ => ?_
  refine effect (fun _ => (h.endClosable _ _).done) fun _ => ?_
  refine effect (fun _ => h.endForm.done) fun _ => ?_
  refine effect (fun _ => (hp.close "p").done) fun _ => ?_
  refine effect (fun _ => (ite (h.close name) h).done) fun _ => ?_
  refine effect (fun _ => hclosed) fun _ => ?_
  refine effect (fun _ => (ite (h.endImplied.popThroughAny _) h).done) fun _ => ?_
  refine effect (fun _ => (h.endFormatting name).done) fun _ => ?_
  refine effect (fun _ => (ite (h.endImplied.popThrough name).forgetToMark h).done) fun _ => ?_
  exact effect (fun _ => h.bodyStartTag _) fun _ => (h.endOther name).done

theorem endInTemplate (h : b.Sound) : b.endInTemplate.1.Sound :=
  effect (fun _ => (h.popThrough "template").forgetToMark) fun _ => h.done

theorem bodyRules (h : b.Sound) (token : Token) : (b.bodyRules token).1.Sound := by
  cases token with
  | text kind data => exact (h.addBodyText data).done
  | comment data => exact (h.addComment data).done
  | startTag tag => exact h.bodyStartTag tag
  | endTag name => exact h.bodyEndTag name
  | endOfFile => exact effect (fun _ => h.done) fun _ => h.endInTemplate
  | _ => exact h.done

theorem textRules (h : b.Sound) (token : Token) : (b.textRules token).1.Sound := by
  cases token with
  | text kind data => exact (h.addText data).done
  | endTag name => exact (h.pop.enter _).done
  | endOfFile => exact h.pop.again _ _
  | _ => exact h.done

theorem templateRules (h : b.Sound) (token : Token) : (b.templateRules token).1.Sound := by
  have become : ∀ mode : Mode, (Builder.again
      { b with templateModes := mode :: b.templateModes.drop 1 } mode token).1.Sound :=
    fun _ => h
  cases token with
  | text kind data => exact h.bodyRules _
  | comment data => exact h.bodyRules _
  | startTag tag =>
    refine effect (fun _ => h.headRules _) fun _ => ?_
    refine effect (fun _ => become _) fun _ => ?_
    refine effect (fun _ => become _) fun _ => ?_
    refine effect (fun _ => become _) fun _ => ?_
    exact effect (fun _ => become _) fun _ => become _
  | endTag name => exact effect (fun _ => h.headRules _) fun _ => h.done
  | endOfFile => exact h.endInTemplate
  | _ => exact h.done

/-! ## Tables -/

theorem fosterRules (h : b.Sound) (token : Token) : (b.fosterRules token).1.Sound :=
  bodyRules (b := { b with fostering := true }) h token

theorem deferText (h : b.Sound) (token : Token) : (b.deferText token).1.Sound :=
  effect (fun _ => h) fun _ => h.fosterRules token

theorem tableRules (h : b.Sound) (token : Token) : (b.tableRules token).1.Sound := by
  have cleared := h.popTo Name.boundsTableScope
  cases token with
  | text kind data => exact h.deferText _
  | null => exact h.deferText _
  | comment data => exact (h.addComment data).done
  | startTag tag =>
    simp only [Builder.tableRules]
    split
    · next hname => exact ((cleared.mark.startNamed hname (by decide)).enter _).done
    · next hname => exact ((cleared.startNamed hname (by decide)).enter _).done
    · exact (cleared.startImplied (by decide)).again _ _
    · next hname => exact ((cleared.startNamed hname (by decide)).enter _).done
    · next hname => exact ((cleared.startNamed hname (by decide)).enter _).done
    · next hname => exact ((cleared.startNamed hname (by decide)).enter _).done
    · exact (cleared.startImplied (by decide)).again _ _
    · exact (cleared.startImplied (by decide)).again _ _
    · exact (cleared.startImplied (by decide)).again _ _
    · exact effect (fun _ => (h.popThrough _).resetMode.again _ _) fun _ => h.done
    · exact h.headRules _
    · exact h.headRules _
    · exact h.headRules _
    · exact effect (fun _ => (h.addVoid tag).done) fun _ => h.fosterRules _
    · exact effect (fun _ => h.done) fun _ => (h.insert (Name.html "form") tag.attributes).1
    · exact h.fosterRules _
  | endTag name =>
    simp only [Builder.tableRules]
    split <;> with_reducible first
      | exact (ite (h.popThrough _).resetMode h).done
      | exact h.headRules _
      | exact h.done
      | exact h.fosterRules _
  | endOfFile => exact h.bodyRules _
  | _ => exact h.done

theorem foldl {α : Type} {f : Builder → α → Builder}
    (hf : ∀ {b : Builder} (x : α), b.Sound → (f b x).Sound) :
    ∀ (xs : List α) {b : Builder}, b.Sound → (xs.foldl f b).Sound
  | [], _, h => h
  | x :: xs, _, h => foldl hf xs (hf x h)

theorem placeText (h : b.Sound) : b.placeText.Sound :=
  have hnone : Sound { b with tableText := [] } := h
  ite (foldl (fun x h => h.addText x.2) _ hnone) (foldl (fun _ h => h.fosterRules _) _ hnone)

theorem tableTextRules (h : b.Sound) (token : Token) : (b.tableTextRules token).1.Sound := by
  cases token with
  | null => exact h.done
  | text kind data => exact h
  | _ => exact h.placeText.again _ _

theorem captionRules (h : b.Sound) (token : Token) : (b.captionRules token).1.Sound := by
  have closed := (h.endImplied.popThrough "caption").forgetToMark
  have leave : ∀ {c : Prop} [Decidable c] {mode : Mode},
      (if c then ((b.endImplied.popThrough "caption").forgetToMark).again mode token
        else b.done).1.Sound :=
    effect (fun _ => closed.again _ _) fun _ => h.done
  cases token with
  | startTag tag => exact effect (fun _ => leave) fun _ => h.bodyRules _
  | endTag name =>
    simp only [Builder.captionRules]
    split <;> with_reducible first
      | exact effect (fun _ => (closed.enter _).done) fun _ => h.done
      | exact leave
      | exact h.done
      | exact h.bodyRules _
  | _ => exact h.bodyRules _

theorem columnGroupRules (h : b.Sound) (token : Token) :
    (b.columnGroupRules token).1.Sound := by
  have otherwise : (if b.currentIs "colgroup" then b.pop.again .inTable token
      else b.done).1.Sound :=
    effect (fun _ => h.pop.again _ _) fun _ => h.done
  cases token with
  | text kind data =>
    cases kind with
    | mixed => exact h.split data
    | blank => exact (h.addText data).done
    | solid => exact otherwise
  | comment data => exact (h.addComment data).done
  | startTag tag =>
    simp only [Builder.columnGroupRules]
    split
    · exact h.mergeHtml tag
    · exact (h.addVoid tag).done
    · exact h.headRules _
    · exact otherwise
  | endTag name =>
    simp only [Builder.columnGroupRules]
    split
    · exact (ite (h.pop.enter _) h).done
    · exact h.done
    · exact h.headRules _
    · exact otherwise
  | endOfFile => exact h.bodyRules _
  | _ => exact otherwise

theorem tableBodyRules (h : b.Sound) (token : Token) : (b.tableBodyRules token).1.Sound := by
  have cleared := h.popTo Name.holdsRows
  have leave : ∀ {c : Prop} [Decidable c],
      (if c then (b.popTo Name.holdsRows).pop.again .inTable token else b.done).1.Sound :=
    effect (fun _ => cleared.pop.again _ _) fun _ => h.done
  cases token with
  | startTag tag =>
    simp only [Builder.tableBodyRules]
    split <;> with_reducible first
      | exact ((cleared.startNamed ‹_› (by decide)).enter _).done
      | exact (cleared.startImplied (by decide)).again _ _
      | exact leave
      | exact h.tableRules _
  | endTag name =>
    simp only [Builder.tableBodyRules]
    split <;> with_reducible first
      | exact (ite (cleared.pop.enter _) h).done
      | exact leave
      | exact h.done
      | exact h.tableRules _
  | _ => exact h.tableRules _

theorem rowRules (h : b.Sound) (token : Token) : (b.rowRules token).1.Sound := by
  have cleared := h.popTo Name.holdsCells
  have leave : (if b.inScope Name.boundsTableScope "tr" then
      (b.popTo Name.holdsCells).pop.again .inTableBody token else b.done).1.Sound :=
    effect (fun _ => cleared.pop.again _ _) fun _ => h.done
  cases token with
  | startTag tag =>
    simp only [Builder.rowRules]
    split <;> with_reducible first
      | exact (((cleared.startNamed ‹_› (by decide)).enter _).mark).done
      | exact leave
      | exact h.tableRules _
  | endTag name =>
    simp only [Builder.rowRules]
    split <;> with_reducible first
      | exact (ite (cleared.pop.enter _) h).done
      | exact leave
      | exact effect (fun _ => leave) fun _ => h.done
      | exact h.done
      | exact h.tableRules _
  | _ => exact h.tableRules _

theorem endCell (h : b.Sound) : b.endCell.Sound :=
  (h.endImplied.popThroughAny _).forgetToMark

theorem cellRules (h : b.Sound) (token : Token) : (b.cellRules token).1.Sound := by
  have leave : ∀ {c : Prop} [Decidable c],
      (if c then b.endCell.again .inRow token else b.done).1.Sound :=
    effect (fun _ => h.endCell.again _ _) fun _ => h.done
  cases token with
  | startTag tag => exact effect (fun _ => leave) fun _ => h.bodyRules _
  | endTag name =>
    simp only [Builder.cellRules]
    split <;> with_reducible first
      | exact (ite ((h.endImplied.popThrough _).forgetToMark.enter _) h).done
      | exact leave
      | exact h.done
      | exact h.bodyRules _
  | _ => exact h.bodyRules _

theorem endSelect (h : b.Sound) : b.endSelect.Sound :=
  (h.popThrough "select").resetMode

theorem selectRules (h : b.Sound) (token : Token) : (b.selectRules token).1.Sound := by
  have noOption := ite (c := b.currentIs "option") h.pop h
  have noGroup := fun c [Decidable c] => ite (c := c) noOption.pop noOption
  cases token with
  | text kind data => exact (h.addText data).done
  | comment data => exact (h.addComment data).done
  | startTag tag =>
    simp only [Builder.selectRules]
    split <;> with_reducible first
      | exact h.mergeHtml tag
      | exact (noOption.startNamed ‹_› (by decide)).done
      | exact ((noGroup _).startNamed ‹_› (by decide)).done
      | exact ((noGroup _).addVoid tag).done
      | exact (ite h.endSelect h).done
      | exact effect (fun _ => h.endSelect.again _ _) fun _ => h.done
      | exact h.headRules _
      | exact h.done
  | endTag name =>
    simp only [Builder.selectRules]
    split
    · exact (ite (ite h.pop h).pop (ite h.pop h)).done
    · exact noOption.done
    · exact (ite h.endSelect h).done
    · exact h.headRules _
    · exact h.done
  | endOfFile => exact h.bodyRules _
  | _ => exact h.done

theorem selectInTableRules (h : b.Sound) (token : Token) :
    (b.selectInTableRules token).1.Sound := by
  cases token with
  | startTag tag =>
    exact effect (fun _ => h.endSelect.again _ _) fun _ => h.selectRules _
  | endTag name =>
    exact effect (fun _ => effect (fun _ => h.endSelect.again _ _) fun _ => h.done)
      fun _ => h.selectRules _
  | _ => exact h.selectRules _

/-! ## Frames and the end -/

theorem afterBodyRules (h : b.Sound) (token : Token) : (b.afterBodyRules token).1.Sound := by
  unfold Builder.afterBodyRules
  split
  · exact h.split _
  · exact h.bodyRules _
  · exact (h.addCommentTo h.canHold_root _).done
  · exact effect (fun _ => h.mergeHtml _) fun _ => h.again _ _
  · exact effect (fun _ => (h.enter _).done) fun _ => h.again _ _
  · exact h.done
  · exact h.again _ _

theorem afterAfterBodyRules (h : b.Sound) (token : Token) :
    (b.afterAfterBodyRules token).1.Sound := by
  unfold Builder.afterAfterBodyRules
  split
  · exact h.split _
  · exact h.bodyRules _
  · exact (h.addCommentTo h.draft.canHold_document _).done
  · exact effect (fun _ => h.mergeHtml _) fun _ => h.again _ _
  · exact h.done
  · exact h.again _ _

theorem framesetRules (h : b.Sound) (token : Token) : (b.framesetRules token).1.Sound := by
  unfold Builder.framesetRules
  split
  · exact h.split _
  · exact (h.addText _).done
  · exact (h.addComment _).done
  · split
    · exact h.mergeHtml _
    · next hname => exact (h.startNamed hname (by decide)).done
    · exact (h.addVoid _).done
    · exact h.headRules _
    · exact h.done
  · exact effect (fun _ => (ite h.pop (h.pop.enter _)).done) fun _ => h.done
  · exact h.done

theorem afterFramesetRules (h : b.Sound) (token : Token) :
    (b.afterFramesetRules token).1.Sound := by
  unfold Builder.afterFramesetRules
  split
  · exact h.split _
  · exact (h.addText _).done
  · exact (h.addComment _).done
  · split
    · exact h.mergeHtml _
    · exact h.headRules _
    · exact h.done
  · exact effect (fun _ => (h.enter _).done) fun _ => h.done
  · exact h.done

theorem afterAfterFramesetRules (h : b.Sound) (token : Token) :
    (b.afterAfterFramesetRules token).1.Sound := by
  unfold Builder.afterAfterFramesetRules
  split
  · exact h.split _
  · exact h.bodyRules _
  · exact (h.addCommentTo h.draft.canHold_document _).done
  · split
    · exact h.mergeHtml _
    · exact h.headRules _
    · exact h.done
  · exact h.done

/-! ## Other vocabularies -/

/-- Inside another vocabulary the elements that are started belong to it. -/
theorem startInside (h : b.Sound)
    (hv : (b.current?.map fun id => (b.name id).vocabulary).getD .html ≠ .html)
    (tag : StartTag) : (b.startInside tag).Sound :=
  h.startForeign (Name.isVoid_eq_false hv) tag

theorem subset_of_endForeign {name : String} {stack : List PartId} :
    ∀ {first : Bool} {ids : List PartId}, b.endForeign name first ids = some stack →
      (∀ id ∈ ids, id ∈ b.stack) → ∀ id ∈ stack, id ∈ b.stack
  | _, [], h, _ => Option.some.inj h ▸ fun _ hid => hid
  | _, [_], h, _ => Option.some.inj h ▸ fun _ hid => hid
  | first, id :: next :: rest, h, hids => by
    have hrest := fun x hx => hids x (List.mem_cons_of_mem id hx)
    rw [Builder.endForeign] at h
    · split at h
      · cases h
      · split at h
        · exact Option.some.inj h ▸ hrest
        · exact subset_of_endForeign h hrest
    · simp

theorem vocabulary_of_isForeign {token : Token} (h : b.isForeign token = true) :
    (b.current?.map fun id => (b.name id).vocabulary).getD .html ≠ .html := by
  unfold isForeign at h
  cases hc : b.current? with
  | none => simp [hc] at h
  | some id =>
    simp only [hc] at h
    split at h
    · cases h
    · next hv => simpa using hv

theorem foreignRules (h : b.Sound) {token : Token} (hforeign : b.isForeign token = true)
    {otherwise : Builder → Token → Effect}
    (ho : ∀ {b : Builder} (token : Token), b.Sound → (otherwise b token).1.Sound) :
    (b.foreignRules otherwise token).1.Sound := by
  have hleft : (otherwise b.leaveForeign token).1.Sound := ho token (h.popTo _)
  cases token with
  | null => exact (h.addText _).done
  | text kind data => exact ((ite h h.noFrameset).addText _).done
  | comment data => exact (h.addComment data).done
  | startTag tag =>
    exact effect (fun _ => hleft)
      fun _ => (h.startInside (vocabulary_of_isForeign hforeign) tag).done
  | endTag name =>
    simp only [Builder.foreignRules]
    refine effect (fun _ => hleft) fun _ => ?_
    split
    · next stack hstack => exact h.of_subset (subset_of_endForeign hstack fun _ hid => hid)
    · exact ho _ h
  | _ => exact h.done

/-! ## All rules -/

theorem rulesOf (mode : Mode) (h : b.Sound) (token : Token) :
    (Builder.rulesOf mode b token).1.Sound := by
  cases mode with
  | initial => exact h.initialRules token
  | beforeHtml => exact h.beforeHtmlRules token
  | beforeHead => exact h.beforeHeadRules token
  | inHead => exact h.headRules token
  | inHeadNoscript => exact h.headNoscriptRules token
  | afterHead => exact h.afterHeadRules token
  | inBody => exact h.bodyRules token
  | text => exact h.textRules token
  | inTable => exact h.tableRules token
  | inTableText => exact h.tableTextRules token
  | inCaption => exact h.captionRules token
  | inColumnGroup => exact h.columnGroupRules token
  | inTableBody => exact h.tableBodyRules token
  | inRow => exact h.rowRules token
  | inCell => exact h.cellRules token
  | inSelect => exact h.selectRules token
  | inSelectInTable => exact h.selectInTableRules token
  | inTemplate => exact h.templateRules token
  | afterBody => exact h.afterBodyRules token
  | inFrameset => exact h.framesetRules token
  | afterFrameset => exact h.afterFramesetRules token
  | afterAfterBody => exact h.afterAfterBodyRules token
  | afterAfterFrameset => exact h.afterAfterFramesetRules token

theorem apply (h : b.Sound) (token : Token) : (b.apply token).1.Sound :=
  effect (fun hforeign => h.foreignRules hforeign fun token h => h.rulesOf _ token)
    fun _ => h.rulesOf _ token

end Sound
end Builder

end Hypertext.Document

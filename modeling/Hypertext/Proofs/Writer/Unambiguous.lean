import Hypertext.Proofs.Writer.Delimited
import Mathlib.Data.List.Chain

/-!
# Unambiguous markup

The markup of a regular document says all that there is to say about it: two of them with one
markup are one tree (`markup_injective`). Regular are the trees of elements, texts, comments and
document types whose parts can be delimited, without empty texts, without texts next to each
other, and without children where there can be none (`Regular`).

The first characters of a regular tree tell of what kind it is (`announced_flat`), and an end
tag announces none. That two trees with one markup are one is then a matter of their parts, by
induction on the tree (`Regular.unambiguous`): every statement on the way is about two trees
with anything behind them that does not go on with their last text.
-/

namespace Hypertext

/-- No two texts stand next to each other. -/
def TextsApart (below : List (Rose Content)) : Prop :=
  below.IsChain fun r s => ¬ (r.value.isText ∧ s.value.isText)

/-- Trees whose markup can be taken apart again. -/
inductive Regular : Rose Content → Prop where
  | element {e : Element} {below : List (Rose Content)} (element : e.Regular)
      (void : Tag.isVoid e.tag → below = []) (apart : TextsApart below)
      (each : ∀ r ∈ below, Regular r) : Regular (.node (.element e) below)
  | text {data : String} (nonempty : data ≠ "") : Regular (.node (.text data) [])
  | comment {data : String} (closed : ¬ ['-', '-', '>'] <:+: data.toList) :
      Regular (.node (.comment data) [])
  | doctype {d : Doctype} (doctype : d.Regular) : Regular (.node (.doctype d) [])

/-- Regular trees in order, without texts next to each other. -/
structure RegularAll (rs : List (Rose Content)) : Prop where
  apart : TextsApart rs
  each : ∀ r ∈ rs, Regular r

/-- A document of regular trees. -/
inductive RegularDocument : Rose Content → Prop where
  | document {below : List (Rose Content)} (regular : RegularAll below) :
      RegularDocument (.node .document below)

theorem RegularAll.tail {r : Rose Content} {rest : List (Rose Content)}
    (h : RegularAll (r :: rest)) : RegularAll rest :=
  ⟨h.apart.tail, fun s hs => h.each s (List.mem_cons_of_mem r hs)⟩

/-! ## The markup of regular trees -/

/-- The characters of the markup of a tree. -/
def flat (r : Rose Content) : List Char :=
  (markupOf false r).text

/-- What comes after a start tag up to its end, in the markup of a regular element. -/
def Element.restMarkup (e : Element) (below : List (Rose Content)) : List Char :=
  if Tag.isVoid e.tag then "/>".toList
  else '>' :: e.spareNewline below ++ below.flatMap flat ++ '<' :: '/' :: e.name.toList ++ ['>']

theorem Element.Regular.endMarkup_eq {e : Element} (h : e.Regular) :
    e.endMarkup = '<' :: '/' :: e.name.toList ++ ['>'] := by
  refine if_neg fun ht => h.content ?_
  rw [ht]
  rfl

theorem markupOfAll_eq : ∀ {rs : List (Rose Content)},
    (∀ r ∈ rs, (markupOf false r).fault = none) → markupOfAll false rs = ⟨rs.flatMap flat, none⟩
  | [], _ => by rw [markupOfAll, List.flatMap_nil]
  | r :: rest, h => by
    rw [markupOfAll, Passage.append_of_fault_none (h r List.mem_cons_self),
      markupOfAll_eq fun s hs => h s (List.mem_cons_of_mem r hs), List.flatMap_cons, flat]

theorem markupOf_element {e : Element} {below : List (Rose Content)} (he : e.Regular)
    (hv : Tag.isVoid e.tag → below = []) (h : ∀ r ∈ below, (markupOf false r).fault = none) :
    markupOf false (.node (.element e) below) = ⟨e.startMarkup ++ e.restMarkup below, none⟩ := by
  rw [markupOf, Element.restMarkup]
  by_cases hvoid : Tag.isVoid e.tag
  · rw [if_pos hvoid, if_pos hvoid, hv hvoid]
    rfl
  · have hliteral : Tag.isLiteral e.tag = false := Bool.eq_false_iff.mpr he.content
    rw [if_neg hvoid, if_neg hvoid, hliteral, markupOfAll_eq h, he.endMarkup_eq]
    simp

/-- A regular tree has markup. -/
theorem Regular.fault_eq_none {r : Rose Content} (h : Regular r) :
    (markupOf false r).fault = none := by
  induction h with
  | element he hv _ _ ih => rw [markupOf_element he hv ih]
  | text => rfl
  | comment => rfl
  | doctype => rfl

theorem RegularAll.markupOfAll_eq {rs : List (Rose Content)} (h : RegularAll rs) :
    markupOfAll false rs = ⟨rs.flatMap flat, none⟩ :=
  Hypertext.markupOfAll_eq fun r hr => (h.each r hr).fault_eq_none

theorem flat_element {e : Element} {below : List (Rose Content)} (he : e.Regular)
    (hv : Tag.isVoid e.tag → below = []) (h : ∀ r ∈ below, Regular r) :
    flat (.node (.element e) below) = e.startMarkup ++ e.restMarkup below := by
  rw [flat, markupOf_element he hv fun r hr => (h r hr).fault_eq_none]

theorem flat_text (data : String) : flat (.node (.text data) []) = escaped data := rfl

theorem flat_comment (data : String) : flat (.node (.comment data) []) = commentMarkup data := rfl

theorem flat_doctype (d : Doctype) : flat (.node (.doctype d) []) = d.markup := rfl

theorem Element.endsTag_restMarkup (e : Element) (below : List (Rose Content)) (x : List Char) :
    EndsTag (e.restMarkup below ++ x) := by
  rw [restMarkup]
  split
  · exact .inl rfl
  · exact .inr rfl

/-! ## What the first characters tell -/

/-- The kind of the node that a text goes on with, as far as its first characters tell; nothing
at the end, or before an end tag. -/
def announced : List Char → Option Kind
  | [] => none
  | '<' :: '/' :: _ => none
  | '<' :: '!' :: '-' :: _ => some .comment
  | '<' :: '!' :: _ => some .doctype
  | '<' :: _ => some .element
  | _ => some .text

theorem announced_of_ne {c : Char} (h : c ≠ '<') (x : List Char) :
    announced (c :: x) = some .text := by
  unfold announced
  split <;> simp_all

/-- Where no text goes on, a text ends. -/
theorem eq_of_announced_ne_text {x : List Char} (h : announced x ≠ some .text) :
    ∀ c ∈ x.head?, c = '<' := by
  cases x with
  | nil => rintro c ⟨⟩
  | cons c x =>
    rintro d ⟨⟩
    by_contra hne
    exact h (announced_of_ne hne x)

theorem announced_startMarkup {e : Element} (he : e.Regular) (x : List Char) :
    announced (e.startMarkup ++ x) = some .element := by
  rw [Element.startMarkup]
  have hname := he.name
  rw [isName, Bool.and_eq_true_iff] at hname
  cases hn : e.name.toList with
  | nil =>
    rw [hn] at hname
    exact absurd hname.1 Bool.false_ne_true
  | cons c rest =>
    have hc : c.isLower := by simpa [hn] using hname.1
    have hslash : c ≠ '/' := fun e => by subst e; exact absurd hc (by decide)
    have hbang : c ≠ '!' := fun e => by subst e; exact absurd hc (by decide)
    simp [announced, hslash, hbang]

theorem announced_escaped {data : String} (h : data ≠ "") (x : List Char) :
    announced (escaped data ++ x) = some .text := by
  cases he : escaped data with
  | nil => exact absurd (escaped_eq_nil.mp he) h
  | cons c rest =>
    refine announced_of_ne (fun hc => ?_) (rest ++ x)
    have hm : c ∈ escaped data := by rw [he]; exact List.mem_cons_self
    exact not_mem_escaped (by simp) data (hc ▸ hm)

/-- A regular tree announces its own kind. -/
theorem announced_flat {r : Rose Content} (h : Regular r) (x : List Char) :
    announced (flat r ++ x) = some r.value.kind := by
  cases h with
  | element he hv _ each =>
    rw [flat_element he hv each, List.append_assoc]
    exact announced_startMarkup he _
  | text hne => exact announced_escaped hne x
  | comment => rfl
  | doctype => rfl

/-- Regular trees in order announce the kind of the first one of them. -/
theorem announced_flatMap {rs : List (Rose Content)} (h : ∀ r ∈ rs, Regular r) {x : List Char}
    (hx : announced x = none) :
    announced (rs.flatMap flat ++ x) = rs.head?.map (·.value.kind) := by
  cases rs with
  | nil => exact hx
  | cons r rest =>
    rw [List.flatMap_cons, List.append_assoc]
    exact announced_flat (h r List.mem_cons_self) _

/-- Behind a text among regular trees comes no text. -/
theorem RegularAll.announced_ne_text {r : Rose Content} {rest : List (Rose Content)}
    (h : RegularAll (r :: rest)) {x : List Char} (hx : announced x = none)
    (hr : r.value.kind = .text) : announced (rest.flatMap flat ++ x) ≠ some .text := by
  have htext : ∀ {c : Content}, c.kind = .text → c.isText := by
    intro c hc
    cases c <;> first | rfl | cases hc
  rw [announced_flatMap h.tail.each hx, ne_eq, Option.map_eq_some_iff]
  rintro ⟨s, hs, hk⟩
  exact h.apart.rel_head? hs ⟨htext hr, htext hk⟩

/-! ## Trees with one markup -/

/-- The tree is the only regular one with its markup, whatever comes after it: only a text must
not go on. -/
def Unambiguous (r : Rose Content) : Prop :=
  ∀ {r' : Rose Content} {x y : List Char}, Regular r' →
    (r.value.kind = .text → announced x ≠ some .text) →
    (r'.value.kind = .text → announced y ≠ some .text) →
    flat r ++ x = flat r' ++ y → r = r' ∧ x = y

/-- Trees in order up to an end tag, or to the end, if each of them is unambiguous. -/
theorem RegularAll.unambiguous : ∀ {rs rs' : List (Rose Content)} {x y : List Char},
    RegularAll rs → RegularAll rs' → (∀ r ∈ rs, Unambiguous r) → announced x = none →
      announced y = none → rs.flatMap flat ++ x = rs'.flatMap flat ++ y → rs = rs' ∧ x = y
  | [], [], _, _, _, _, _, _, _, e => ⟨rfl, e⟩
  | [], r' :: rest', x, y, _, h', _, hx, hy, e => by
    have hr' := announced_flatMap h'.each hy
    rw [← e, List.flatMap_nil, List.nil_append, hx] at hr'
    cases hr'
  | r :: rest, [], x, y, h, _, _, hx, hy, e => by
    have hr := announced_flatMap h.each hx
    rw [e, List.flatMap_nil, List.nil_append, hy] at hr
    cases hr
  | r :: rest, r' :: rest', x, y, h, h', hu, hx, hy, e => by
    rw [List.flatMap_cons, List.flatMap_cons, List.append_assoc, List.append_assoc] at e
    obtain ⟨rfl, e'⟩ := hu r List.mem_cons_self (h'.each r' List.mem_cons_self)
      (h.announced_ne_text hx) (h'.announced_ne_text hy) e
    obtain ⟨rfl, hxy⟩ := h.tail.unambiguous h'.tail
      (fun s hs => hu s (List.mem_cons_of_mem r hs)) hx hy e'
    exact ⟨rfl, hxy⟩

/-- Regular trees in order up to a tag begin with a newline only if a text does. -/
theorem head?_flatMap_eq_newline {rs : List (Rose Content)} (h : ∀ r ∈ rs, Regular r)
    (x : List Char) :
    (rs.flatMap flat ++ '<' :: x).head? = some '\n' ↔ beginsWithNewline rs = true := by
  cases rs with
  | nil => simp [beginsWithNewline]
  | cons r rest =>
    rw [List.flatMap_cons, List.append_assoc]
    cases h r List.mem_cons_self with
    | element he hv _ each =>
      rw [flat_element he hv each, Element.startMarkup]
      simp [beginsWithNewline]
    | @text data hne =>
      rw [flat_text, beginsWithNewline, beq_iff_eq, ← head?_escaped_eq_newline]
      cases hd : escaped data with
      | nil => exact absurd (escaped_eq_nil.mp hd) hne
      | cons c rest => rfl
    | comment =>
      rw [flat_comment, commentMarkup]
      simp [beginsWithNewline]
    | doctype =>
      rw [flat_doctype, Doctype.markup]
      simp [beginsWithNewline]

/-- The newline that readers drop can be told from one that belongs to a text, because it is
only there in front of one. -/
theorem spareNewline_append_inj {e : Element} {below below' : List (Rose Content)}
    (h : ∀ r ∈ below, Regular r) (h' : ∀ r ∈ below', Regular r) {x y : List Char}
    (heq : e.spareNewline below ++ (below.flatMap flat ++ '<' :: x) =
      e.spareNewline below' ++ (below'.flatMap flat ++ '<' :: y)) :
    below.flatMap flat ++ '<' :: x = below'.flatMap flat ++ '<' :: y := by
  have hb := head?_flatMap_eq_newline h x
  have hb' := head?_flatMap_eq_newline h' y
  rw [Element.spareNewline, Element.spareNewline] at heq
  cases hd : dropsFirstNewline e.tag with
  | false => simpa [hd] using heq
  | true =>
    rw [hd, Bool.true_and, Bool.true_and] at heq
    by_cases hn : beginsWithNewline below <;> by_cases hn' : beginsWithNewline below'
    · rw [if_pos hn, if_pos hn'] at heq
      exact List.append_cancel_left heq
    · rw [if_pos hn, if_neg hn'] at heq
      exact absurd (hb'.mp (congrArg List.head? heq).symm) hn'
    · rw [if_neg hn, if_pos hn'] at heq
      exact absurd (hb.mp (congrArg List.head? heq)) hn
    · rw [if_neg hn, if_neg hn'] at heq
      exact heq

/-- An element is unambiguous if what stands below it is. -/
theorem unambiguous_element {e e' : Element} {below below' : List (Rose Content)}
    {x y : List Char} (h : Regular (.node (.element e) below))
    (h' : Regular (.node (.element e') below')) (hu : ∀ r ∈ below, Unambiguous r)
    (heq : flat (.node (.element e) below) ++ x = flat (.node (.element e') below') ++ y) :
    Rose.node (Content.element e) below = .node (.element e') below' ∧ x = y := by
  cases h with
  | element he hv apart each =>
  cases h' with
  | element he' hv' apart' each' =>
  rw [flat_element he hv each, flat_element he' hv' each', List.append_assoc,
    List.append_assoc] at heq
  obtain ⟨rfl, hrest⟩ := Element.startMarkup_append_inj he he' (e.endsTag_restMarkup below x)
    (e'.endsTag_restMarkup below' y) heq
  rw [Element.restMarkup, Element.restMarkup] at hrest
  by_cases hvoid : Tag.isVoid e.tag
  · rw [if_pos hvoid, if_pos hvoid] at hrest
    rw [hv hvoid, hv' hvoid]
    exact ⟨rfl, List.append_cancel_left hrest⟩
  · rw [if_neg hvoid, if_neg hvoid] at hrest
    simp only [List.cons_append, List.append_assoc, List.cons.injEq, true_and] at hrest
    obtain ⟨rfl, hend⟩ := RegularAll.unambiguous ⟨apart, each⟩ ⟨apart', each'⟩ hu rfl rfl
      (spareNewline_append_inj each each' hrest)
    simp only [List.cons.injEq, true_and, List.append_cancel_left_eq, List.nil_append] at hend
    exact ⟨rfl, hend⟩

theorem kind_eq_of_flat_append_eq {r r' : Rose Content} (h : Regular r) (h' : Regular r')
    {x y : List Char} (heq : flat r ++ x = flat r' ++ y) : r.value.kind = r'.value.kind := by
  rw [← Option.some_inj, ← announced_flat h x, ← announced_flat h' y, heq]

/-- Regular trees are unambiguous, by induction on the tree. -/
theorem Regular.unambiguous {r : Rose Content} (h : Regular r) : Unambiguous r := by
  induction h with
  | element he hv apart each ih =>
    intro r' x y h' _ _ heq
    have hkind := kind_eq_of_flat_append_eq (.element he hv apart each) h' heq
    cases h' with
    | element he' hv' apart' each' =>
      exact unambiguous_element (.element he hv apart each) (.element he' hv' apart' each') ih heq
    | _ => cases hkind
  | text hne =>
    intro r' x y h' hx hy heq
    have hkind := kind_eq_of_flat_append_eq (.text hne) h' heq
    cases h' with
    | text hne' =>
      obtain ⟨rfl, hxy⟩ := escaped_append_inj (by decide) (eq_of_announced_ne_text (hx rfl))
        (eq_of_announced_ne_text (hy rfl)) heq
      exact ⟨rfl, hxy⟩
    | _ => cases hkind
  | comment hc =>
    intro r' x y h' _ _ heq
    have hkind := kind_eq_of_flat_append_eq (.comment hc) h' heq
    cases h' with
    | comment hc' =>
      obtain ⟨rfl, hxy⟩ := commentMarkup_append_inj hc hc' heq
      exact ⟨rfl, hxy⟩
    | _ => cases hkind
  | doctype hd =>
    intro r' x y h' _ _ heq
    have hkind := kind_eq_of_flat_append_eq (.doctype hd) h' heq
    cases h' with
    | doctype hd' =>
      obtain ⟨rfl, hxy⟩ := Doctype.markup_append_inj hd hd' heq
      exact ⟨rfl, hxy⟩
    | _ => cases hkind

/-! ## Documents -/

theorem RegularDocument.fault_eq_none {r : Rose Content} (h : RegularDocument r) :
    (markupOf false r).fault = none := by
  obtain ⟨h⟩ := h
  rw [markupOf, h.markupOfAll_eq]

theorem RegularDocument.eq_of_text_eq {r r' : Rose Content} (h : RegularDocument r)
    (h' : RegularDocument r') (heq : (markupOf false r).text = (markupOf false r').text) :
    r = r' := by
  obtain ⟨h⟩ := h
  obtain ⟨h'⟩ := h'
  rw [markupOf, markupOf, h.markupOfAll_eq, h'.markupOfAll_eq] at heq
  rw [(h.unambiguous h' (fun r hr => (h.each r hr).unambiguous) rfl rfl
    (congrArg (· ++ []) heq)).1]

/-- A tree that can be built and that is a regular document has markup, and no other document
has the same one. -/
theorem markup_injective {t u : Tree} (ht : t.Reachable) (hu : u.Reachable)
    (hrt : RegularDocument (t.shape Tree.root)) (hru : RegularDocument (u.shape Tree.root)) :
    (∃ s, (t.markup Tree.root).text? = .ok s) ∧
      ((t.markup Tree.root).text? = (u.markup Tree.root).text? →
        t.shape Tree.root = u.shape Tree.root) := by
  have htext : ∀ {t : Tree}, t.Reachable → RegularDocument (t.shape Tree.root) →
      (t.markup Tree.root).text? =
        .ok (String.ofList (markupOf false (t.shape Tree.root)).text) := by
    intro t ht hr
    have hp := ht.linked.markup_passage Tree.root
    have hf : (t.markup Tree.root).fault = none := by
      rw [← hr.fault_eq_none, ← hp, Output.passage]
    rw [Output.text?, hf, Output.text_eq, hp]
  refine ⟨⟨_, htext ht hrt⟩, fun heq => hrt.eq_of_text_eq hru ?_⟩
  rw [htext ht hrt, htext hu hru] at heq
  exact String.ofList_injective (Except.ok.inj heq)

/-- A page with a text in two places, once as an attribute. -/
def page (data : String) : Tree :=
  (Tree.single .document).run
    [.addChild 0 (.doctype ⟨"html", "", "about:legacy-compat"⟩),
      .addChild 0 (.element (.named "pre" [⟨"title", data⟩])), .addChild 2 (.text data),
      .addChild 2 (.element (.named "br" [])), .addChild 2 (.comment "--")]

theorem reachable_page (data : String) : (page data).Reachable :=
  ⟨_, _, rfl⟩

theorem shape_page (data : String) : (page data).shape Tree.root = .node .document
    [.node (.doctype ⟨"html", "", "about:legacy-compat"⟩) [],
      .node (.element (.named "pre" [⟨"title", data⟩]))
        [.node (.text data) [], .node (.element (.named "br" [])) [],
          .node (.comment "--") []]] := by
  cbv

theorem regular_page {data : String} (h : data ≠ "") :
    RegularDocument ((page data).shape Tree.root) := by
  have hpre : Element.Regular (.named "pre" [⟨"title", data⟩]) := {
    named := rfl
    name := (by decide : isName "pre")
    keys := List.forall_mem_singleton.mpr (by decide : isWord "title")
    content := (by decide : ¬ Tag.isLiteral (Tag.ofName? "pre")) }
  have hbr : Regular (.node (.element (.named "br" [])) []) :=
    .element ⟨rfl, by decide, by decide, by decide⟩ (fun _ => rfl) .nil (by simp)
  have hcomment : Regular (.node (.comment "--") []) := .comment (by decide)
  have hdoctype : Regular (.node (.doctype ⟨"html", "", "about:legacy-compat"⟩) []) :=
    .doctype ⟨by decide, List.all_eq_true.mp (by decide), by decide, by decide⟩
  rw [shape_page]
  refine ⟨⟨by simp [TextsApart, Rose.value, Content.isText], ?_⟩⟩
  rw [List.forall_mem_cons, List.forall_mem_singleton]
  refine ⟨hdoctype, .element hpre (fun hv => absurd hv ?_) ?_ ?_⟩
  · exact (by decide : ¬ Tag.isVoid (Tag.ofName? "pre"))
  · simp [TextsApart, Rose.value, Content.isText]
  · rw [List.forall_mem_cons, List.forall_mem_cons, List.forall_mem_singleton]
    exact ⟨.text h, hbr, hcomment⟩

/-- Two pages that differ only in what could be taken for a reference. -/
theorem markup_page_ne : RegularDocument ((page "\n<").shape Tree.root) ∧
    RegularDocument ((page "\n&lt;").shape Tree.root) ∧
    (∃ s, ((page "\n<").markup Tree.root).text? = .ok s) ∧
    ((page "\n<").markup Tree.root).text? ≠ ((page "\n&lt;").markup Tree.root).text? := by
  have h := regular_page (by decide : "\n<" ≠ "")
  have h' := regular_page (by decide : "\n&lt;" ≠ "")
  obtain ⟨hok, hinj⟩ := markup_injective (reachable_page _) (reachable_page _) h h'
  refine ⟨h, h', hok, fun heq => ?_⟩
  have hshape := hinj heq
  rw [shape_page, shape_page] at hshape
  simp at hshape

end Hypertext

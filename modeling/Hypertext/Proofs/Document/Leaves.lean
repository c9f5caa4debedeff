import Hypertext.Proofs.Document.Rules

/-!
# Leaves of documents

Reading applies rules to tokens, and starts from an empty document; so what every rule keeps holds
of the document in the end. In a document that was read, only the document itself and elements
have parts below them, and of these not the void elements of HTML.

* `Reader.sound_run`: the builder is sound however far a document has been read.
* `sound_read`: what has children in a document that was read is a part that can have some.
-/

namespace Hypertext.Document

namespace Dom

/-- A document stands somewhere in another, at the top or below. -/
inductive In (e : Dom) : Dom → Prop where
  | self : e.In e
  | child {part : Part} {children : List Dom} {c : Dom} (hc : c ∈ children) (h : e.In c) :
    e.In (.node part children)

theorem In.trans {d e l : Dom} (h : e.In l) (h' : l.In d) : e.In d := by
  induction h' with
  | self => exact h
  | child hc _ ih => exact .child hc ih

/-- Only parts that can have children have some. -/
def Sound (d : Dom) : Prop :=
  ∀ e : Dom, e.In d → e.children ≠ [] → e.part.canHold = true

theorem Sound.leaf (part : Part) : Sound (.node part []) := by
  rintro e (_ | ⟨hc, _⟩) hne
  · exact absurd rfl hne
  · exact absurd hc List.not_mem_nil

theorem Sound.child {part : Part} {children : List Dom} {c : Dom}
    (h : Sound (.node part children)) (hc : c ∈ children) : c.Sound :=
  fun e he => h e (.child hc he)

@[elab_as_elim, induction_eliminator]
theorem induction {P : Dom → Prop}
    (node : ∀ part children, (∀ c ∈ children, P c) → P (.node part children)) : ∀ d, P d
  | .node part children => node part children fun c _ => induction node c

end Dom

/-! ## Tokens -/

namespace Builder.Sound

theorem settle : ∀ (fuel : Nat) {b : Builder} (tokens : List Token), b.Sound →
    (Builder.settle fuel b tokens).1.Sound
  | 0, _, _, h => h
  | _ + 1, _, [], h => h
  | fuel + 1, b, token :: rest, h => by
    have happlied := h.apply token
    rw [Builder.settle]
    split
    all_goals
      next heffect =>
        rw [heffect] at happlied
        first
          | exact happlied
          | exact settle fuel _ happlied

theorem accept {b : Builder} (h : b.Sound) (token : Token) : (b.accept token).1.Sound := by
  have hkept : Sound { b with dropNewline := false } := h
  cases token with
  | mistake => exact hkept
  | doctype d => exact hkept.addDoctype d
  | text kind data =>
    have hrest : ∀ (fuel : Nat) (data : List Char),
        (if data.isEmpty then ({ b with dropNewline := false }, none)
          else Builder.settle fuel { b with dropNewline := false } [.text kind data]).1.Sound := by
      intro fuel data
      split
      · exact hkept
      · exact settle _ _ hkept
    exact hrest _ _
  | _ => exact settle _ _ hkept

theorem acceptAll : ∀ (tokens : List Token) {b : Builder}, b.Sound → (b.acceptAll tokens).1.Sound
  | [], _, h => h
  | [token], _, h => h.accept token
  | token :: next :: rest, _, h => acceptAll (next :: rest) (h.accept token)

end Builder.Sound

/-- However far a document has been read, the builder is sound. -/
theorem Reader.sound_run : ∀ (fuel : Nat) {r : Reader} (s : List Char), r.builder.Sound →
    (run fuel r s).Sound
  | 0, _, _, h => h
  | _ + 1, _, [], h => h
  | fuel + 1, _, _ :: _, h => sound_run fuel _ (h.acceptAll _)

/-! ## The finished document -/

namespace Draft.Sound

variable {d : Draft}

theorem domAt (h : d.Sound) : ∀ (fuel : Nat) (id : PartId), (d.domAt fuel id).Sound
  | 0, _ => .leaf _
  | fuel + 1, id => by
    rw [Draft.domAt]
    split
    · exact .leaf _
    · next entry hentry =>
      intro e he hne
      cases he with
      | self =>
        cases hhold : entry.part.canHold with
        | true => exact hhold
        | false =>
          refine absurd ?_ hne
          rw [Dom.children, (h.entry id entry hentry).empty hhold]
          rfl
      | child hc he =>
        obtain ⟨c, -, rfl⟩ := List.mem_map.mp hc
        exact h.domAt fuel c e he hne

theorem part_finish (h : d.Sound) : d.finish.part = .document := by
  obtain ⟨entry, hentry, hpart⟩ := h.top
  rw [Draft.finish]
  cases d.entries.size with
  | zero => rfl
  | succ n => rw [Draft.domAt, hentry, Dom.part, hpart]

end Draft.Sound

/-- A document that was read begins with the document itself. -/
theorem part_read (s : List Char) : (read s).part = .document :=
  (Builder.Sound.accept (Reader.sound_run _ _ .start) _).draft.part_finish

/-- What has children in a document that was read can have some: it is the document or an element,
and not a void element of HTML. -/
theorem sound_read (s : List Char) : (read s).Sound :=
  (Builder.Sound.accept (Reader.sound_run _ _ .start) _).draft.domAt _ _

end Hypertext.Document

import Mathlib.Data.Bool.AllAny
import Hypertext.Proofs.Charset.Declared
import Hypertext.Proofs.Text.Delimiter
import Hypertext.Proofs.Text.Greedy

/-!
# The label in a tag

The run behind `<meta` takes in all that it can of the tag, so it is the last `charset` of a tag
whose label is found (`fit?_of_opening`). A tag in front of it that has not ended and declares
nothing can only lengthen the run: where the search begins in that tag, the same label is found
(`search?_of_opening`).
-/

namespace Hypertext.Charset

open Pattern

variable {word : String} {c d : Char} {s before tag lab inTag stop : List Char}

/-! ## Words in any case -/

/-- Only capitals change where they become small letters. -/
theorem toLower_eq_or_capital (c : Char) : c.toLower = c ∨ 65 ≤ c.toNat ∧ c.toNat ≤ 90 := by
  by_cases hc : c.val ≥ 'A'.val ∧ c.val ≤ 'Z'.val
  · exact .inr ⟨UInt32.le_iff_toNat_le.mp hc.1, UInt32.le_iff_toNat_le.mp hc.2⟩
  · exact .inl (dif_neg hc)

theorem forall_capital {P : Char → Prop} (hP : ∀ v < 91, 65 ≤ v → P (Char.ofNat v))
    (hc : 65 ≤ c.toNat ∧ c.toNat ≤ 90) : P c := by
  have hchar := hP c.toNat (Nat.lt_succ_of_le hc.2) hc.1
  rwa [Char.ofNat_toNat] at hchar

/-- A character that becomes `c` as a small letter is `c` or its capital. -/
theorem eq_or_eq_toUpper (h : d.toLower = c) : d = c ∨ d = c.toUpper := by
  subst h
  rcases toLower_eq_or_capital d with hd | hd
  · exact .inl hd.symm
  · have hback : d.toLower.toUpper = d :=
      forall_capital (P := fun c => c.toLower.toUpper = c) (by decide) hd
    exact .inr hback.symm

/-- The characters among which are all that count as `c` in any case. -/
def spellings (c : Char) : List Char :=
  [c, c.toUpper, '\u017f', '\u212a']

theorem mem_of_caseless (h : caseless c d) : d ∈ spellings c := by
  simp only [caseless, Bool.or_eq_true, Bool.and_eq_true, beq_iff_eq] at h
  rcases h with ((rfl | h) | ⟨-, rfl⟩) | ⟨-, rfl⟩
  · exact List.mem_cons_self
  · rcases eq_or_eq_toUpper h with rfl | rfl <;> simp [spellings]
  · simp [spellings]
  · simp [spellings]

theorem matches_spelled (word : String) : (spelled word).Matches word.toList := by
  rw [spelled]
  induction word.toList with
  | nil => rfl
  | cons c cs ih =>
    exact ⟨[c], cs, rfl, ⟨rfl, List.forall_mem_singleton.mpr (by simp [caseless])⟩, ih⟩

theorem forall_of_spelled {P : Char → Prop} [DecidablePred P] (hs : (spelled word).Matches s)
    (hP : word.toList.all fun c => (spellings c).all fun d => caseless c d → P d) :
    ∀ d ∈ s, P d := by
  refine hs.forall_mem fun piece hpiece d hd => ?_
  obtain ⟨c, hc, rfl⟩ := List.mem_map.mp hpiece
  exact List.all_iff_forall_prop.mp (List.all_eq_true.mp hP c hc) d (mem_of_caseless hd) hd

/-- A sign is spelled in one way. -/
theorem eq_of_spelled (hs : Matches [⟨.one, caseless c⟩] s)
    (hc : (spellings c).all fun d => caseless c d → d = c) : s = [c] := by
  obtain ⟨hlength, hs⟩ := matches_singleton.mp hs
  obtain ⟨d, rfl⟩ := List.length_eq_one_iff.mp hlength
  have hd : caseless c d := hs d List.mem_cons_self
  rw [List.all_iff_forall_prop.mp hc d (mem_of_caseless hd) hd]

theorem count_spelled : ∀ piece ∈ spelled word, piece.count = .one := by
  simp [spelled]

/-! ## Tags -/

/-- What stands in front of a label: a tag up to its word `charset`, an equals sign, and a quote if
there is one. -/
def opening : Pattern :=
  spelled "<meta" ++ ([withinTag] ++ (spelled "charset" ++ (equals ++ [maybeQuote])))

/-- The simplest tags up to their label. -/
theorem matches_opening {run quote : List Char} (hrun : withinTag.Takes run)
    (hquote : maybeQuote.Takes quote) :
    opening.Matches ("<meta".toList ++ (run ++ ("charset".toList ++ (['='] ++ quote)))) := by
  have hnone : Matches [spaces] [] := matches_singleton.mpr ⟨trivial, List.forall_mem_nil _⟩
  have hsign : equals.Matches ['='] := (hnone.append (matches_spelled "=")).append hnone
  have hmark := (matches_spelled "charset").append (hsign.append (matches_singleton.mpr hquote))
  exact (matches_spelled "<meta").append ((matches_singleton.mpr hrun).append hmark)

/-- A label behind the word `charset`. -/
def declaration : Pattern :=
  spelled "charset" ++ (equals ++ [maybeQuote, Charset.label])

theorem charsetAttribute_eq_declaration :
    charsetAttribute = spelled "<meta" ++ (withinTag :: declaration) := by
  simp only [charsetAttribute, declaration, List.append_assoc]
  rfl

theorem declaration_eq : declaration =
    ⟨.one, caseless 'c'⟩ :: (spelled "harset" ++ (equals ++ [maybeQuote, Charset.label])) :=
  rfl

/-- A label, what follows it in its tag, and the text from the end of the tag. Nothing else is
declared in the tag from the label on. -/
structure LastLabel (lab inTag stop : List Char) : Prop where
  label : Charset.label.Takes lab
  ends : ∀ c ∈ (inTag ++ stop).head?, ¬ isLabelChar c
  last : declaration.search? (lab ++ inTag) = none
  within : ∀ c ∈ inTag, c ≠ '>'
  stop : ∀ c ∈ stop.head?, c = '>'

/-! ## The parts of a declaration -/

theorem not_isSpace_of_isLabelChar (hc : isLabelChar c) : ¬ isSpace c := by
  simp only [isLabelChar, Bool.not_eq_true', Bool.or_eq_false_iff] at hc
  simp [hc]

theorem not_isQuote_of_isLabelChar (hc : isLabelChar c) : ¬ isQuote c := by
  simp only [isLabelChar, Bool.not_eq_true', Bool.or_eq_false_iff] at hc
  simp [hc]

theorem not_isSpace_of_isQuote (hc : isQuote c) : ¬ isSpace c := by
  simp only [isQuote, Bool.or_eq_true, beq_iff_eq] at hc
  rcases hc with rfl | rfl <;> decide

/-- An equals sign takes all the spaces around it. -/
theorem takesMost_equals {sign rest : List Char} (hsign : equals.Matches sign)
    (hrest : ∀ c ∈ rest.head?, ¬ isSpace c) : equals.TakesMost sign rest := by
  obtain ⟨_, after, rfl, h, hafter⟩ := matches_append.mp hsign
  obtain ⟨before, equalsSign, rfl, hbefore, hequals⟩ := matches_append.mp h
  rw [matches_singleton] at hbefore hafter
  refine ((takesMost_singleton (hbefore.takesMost ?_)).append
    (hequals.takesMost count_spelled)).append (takesMost_singleton (hafter.takesMost hrest))
  rw [eq_of_spelled (c := '=') hequals (by decide)]
  rintro c ⟨⟩
  decide

/-- What stands in front of a label is cut up in one way, as no piece of it takes a part of the
label. -/
theorem takesMost_mark {mark rest : List Char}
    (hmark : (spelled "charset" ++ (equals ++ [maybeQuote])).Matches mark)
    (hrest : ∀ c ∈ rest.head?, isLabelChar c) :
    (spelled "charset" ++ (equals ++ [maybeQuote])).TakesMost mark rest := by
  obtain ⟨word, _, rfl, hword, h⟩ := matches_append.mp hmark
  obtain ⟨sign, quote, rfl, hsign, hquote⟩ := matches_append.mp h
  rw [matches_singleton] at hquote
  have hquoted : ∀ c ∈ (quote ++ rest).head?, ¬ isSpace c := by
    cases quote with
    | nil => exact fun c hc => not_isSpace_of_isLabelChar (hrest c hc)
    | cons c quote =>
      rintro c ⟨⟩
      exact not_isSpace_of_isQuote (hquote.2 c List.mem_cons_self)
  refine (hword.takesMost count_spelled).append ((takesMost_equals hsign hquoted).append
    (takesMost_singleton (hquote.takesMost ?_)))
  exact fun c hc => not_isQuote_of_isLabelChar (hrest c hc)

/-- A label is captured behind what stands in front of it. -/
theorem split?_declaration {mark lab rest : List Char}
    (hmark : (spelled "charset" ++ (equals ++ [maybeQuote])).Matches mark)
    (hlab : Charset.label.Takes lab) (hrest : ∀ c ∈ rest.head?, ¬ isLabelChar c) :
    declaration.split? (mark ++ (lab ++ rest)) = some (lab ++ rest, rest) := by
  have hlast := split?_of_takesMost (hlab.takesMost hrest)
  have hfirst : ∀ c ∈ (lab ++ rest).head?, isLabelChar c := by
    obtain ⟨c, more, rfl⟩ := List.exists_cons_of_length_pos hlab.1
    rintro c ⟨⟩
    exact hlab.2 c List.mem_cons_self
  have hsplit := split?_append_of_takesMost (List.cons_ne_nil _ _) (Option.isSome_of_eq_some hlast)
    (takesMost_mark hmark hfirst)
  rw [hlast] at hsplit
  exact hsplit

/-! ## The last declaration of a tag -/

/-- A declaration does not go beyond the end of the tag. -/
theorem split?_declaration_eq_none {text stop more after : List Char}
    (htext : declaration.search? text = none) (hstop : ∀ c ∈ stop.head?, c = '>')
    (e : text ++ stop = more ++ after) (hmore : ∀ c ∈ more, c ≠ '>') :
    declaration.split? after = none := by
  have haccepts : ∀ piece ∈ declaration, piece.accepts '>' = false := by
    decide +kernel
  rw [← Option.not_isSome_iff_eq_none, isSome_split?]
  rintro ⟨declared, rest, rfl, hdeclared⟩
  obtain ⟨behind, rfl⟩ : more ++ declared <+: text := by
    refine prefix_of_append_eq (y := rest) ?_ hstop ?_
    · exact List.forall_mem_append.mpr ⟨hmore, hdeclared.ne haccepts⟩
    · rw [e, List.append_assoc]
  have hfound : (declaration.search? (more ++ declared ++ behind)).isSome :=
    isSome_search?.mpr ⟨more, declared, behind, rfl, hdeclared⟩
  rw [htext] at hfound
  cases hfound

/-- The word `charset` begins with its only `c`, so no declaration begins in the rest of it, and
neither in the equals sign and the quote behind it. -/
theorem search?_declaration_mark {mark : List Char}
    (hmark : (spelled "harset" ++ (equals ++ [maybeQuote])).Matches mark) (s : List Char) :
    declaration.search? (mark ++ s) = declaration.search? s := by
  have hrejects : ∀ piece ∈ spelled "harset" ++ (equals ++ [maybeQuote]),
      piece.accepts 'c' = false ∧ piece.accepts 'C' = false := by
    decide +kernel
  have hfirst : ∀ d ∈ spellings 'c', caseless 'c' d → d = 'c' ∨ d = 'C' :=
    List.all_iff_forall_prop.mp (by decide)
  rw [declaration_eq]
  refine search?_append_of_rejected rfl s (hmark.forall_mem fun piece hpiece d hd hc => ?_)
  obtain ⟨hsmall, hcapital⟩ := hrejects piece hpiece
  rcases hfirst d (mem_of_caseless hc) hc with rfl | rfl
  · rw [hsmall] at hd
    cases hd
  · rw [hcapital] at hd
    cases hd

/-- Behind the beginning of the last declaration there is none in the tag. -/
theorem split?_declaration_behind {mark more after : List Char}
    (hmark : (spelled "charset" ++ (equals ++ [maybeQuote])).Matches mark)
    (h : LastLabel lab inTag stop) (e : mark ++ (lab ++ (inTag ++ stop)) = more ++ after)
    (hne : more ≠ []) (hmore : ∀ c ∈ more, c ≠ '>') : declaration.split? after = none := by
  obtain ⟨first, mark, rfl, ⟨hlength, -⟩, hmark⟩ := hmark
  obtain ⟨c, rfl⟩ := List.length_eq_one_iff.mp hlength
  obtain ⟨d, more, rfl⟩ := List.exists_cons_of_ne_nil hne
  have htext : declaration.search? (mark ++ (lab ++ inTag)) = none := by
    rw [search?_declaration_mark hmark, h.last]
  have hcut : mark ++ (lab ++ inTag) ++ stop = more ++ after := by
    simpa using (List.cons.inj e).2
  exact split?_declaration_eq_none htext h.stop hcut (List.forall_mem_cons.mp hmore).2

theorem declaration_ne_nil : declaration ≠ [] := by
  simp [declaration]

/-- Of a tag the last label is found. -/
theorem fit?_of_opening (htag : opening.Matches tag) (h : LastLabel lab inTag stop) :
    charsetAttribute.fit? (tag ++ (lab ++ (inTag ++ stop))) = some lab := by
  obtain ⟨name, _, rfl, hname, htag⟩ := matches_append.mp htag
  obtain ⟨run, mark, rfl, hrun, hmark⟩ := matches_append.mp htag
  rw [matches_singleton] at hrun
  have hdeclared := split?_declaration hmark h.label h.ends
  have hwithin : split? (withinTag :: declaration) (run ++ (mark ++ (lab ++ (inTag ++ stop)))) =
      some (lab ++ (inTag ++ stop), inTag ++ stop) := by
    rw [split?_cons_of_ne_nil withinTag declaration_ne_nil,
      Piece.andThen_eq_of_last hrun (Option.isSome_of_eq_some hdeclared), hdeclared]
    intro more after e hne hmore
    exact split?_declaration_behind hmark h e hne fun c hc =>
      bne_iff_ne.mp (hmore.2 c (List.mem_append_right run hc))
  have hsplit : charsetAttribute.split? (name ++ (run ++ mark) ++ (lab ++ (inTag ++ stop))) =
      some (lab ++ (inTag ++ stop), inTag ++ stop) := by
    rw [charsetAttribute_eq_declaration, List.append_assoc, List.append_assoc,
      split?_append_of_takesMost (List.cons_ne_nil _ _) (Option.isSome_of_eq_some hwithin)
        (hname.takesMost count_spelled), hwithin]
  exact fit?_of_split? hsplit

/-! ## The tag that is found -/

theorem exists_of_meta (h : (spelled "<meta").Matches s) :
    ∃ name, s = '<' :: name ∧ (spelled "meta").Matches name := by
  have happend : spelled "<meta" = spelled "<" ++ spelled "meta" := rfl
  rw [happend] at h
  obtain ⟨_, name, rfl, hsign, hname⟩ := matches_append.mp h
  rw [eq_of_spelled (c := '<') hsign (by decide)]
  exact ⟨name, rfl, hname⟩

theorem exists_of_opening (h : opening.Matches tag) : ∃ more, tag = '<' :: more := by
  obtain ⟨_, inner, rfl, hname, -⟩ := matches_append.mp h
  obtain ⟨name, rfl, -⟩ := exists_of_meta hname
  exact ⟨name ++ inner, rfl⟩

/-- A tag that has not ended goes on into the one behind it. -/
theorem opening_append {name between : List Char} (hname : (spelled "<meta").Matches name)
    (hbetween : ∀ c ∈ between, c ≠ '>') (htag : opening.Matches tag) :
    opening.Matches (name ++ between ++ tag) := by
  obtain ⟨tagName, inner, rfl, htagName, hinner⟩ := matches_append.mp htag
  obtain ⟨run, mark, rfl, hrun, hmark⟩ := matches_append.mp hinner
  rw [matches_singleton] at hrun
  have hletters : ∀ c ∈ tagName, c ≠ '>' := forall_of_spelled htagName (by decide)
  have hchars : ∀ c ∈ between ++ tagName ++ run, c ≠ '>' :=
    List.forall_mem_append.mpr ⟨List.forall_mem_append.mpr ⟨hbetween, hletters⟩, fun c hc =>
      bne_iff_ne.mp (hrun.2 c hc)⟩
  have hlength : 0 < (between ++ tagName ++ run).length := by
    rw [List.length_append]
    exact Nat.lt_of_lt_of_le hrun.1 (Nat.le_add_left _ _)
  have hwithin : withinTag.Takes (between ++ tagName ++ run) :=
    ⟨hlength, fun c hc => bne_iff_ne.mpr (hchars c hc)⟩
  have hopening : opening.Matches (name ++ (between ++ tagName ++ run ++ mark)) :=
    hname.append ((matches_singleton.mpr hwithin).append hmark)
  simpa only [List.append_assoc] using hopening

/-- A fit that begins in front of a tag has its name there, as the name does not hold the sign that
begins the tag. -/
theorem exists_name_of_matches {t : List Char} (hne : before ≠ []) (ht : ∀ c ∈ t.head?, c = '<')
    (h : charsetAttribute.Matches (before ++ t)) :
    ∃ name between, before = name ++ between ∧ (spelled "<meta").Matches name := by
  rw [charsetAttribute_eq_declaration] at h
  obtain ⟨_, more, hmore, hname, -⟩ := matches_append.mp h
  obtain ⟨letters, rfl, hletters⟩ := exists_of_meta hname
  obtain ⟨d, before, rfl⟩ := List.exists_cons_of_ne_nil hne
  obtain ⟨rfl, hspelled⟩ := List.cons.inj hmore
  have hsign : ∀ c ∈ letters, c ≠ '<' := forall_of_spelled hletters (by decide)
  obtain ⟨between, rfl⟩ := prefix_of_append_eq hsign ht hspelled
  exact ⟨'<' :: letters, between, rfl, hname⟩

/-- Where a fit begins in front of a tag and does not end there, it begins with a tag that goes on
into the other one. -/
theorem opening_of_split? {rest : List Char} (hne : before ≠ []) (htag : opening.Matches tag)
    (hbefore : charsetAttribute.split? before = none)
    (h : (charsetAttribute.split? (before ++ (tag ++ rest))).isSome) :
    opening.Matches (before ++ tag) := by
  have haccepts : ∀ piece ∈ charsetAttribute, piece.accepts '>' = false := by
    decide +kernel
  obtain ⟨s, v, e, hs⟩ := isSome_split?.mp h
  obtain ⟨t, rfl, ht⟩ : ∃ t, s = before ++ t ∧ tag ++ rest = t ++ v := by
    rcases List.append_eq_append_iff.mp e with h | ⟨t, rfl, -⟩
    · exact h
    · have hfits : (charsetAttribute.split? (s ++ t)).isSome := isSome_split?.mpr ⟨s, t, rfl, hs⟩
      rw [hbefore] at hfits
      cases hfits
  have hfirst : ∀ c ∈ t.head?, c = '<' := by
    obtain ⟨more, rfl⟩ := exists_of_opening htag
    intro c hc
    cases t with
    | nil => cases hc
    | cons b t => rw [← Option.some.inj hc, (List.cons.inj ht).1]
  obtain ⟨name, between, rfl, hname⟩ := exists_name_of_matches hne hfirst hs
  exact opening_append hname (fun c hc => hs.ne haccepts c (by simp [hc])) htag

/-- The label of the last declaration is found in a text that has no other declaration in front of
the tag. -/
theorem search?_of_opening (htag : opening.Matches tag) (h : LastLabel lab inTag stop) :
    ∀ {before : List Char}, charsetAttribute.search? before = none →
      charsetAttribute.search? (before ++ (tag ++ (lab ++ (inTag ++ stop)))) = some lab
  | [], _ => by
    have hfit := fit?_of_opening htag h
    rw [List.nil_append]
    cases hs : tag ++ (lab ++ (inTag ++ stop)) with
    | nil => rw [search?, ← hs, hfit]
    | cons c s => rw [search?, ← hs, hfit]
  | c :: before, hbefore => by
    rw [search?] at hbefore
    split at hbefore
    · cases hbefore
    · next hno =>
      rw [List.cons_append, search?]
      split
      · next captured hcaptured =>
        have hfits := Option.isSome_of_eq_some hcaptured
        rw [fit?, Option.isSome_map] at hfits
        have hopening := opening_of_split? (List.cons_ne_nil c before) htag
          (Option.map_eq_none_iff.mp hno) hfits
        have hfit := fit?_of_opening hopening h
        rw [List.append_assoc] at hfit
        exact hcaptured.symm.trans hfit
      · exact search?_of_opening htag h hbefore

end Hypertext.Charset

import Hypertext.Output.Basic

/-!
# Passages

What a writer has to show for itself, without regard to how it was cut into writes: a text, and
the fault that cut it short. Passages are joined one after another, and nothing comes after a
fault, so they form a monoid (`Passage.append_assoc`). `Output.passage` is the passage of an
output; its text is that of its writes in order (`Output.toList_text`).
-/

namespace Hypertext

/-- The characters of writes in order. -/
def joined (writes : List String) : List Char :=
  writes.flatMap String.toList

@[simp] theorem joined_nil : joined [] = [] := rfl

@[simp] theorem joined_cons (text : String) (writes : List String) :
    joined (text :: writes) = text.toList ++ joined writes := rfl

@[simp] theorem joined_append (xs ys : List String) : joined (xs ++ ys) = joined xs ++ joined ys :=
  List.flatMap_append

theorem append_writes (before : Array String) (xs ys : List String) :
    before ++ (xs ++ ys) = before ++ xs ++ ys :=
  Array.ext' (by simp)

/-- A text, and the fault that cut it short, if there was one. -/
structure Passage where
  text : List Char
  fault : Option Fault := none

namespace Passage

/-- One passage after another; nothing comes after a fault. -/
def append (a b : Passage) : Passage :=
  match a.fault with
  | none => ⟨a.text ++ b.text, b.fault⟩
  | some _ => a

instance : Append Passage := ⟨append⟩

@[simp] theorem mk_none_append (text : List Char) (b : Passage) :
    ⟨text, none⟩ ++ b = (⟨text ++ b.text, b.fault⟩ : Passage) := rfl

@[simp] theorem mk_some_append (text : List Char) (f : Fault) (b : Passage) :
    ⟨text, some f⟩ ++ b = (⟨text, some f⟩ : Passage) := rfl

theorem append_of_fault_none {a : Passage} (h : a.fault = none) (b : Passage) :
    a ++ b = ⟨a.text ++ b.text, b.fault⟩ := by
  obtain ⟨text, fault⟩ := a
  subst h
  rfl

theorem append_assoc : ∀ a b c : Passage, a ++ b ++ c = a ++ (b ++ c)
  | ⟨_, none⟩, ⟨_, none⟩, _ => by simp
  | ⟨_, none⟩, ⟨_, some _⟩, _ => by simp
  | ⟨_, some _⟩, _, _ => by simp

theorem nil_append (a : Passage) : (⟨[], none⟩ : Passage) ++ a = a := rfl

theorem append_nil : ∀ a : Passage, a ++ ⟨[], none⟩ = a
  | ⟨_, none⟩ => by simp
  | ⟨_, some _⟩ => by simp

end Passage

namespace Output

theorem toList_foldl : ∀ (writes : List String) (s : String),
    (writes.foldl (· ++ ·) s).toList = s.toList ++ joined writes
  | [], s => by simp
  | text :: writes, s => by
    rw [List.foldl_cons, toList_foldl writes, String.toList_append, joined_cons,
      List.append_assoc]

theorem toList_text (o : Output) : o.text.toList = joined o.writes.toList := by
  rw [text, ← Array.foldl_toList, toList_foldl, String.toList_empty, List.nil_append]

/-- What an output amounts to. -/
def passage (o : Output) : Passage :=
  ⟨joined o.writes.toList, o.fault⟩

theorem text_eq (o : Output) : o.text = String.ofList o.passage.text := by
  rw [passage, ← toList_text, String.ofList_toList]

end Output

end Hypertext

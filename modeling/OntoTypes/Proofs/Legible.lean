import Mathlib.Data.List.Basic
import OntoTypes.Text.Name

/-!
# Texts that can be read back

Two texts are read side by side, and what comes after them is not known. They *tell* a property if
whatever comes after, the readers go on with the same text exactly if the property holds: so the
readers find out whether it holds without looking further, and neither text ends inside the other.
What texts tell, their concatenations tell together, which makes it possible to find out what the
text of a module tells piece by piece.

Main definitions and results:

* `Tells` — with `Tells.append`, `Tells.flatMap` for texts made of pieces;
* `tells_word`, `tells_words` — a word followed by a mark tells which word it is, and words that are
  joined tell which words they are.
-/

namespace OntoTypes

/-- Reading on from two texts, the text that is left is the same exactly if a property holds. -/
def Tells (x y : List Char) (p : Prop) : Prop :=
  ∀ rest rest', x ++ rest = y ++ rest' ↔ p ∧ rest = rest'

namespace Tells

variable {x y u v : List Char} {p q : Prop}

/-- A text that is known tells nothing, and does not get in the way. -/
theorem refl (x : List Char) : Tells x x True := by
  intro rest rest'
  simp

/-- What is told may be said in other words. -/
theorem congr (h : Tells x y p) (hpq : p ↔ q) : Tells x y q := by
  intro rest rest'
  rw [h rest rest', hpq]

/-- Texts that are the same tell what holds. -/
theorem of_eq (hxy : x = y) (hp : p) : Tells x y p := by
  subst hxy
  exact (refl x).congr (iff_of_true trivial hp)

/-- With nothing after them, two texts are the same exactly if what they tell is. -/
theorem eq_iff (h : Tells x y p) : x = y ↔ p := by
  simpa using h [] []

/-- Texts that follow one another tell what each of them tells. -/
theorem append (hx : Tells x y p) (hu : Tells u v q) : Tells (x ++ u) (y ++ v) (p ∧ q) := by
  intro rest rest'
  rw [List.append_assoc, List.append_assoc, hx, hu, and_assoc]

/-- What stands in front of both texts tells nothing. -/
theorem append_left (front : List Char) (h : Tells x y p) : Tells (front ++ x) (front ++ y) p :=
  ((refl front).append h).congr (iff_of_eq (true_and p))

/-- Nor does what stands behind them. -/
theorem append_right (h : Tells x y p) (back : List Char) : Tells (x ++ back) (y ++ back) p :=
  (h.append (refl back)).congr (iff_of_eq (and_true p))

/-- Lists of texts tell what each of them tells. -/
theorem flatMap {items : List α} {f g : α → List Char} {p : α → Prop}
    (h : ∀ item ∈ items, Tells (f item) (g item) (p item)) :
    Tells (items.flatMap f) (items.flatMap g) (∀ item ∈ items, p item) := by
  -- the texts of the first item are told apart before those of the others are reached
  induction items with
  | nil => exact (refl []).congr (by simp)
  | cons item items ih =>
    obtain ⟨hfirst, hrest⟩ := List.forall_mem_cons.mp h
    exact (hfirst.append (ih hrest)).congr List.forall_mem_cons.symm

end Tells

/-! ## Words -/

/-- A text made of letters, digits and underscores. -/
def IsWord (cs : List Char) : Prop := ∀ c ∈ cs, Text.isWordChar c = true

/-- A word that is followed by another mark tells which word it is. -/
theorem tells_word {a b : List Char} (ha : IsWord a) (hb : IsWord b) {mark : Char}
    (hmark : Text.isWordChar mark = false) : Tells (a ++ [mark]) (b ++ [mark]) (a = b) := by
  intro rest rest'
  constructor
  · intro h
    -- a word is what is read up to the first mark
    have hread : ∀ {word : List Char} (rest : List Char), IsWord word →
        (word ++ [mark] ++ rest).takeWhile Text.isWordChar = word := by
      intro word rest hword
      rw [List.append_assoc, List.takeWhile_append_of_pos hword, List.singleton_append,
        List.takeWhile_cons, hmark]
      exact List.append_nil word
    have hword : a = b := by
      rw [← hread rest ha, h, hread rest' hb]
    subst hword
    exact ⟨rfl, List.append_cancel_left h⟩
  · rintro ⟨rfl, rfl⟩
    rfl

/-- Words that are joined tell which words they are, if it is known how many there are. -/
theorem tells_words {glue : List Char} {glueMark mark : Char}
    (hglue : Text.isWordChar glueMark = false) (hmark : Text.isWordChar mark = false)
    {words words' : List (List Char)} (hlength : words.length = words'.length) (hne : words ≠ [])
    (hwords : ∀ word ∈ words, IsWord word) (hwords' : ∀ word ∈ words', IsWord word) :
    Tells ((glueMark :: glue).intercalate words ++ [mark])
      ((glueMark :: glue).intercalate words' ++ [mark]) (words = words') := by
  -- word by word on both sides, which have equally many
  induction words generalizing words' with
  | nil => exact absurd rfl hne
  | cons word words ih =>
    obtain ⟨word', words', rfl⟩ := List.exists_cons_of_length_eq_add_one hlength.symm
    obtain ⟨hword, hrest⟩ := List.forall_mem_cons.mp hwords
    obtain ⟨hword', hrest'⟩ := List.forall_mem_cons.mp hwords'
    have hlengths : words.length = words'.length := Nat.succ.inj hlength
    cases words with
    | nil =>
      obtain rfl := List.eq_nil_of_length_eq_zero hlengths.symm
      rw [List.intercalate_singleton, List.intercalate_singleton]
      exact (tells_word hword hword' hmark).congr (by simp)
    | cons next words =>
      obtain ⟨next', words', rfl⟩ := List.exists_cons_of_length_eq_add_one hlengths.symm
      -- the first mark between words ends the first word, and the others are read after it
      have hjoin : ∀ (word next : List Char) words,
          (glueMark :: glue).intercalate (word :: next :: words) ++ [mark] =
            (word ++ [glueMark]) ++ (glue ++
              ((glueMark :: glue).intercalate (next :: words) ++ [mark])) := by
        intro word next words
        rw [List.intercalate_cons_cons]
        simp
      have hlater := ih hlengths (List.cons_ne_nil _ _) hrest hrest'
      rw [hjoin, hjoin]
      exact ((tells_word hword hword' hglue).append (hlater.append_left glue)).congr (by simp)

end OntoTypes

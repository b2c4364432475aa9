/-!
# Ordering of texts

Texts are compared by code point, the shorter of two texts first when it begins the longer one.
Every order that shows in the output is a stable sort by a key, so that two values with the same key
keep the order in which they were given.

Main definitions:

* `compareChars` — the order of texts;
* `sortOn` — stable sorting by a key.
-/

namespace OntoTypes.Text

/-- Lexicographic comparison by code point. -/
def compareChars : List Char → List Char → Ordering
  | [], [] => .eq
  | [], _ :: _ => .lt
  | _ :: _, [] => .gt
  | a :: as, b :: bs =>
    if a.toNat < b.toNat then .lt
    else if b.toNat < a.toNat then .gt
    else compareChars as bs

/-- Comparison of two texts by code point. -/
def compareText (a b : String) : Ordering := compareChars a.toList b.toList

/-- The elements of `items` in ascending order of their keys; equal keys keep their order. -/
def sortOn (compareKeys : κ → κ → Ordering) (key : α → κ) (items : List α) : List α :=
  items.mergeSort fun a b => (compareKeys (key a) (key b)).isLE

/-- Only equal texts compare as equal. -/
theorem eq_of_compareChars {as bs : List Char} (h : compareChars as bs = .eq) : as = bs := by
  induction as generalizing bs with
  | nil => cases bs with
    | nil => rfl
    | cons => simp [compareChars] at h
  | cons a as ih => cases bs with
    | nil => simp [compareChars] at h
    | cons b bs =>
      rw [compareChars] at h
      split at h
      · cases h
      · split at h
        · cases h
        · rw [ih h, Char.toNat_inj.mp (by omega : a.toNat = b.toNat)]

/-- Sorting rearranges and loses nothing. -/
theorem sortOn_perm (compareKeys : κ → κ → Ordering) (key : α → κ) (items : List α) :
    (sortOn compareKeys key items).Perm items :=
  List.mergeSort_perm ..

end OntoTypes.Text

/-!
# Cutting texts

Texts cut at a mark, and texts compared without regard to the case of ASCII letters.

Main definitions:

* `splitOn`, with `joinWith` to undo it — all parts of a text between marks;
* `cutAt` — a text cut at its first mark;
* `afterLast` — what follows the last mark;
* `trim` — a text without the outer characters of a class;
* `lowercase` — the form in which texts are compared without regard to case.
-/

namespace OntoTypes.Text

/-- The parts of a text between marks; a text without a mark is its only part. -/
def splitOn (mark : Char) : List Char → List (List Char)
  | [] => [[]]
  | c :: rest =>
    if c = mark then [] :: splitOn mark rest
    else
      match splitOn mark rest with
      | [] => [[c]]
      | part :: parts => (c :: part) :: parts

/-- Some parts with a mark between them. -/
def joinWith (mark : Char) (parts : List (List Char)) : List Char := [mark].intercalate parts

/-- The text before the first mark and the text after it, if there is one. -/
def cutAt (mark : Char) (cs : List Char) : List Char × Option (List Char) :=
  match cs.dropWhile (· ≠ mark) with
  | [] => (cs, none)
  | _ :: rest => (cs.takeWhile (· ≠ mark), some rest)

/-- What follows the last mark; the whole text if there is none. -/
def afterLast (mark : Char) (cs : List Char) : List Char :=
  (cs.reverse.takeWhile (· ≠ mark)).reverse

/-- A text without the characters of a class at its two ends. -/
def trim (isOuter : Char → Bool) (cs : List Char) : List Char :=
  ((cs.dropWhile isOuter).reverse.dropWhile isOuter).reverse

/-- A text with the letters of ASCII in lowercase. -/
def lowercase (s : String) : String := String.ofList (s.toList.map Char.toLower)

/-- There is always a first part. -/
theorem splitOn_ne_nil (mark : Char) (cs : List Char) : splitOn mark cs ≠ [] := by
  cases cs with
  | nil => simp [splitOn]
  | cons c rest =>
    rw [splitOn]
    split
    · simp
    · split <;> simp

/-- Cutting a text loses nothing but the marks. -/
theorem joinWith_splitOn (mark : Char) (cs : List Char) :
    joinWith mark (splitOn mark cs) = cs := by
  induction cs with
  | nil => simp [splitOn, joinWith, List.intercalate]
  | cons c rest ih =>
    obtain ⟨part, parts, h⟩ := List.exists_cons_of_ne_nil (splitOn_ne_nil mark rest)
    rw [h] at ih
    by_cases hc : c = mark
    · subst hc
      simp only [splitOn, if_pos, h]
      rw [← ih]
      simp [joinWith, List.intercalate, List.intersperse]
    · simp only [splitOn, if_neg hc, h]
      rw [← ih]
      cases parts <;> simp [joinWith, List.intercalate, List.intersperse]

end OntoTypes.Text

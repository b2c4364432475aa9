import OntoTypes.Hierarchy.Shape

/-!
# Sorting forgets the order

Everything that is listed in a module is sorted by a key, and a sort is stable: two things with the
same key keep the order in which they came. Where keys tell things apart, nothing of that order is
left. This module shows that the keys are linearly ordered and that a sort by keys that tell its
items apart depends on the items alone.

Terms are compared in a way that need not be an order. What can be said of a sort then is that it
keeps to every order that follows from the comparison, and that it does not undo the comparison of
the two items that come first.

Main results:

* `SortKey.eq_of_compare`, `SubjectKey.eq_of_compare`, `EmissionKey.eq_of_compare` — only equal keys
  compare as equal;
* `sortOn_eq_of_perm` — rearranged items are sorted to the same list;
* `pairwise_mergeSort_of`, `pair_sublist_mergeSort_cons_cons` — sorting by any comparison.
-/

namespace OntoTypes

namespace Text

/-! ## Keys are linearly ordered -/

/-- Texts are compared as lists of numbers. -/
theorem compareChars_eq_compareLex :
    compareChars = List.compareLex fun a b => compare a.toNat b.toNat := by
  funext as bs
  induction as generalizing bs with
  | nil => cases bs <;> rfl
  | cons a as ih =>
    cases bs with
    | nil => rfl
    | cons b bs =>
      rw [compareChars, List.compareLex]
      -- the first characters decide, unless they are equal
      rcases Nat.lt_trichotomy a.toNat b.toNat with h | h | h
      · rw [if_pos h, Nat.compare_eq_lt.mpr h]
      · rw [if_neg (by omega), if_neg (by omega), Nat.compare_eq_eq.mpr h]
        exact ih bs
      · rw [if_neg (by omega), if_pos h, Nat.compare_eq_gt.mpr h]

instance : Std.TransCmp compareChars :=
  have : Std.TransCmp fun a b : Char => compare a.toNat b.toNat :=
    inferInstanceAs (Std.TransCmp (compareOn Char.toNat))
  compareChars_eq_compareLex ▸ inferInstance

/-- A comparison of one part of a key. -/
theorem transCmp_comap (compareKeys : κ → κ → Ordering) [Std.TransCmp compareKeys] (f : α → κ) :
    Std.TransCmp fun a b => compareKeys (f a) (f b) where
  eq_swap := Std.OrientedCmp.eq_swap
  isLE_trans := Std.TransCmp.isLE_trans

instance : Std.TransCmp SortKey.compare :=
  have := transCmp_comap compareChars SortKey.folded
  have := transCmp_comap compareChars SortKey.swapped
  inferInstanceAs (Std.TransCmp (compareLex
    (fun a b : SortKey => compareChars a.folded b.folded)
    (fun a b : SortKey => compareChars a.swapped b.swapped)))

/-- Keys of texts that compare as equal are equal. -/
theorem SortKey.eq_of_compare {a b : SortKey} (h : a.compare b = .eq) : a = b := by
  obtain ⟨hfolded, hswapped⟩ := Ordering.then_eq_eq.mp h
  cases a
  cases b
  rw [SortKey.mk.injEq]
  exact ⟨eq_of_compareChars hfolded, eq_of_compareChars hswapped⟩

end Text

open Text

instance : Std.TransCmp SubjectKey.compare :=
  have := transCmp_comap SortKey.compare SubjectKey.name
  have := transCmp_comap SortKey.compare SubjectKey.identifier
  inferInstanceAs (Std.TransCmp (compareLex
    (fun a b : SubjectKey => a.name.compare b.name)
    (fun a b : SubjectKey => a.identifier.compare b.identifier)))

/-- Keys of subjects that compare as equal are equal. -/
theorem SubjectKey.eq_of_compare {a b : SubjectKey} (h : a.compare b = .eq) : a = b := by
  obtain ⟨hname, hidentifier⟩ := Ordering.then_eq_eq.mp h
  cases a
  cases b
  rw [SubjectKey.mk.injEq]
  exact ⟨SortKey.eq_of_compare hname, SortKey.eq_of_compare hidentifier⟩

instance : Std.TransCmp EmissionKey.compare where
  eq_swap := by
    rintro ⟨x, a⟩ ⟨y, b⟩
    have hswap : a.compare b = (b.compare a).swap := Std.OrientedCmp.eq_swap
    cases x <;> cases y
    · exact hswap
    · rfl
    · rfl
    · exact hswap
  isLE_trans := by
    rintro ⟨x, a⟩ ⟨y, b⟩ ⟨z, c⟩
    cases x <;> cases y <;> cases z <;> simp only [EmissionKey.compare, Ordering.isLE]
    all_goals first | exact Std.TransCmp.isLE_trans | simp

/-- Keys of groups that compare as equal are equal: both are of builtin data types or neither is. -/
theorem EmissionKey.eq_of_compare {a b : EmissionKey} (h : a.compare b = .eq) : a = b := by
  obtain ⟨x, a⟩ := a
  obtain ⟨y, b⟩ := b
  cases x <;> cases y <;> simp only [EmissionKey.compare, reduceCtorEq] at h
  all_goals rw [SubjectKey.eq_of_compare h]

/-! ## Sorting -/

namespace Text

variable {compareKeys : κ → κ → Ordering} [Std.TransCmp compareKeys]

/-- A sorted list is in ascending order. -/
theorem pairwise_sortOn (key : α → κ) (items : List α) :
    (sortOn compareKeys key items).Pairwise fun a b =>
      (compareKeys (key a) (key b)).isLE = true := by
  refine List.pairwise_mergeSort ?_ ?_ items
  · intro a b c hab hbc
    exact Std.TransCmp.isLE_trans hab hbc
  · intro a b
    have hswap : compareKeys (key b) (key a) = (compareKeys (key a) (key b)).swap :=
      Std.OrientedCmp.eq_swap
    rw [Bool.or_eq_true, hswap]
    cases compareKeys (key a) (key b) <;> simp

/-- Items that their keys tell apart are sorted alike in whatever order they come. -/
theorem sortOn_eq_of_perm {key : α → κ} {items items' : List α} (hperm : items.Perm items')
    (hkey : ∀ a ∈ items, ∀ b ∈ items, compareKeys (key a) (key b) = .eq → a = b) :
    sortOn compareKeys key items = sortOn compareKeys key items' := by
  have hmem : ∀ a, a ∈ sortOn compareKeys key items ↔ a ∈ items :=
    fun a => (sortOn_perm compareKeys key items).mem_iff
  have hmem' : ∀ a, a ∈ sortOn compareKeys key items' ↔ a ∈ items :=
    fun a => (sortOn_perm compareKeys key items').mem_iff.trans hperm.mem_iff.symm
  -- both lists are sorted, and items that may stand in either order are equal
  refine List.Perm.eq_of_pairwise ?_ (pairwise_sortOn key items) (pairwise_sortOn key items') ?_
  · intro a b ha hb hab hba
    exact hkey a ((hmem a).mp ha) b ((hmem' b).mp hb) (Std.OrientedCmp.isLE_antisymm hab hba)
  · exact ((sortOn_perm ..).trans hperm).trans (sortOn_perm ..).symm

omit [Std.TransCmp compareKeys] in
/-- Sorting images is sorting by the keys of the images. -/
theorem sortOn_map {α β : Type} (key : β → κ) (f : α → β) (items : List α) :
    sortOn compareKeys key (items.map f) =
      (sortOn compareKeys (fun a => key (f a)) items).map f := by
  rw [sortOn, sortOn]
  refine (List.map_mergeSort ?_).symm
  intro a _ b _
  rfl

end Text

/-- Items that are made of others are sorted as these are. -/
theorem sortBySubject_map {α β : Type} (subject : β → Term) (f : α → β) (items : List α) :
    sortBySubject subject (items.map f) =
      (sortBySubject (fun a => subject (f a)) items).map f :=
  sortOn_map ..

/-! ## Comparisons that need not be an order -/

section

variable {le : α → α → Bool} {r : α → α → Prop} {items : List α}

/-- The first of two lists that are merged stays in order. -/
theorem sublist_merge_left (xs ys : List α) : xs.Sublist (xs.merge ys le) := by
  fun_induction List.merge xs ys le with
  | case1 ys => exact List.nil_sublist _
  | case2 => exact List.Sublist.refl _
  | case3 x xs y ys _ ih => exact ih.cons_cons x
  | case4 x xs y ys _ ih => exact ih.cons y

/-- The comparison of the first two items of a list is not undone when the list is sorted. -/
theorem pair_sublist_mergeSort_cons_cons (le : α → α → Bool) (x y : α) (rest : List α) :
    (if le x y then [x, y] else [y, x]).Sublist ((x :: y :: rest).mergeSort le) := by
  induction hlength : rest.length using Nat.strongRecOn generalizing rest with
  | ind n ih =>
    rw [List.mergeSort]
    simp only [List.MergeSort.Internal.splitInTwo_fst, List.MergeSort.Internal.splitInTwo_snd]
    cases rest with
    | nil => simp [List.merge]
    | cons z rest =>
      -- both items are in the first half
      have hhalf : ((x :: y :: z :: rest).length + 1) / 2 = ((rest.length + 4) / 2 - 2) + 2 := by
        simp only [List.length_cons]
        omega
      rw [hhalf, List.take_succ_cons, List.take_succ_cons]
      refine (ih _ ?_ _ rfl).trans (sublist_merge_left _ _)
      rw [List.length_take, ← hlength, List.length_cons]
      omega

/-- Items that are merged are in any order that follows from the comparison and in which both lists
are. -/
theorem pairwise_merge_of
    (htrans : ∀ a ∈ items, ∀ b ∈ items, ∀ c ∈ items, r a b → r b c → r a c)
    (hle : ∀ a ∈ items, ∀ b ∈ items, le a b = true → r a b)
    (hnot : ∀ a ∈ items, ∀ b ∈ items, le a b = false → r b a)
    {xs ys : List α} (hxs : xs ⊆ items) (hys : ys ⊆ items) (hx : xs.Pairwise r)
    (hy : ys.Pairwise r) : (xs.merge ys le).Pairwise r := by
  fun_induction List.merge xs ys le with
  | case1 ys => exact hy
  | case2 xs => exact hx
  | case3 x xs y ys hcompare ih =>
    -- the first item of the left list goes first: it is before the rest of that list, and through
    -- the other first item before the rest of the right one
    obtain ⟨hx₁, hxs'⟩ := List.pairwise_cons.mp hx
    have hxy := hle x (hxs List.mem_cons_self) y (hys List.mem_cons_self) hcompare
    refine List.pairwise_cons.mpr ⟨fun other hother => ?_,
      ih (List.subset_of_cons_subset hxs) hys hxs' hy⟩
    rcases List.mem_merge.mp hother with hother | hother
    · exact hx₁ other hother
    · rcases List.mem_cons.mp hother with rfl | hother'
      · exact hxy
      · exact htrans x (hxs List.mem_cons_self) y (hys List.mem_cons_self) other (hys hother) hxy
          ((List.pairwise_cons.mp hy).1 other hother')
  | case4 x xs y ys hcompare ih =>
    -- the same with the sides exchanged
    obtain ⟨hy₁, hys'⟩ := List.pairwise_cons.mp hy
    have hyx := hnot x (hxs List.mem_cons_self) y (hys List.mem_cons_self)
      (Bool.eq_false_iff.mpr hcompare)
    refine List.pairwise_cons.mpr ⟨fun other hother => ?_,
      ih hxs (List.subset_of_cons_subset hys) hx hys'⟩
    rcases List.mem_merge.mp hother with hother | hother
    · rcases List.mem_cons.mp hother with rfl | hother'
      · exact hyx
      · exact htrans y (hys List.mem_cons_self) x (hxs List.mem_cons_self) other (hxs hother) hyx
          ((List.pairwise_cons.mp hx).1 other hother')
    · exact hy₁ other hother

/-- Sorted items are in any order that follows from the comparison. -/
theorem pairwise_mergeSort_of
    (htrans : ∀ a ∈ items, ∀ b ∈ items, ∀ c ∈ items, r a b → r b c → r a c)
    (hle : ∀ a ∈ items, ∀ b ∈ items, le a b = true → r a b)
    (hnot : ∀ a ∈ items, ∀ b ∈ items, le a b = false → r b a) {xs : List α} (hxs : xs ⊆ items) :
    (xs.mergeSort le).Pairwise r := by
  induction hlength : xs.length using Nat.strongRecOn generalizing xs with
  | ind n ih =>
    match xs with
    | [] => rw [List.mergeSort_nil]; exact .nil
    | [x] => rw [List.mergeSort_singleton]; exact List.pairwise_singleton _ _
    | x :: y :: rest =>
      rw [List.mergeSort]
      simp only [List.MergeSort.Internal.splitInTwo_fst, List.MergeSort.Internal.splitInTwo_snd]
      -- both halves are shorter, so they are sorted in the same sense
      have hhalf (half : List α) (hsub : half.Sublist (x :: y :: rest))
          (hshorter : half.length < n) : (half.mergeSort le).Pairwise r :=
        ih _ hshorter (fun a ha => hxs (hsub.subset ha)) rfl
      -- and their items are still among those for which the order is known
      have hmem {half : List α} (hsub : half.Sublist (x :: y :: rest)) :
          half.mergeSort le ⊆ items :=
        fun a ha => hxs (hsub.subset (List.mem_mergeSort.mp ha))
      refine pairwise_merge_of htrans hle hnot (hmem (List.take_sublist _ _))
        (hmem (List.drop_sublist _ _)) (hhalf _ (List.take_sublist _ _) ?_)
        (hhalf _ (List.drop_sublist _ _) ?_)
      all_goals
        simp only [List.length_take, List.length_drop, List.length_cons] at hlength ⊢
        omega

end

end OntoTypes

import OntoTypes.Proofs.Filing

/-!
# Slots

A list of slots is filled item by item. An item that finds its slot in use is settled with what is
kept there, in that place; any other item opens a slot at the end. Both lists of a topic grow in
this way: type tags are kept where they are first seen, and so are values, except that a comment or
label takes the place of an earlier one in its language.

Whatever the rule by which two items are settled, as long as it does not matter in which order three
of them are, a list that was filled by itself can be filed as a whole: nothing is lost by having
settled beforehand what would have been settled on the way. Settling an item early is harmless
because every later item goes to another slot.

Main definitions and results:

* `Slots`, `Slots.file`, `Slots.fileAll` — rules of filing, and filing by a rule;
* `Slots.file_fileAll` — an item filed last may as well be filed with the others beforehand;
* `Slots.fileAll_fileAll_nil` — items may be filed among themselves before they are filed;
* `OnePerKey`, `Slots.onePerKey_fileAll` — what is left of some items when all have been filed.
-/

namespace OntoTypes

/-- Which items belong in one slot, and which of two items in one slot is kept. -/
structure Slots (α : Type) where
  same   : α → α → Bool
  /-- What becomes of an item that is kept and one that comes later. -/
  settle : α → α → α
  refl   : ∀ a, same a a = true
  symm   : ∀ a b, same a b = true → same b a = true
  trans  : ∀ a b c, same a b = true → same b c = true → same a c = true
  settle_eq    : ∀ kept item, settle kept item = kept ∨ settle kept item = item
  settle_assoc : ∀ a b c, settle (settle a b) c = settle a (settle b c)

namespace Slots

/-- The items with one more item in its slot. -/
def file (slots : Slots α) : List α → α → List α
  | [], item => [item]
  | kept :: rest, item =>
    if slots.same kept item then slots.settle kept item :: rest else kept :: slots.file rest item

/-- The items with some more items, one after another, in their slots. -/
def fileAll (slots : Slots α) (items later : List α) : List α := later.foldl slots.file items

variable (slots : Slots α)

/-! ## One slot -/

/-- Items of one slot are looked for in the same places. -/
theorem same_congr {a b : α} (h : slots.same a b = true) (c : α) :
    slots.same c a = slots.same c b := by
  rw [Bool.eq_iff_iff]
  exact ⟨fun hc => slots.trans _ _ _ hc h, fun hc => slots.trans _ _ _ hc (slots.symm _ _ h)⟩

/-- Settling does not leave the slot. -/
theorem same_settle {kept item : α} (h : slots.same kept item = true) :
    slots.same kept (slots.settle kept item) = true := by
  rcases slots.settle_eq kept item with heq | heq
  · rw [heq]
    exact slots.refl kept
  · rw [heq]
    exact h

/-- Two items of one slot can be settled before they are filed. -/
theorem file_file {first second : α} (h : slots.same first second = true) (items : List α) :
    slots.file (slots.file items first) second = slots.file items (slots.settle first second) := by
  -- whether an item shares their slot is the same question for all three
  have hsecond := slots.same_congr h
  have hsettled := slots.same_congr (slots.same_settle h)
  induction items with
  | nil => rw [file, file, file, if_pos h]
  | cons kept rest ih =>
    by_cases hkept : slots.same kept first = true
    · -- all three items are of the slot that comes first
      have hboth : slots.same (slots.settle kept first) second = true :=
        slots.trans _ _ _ (slots.symm _ _ (slots.same_settle hkept)) (slots.trans _ _ _ hkept h)
      rw [file, if_pos hkept, file, if_pos hboth, file, if_pos (hsettled kept ▸ hkept),
        slots.settle_assoc]
    · rw [file, if_neg hkept, file, if_neg (hsecond kept ▸ hkept), file,
        if_neg (hsettled kept ▸ hkept), ih]

/-! ## Several slots -/

/-- Nothing is filed but what was there and what is filed. -/
theorem mem_file {items : List α} {item other : α} (h : other ∈ slots.file items item) :
    other ∈ items ∨ other = item := by
  induction items with
  | nil => exact Or.inr (List.mem_singleton.mp h)
  | cons kept rest ih =>
    rw [file] at h
    split at h
    · rcases List.mem_cons.mp h with rfl | h
      · -- settling keeps one of the two
        rcases slots.settle_eq kept item with heq | heq
        · rw [heq]
          exact Or.inl (List.mem_cons_self ..)
        · exact Or.inr heq
      · exact Or.inl (List.mem_cons_of_mem _ h)
    · rcases List.mem_cons.mp h with rfl | h
      · exact Or.inl (List.mem_cons_self ..)
      · exact (ih h).imp_left (List.mem_cons_of_mem _)

/-- Nothing is filed but what was there and what is filed, however much that is. -/
theorem mem_fileAll {items later : List α} {item : α} (h : item ∈ slots.fileAll items later) :
    item ∈ items ∨ item ∈ later := by
  induction later generalizing items with
  | nil => exact Or.inl h
  | cons first later ih =>
    rcases ih h with h | h
    · rcases slots.mem_file h with h | rfl
      · exact Or.inl h
      · exact Or.inr (List.mem_cons_self ..)
    · exact Or.inr (List.mem_cons_of_mem _ h)

/-- A slot that is in use stays in use. -/
theorem any_same_file {items : List α} {item other : α}
    (h : items.any (slots.same · other) = true) :
    (slots.file items item).any (slots.same · other) = true := by
  induction items with
  | nil => cases h
  | cons kept rest ih =>
    rw [List.any_cons, Bool.or_eq_true] at h
    rw [file]
    split
    · -- a slot that the item is filed in stays the slot that it was
      rename_i hkept
      rw [List.any_cons, Bool.or_eq_true]
      refine h.imp_left fun hother => ?_
      exact slots.trans _ _ _ (slots.symm _ _ (slots.same_settle hkept)) hother
    · rw [List.any_cons, Bool.or_eq_true]
      exact h.imp_right ih

/-- The slot of an item that is filed is in use. -/
theorem any_same_file_self (items : List α) (item : α) :
    (slots.file items item).any (slots.same · item) = true := by
  induction items with
  | nil => rw [file, List.any_cons, slots.refl, Bool.true_or]
  | cons kept rest ih =>
    rw [file]
    split
    · rename_i hkept
      have hsettled : slots.same (slots.settle kept item) item = true :=
        slots.trans _ _ _ (slots.symm _ _ (slots.same_settle hkept)) hkept
      rw [List.any_cons, hsettled, Bool.true_or]
    · rw [List.any_cons, ih, Bool.or_true]

/-- Items of different slots can be filed in either order, if one of the slots is in use already:
the order decides which slot is opened first, and nothing else. -/
theorem file_comm {items : List α} {first second : α} (hother : slots.same first second = false)
    (hused : items.any (slots.same · second) = true) :
    slots.file (slots.file items first) second = slots.file (slots.file items second) first := by
  induction items with
  | nil => cases hused
  | cons kept rest ih =>
    by_cases hfirst : slots.same kept first = true
    · -- the second item passes the slot of the first one by, before and after it is settled
      have hsecond : ¬ slots.same kept second = true := by
        intro hsecond
        rw [slots.trans _ _ _ (slots.symm _ _ hfirst) hsecond] at hother
        cases hother
      have hsettled : ¬ slots.same (slots.settle kept first) second = true := fun hsettled =>
        hsecond (slots.trans _ _ _ (slots.same_settle hfirst) hsettled)
      rw [file, if_pos hfirst, file, if_neg hsettled, file, if_neg hsecond, file, if_pos hfirst]
    · by_cases hsecond : slots.same kept second = true
      · -- the first item passes the slot of the second one by
        have hsettled : ¬ slots.same (slots.settle kept second) first = true := fun hsettled =>
          hfirst (slots.trans _ _ _ (slots.same_settle hsecond) hsettled)
        rw [file, if_neg hfirst, file, if_pos hsecond, file, if_pos hsecond, file, if_neg hsettled]
      · -- both pass this slot by
        rw [List.any_cons, Bool.or_eq_true, or_iff_right hsecond] at hused
        rw [file, if_neg hfirst, file, if_neg hsecond, file, if_neg hsecond, file, if_neg hfirst,
          ih hused]

/-- An item whose slot is in use can be filed before items of other slots. -/
theorem fileAll_file {later : List α} {item : α}
    (hother : ∀ other ∈ later, slots.same other item = false) {items : List α}
    (hused : items.any (slots.same · item) = true) :
    slots.file (slots.fileAll items later) item = slots.fileAll (slots.file items item) later := by
  induction later generalizing items with
  | nil => rfl
  | cons first later ih =>
    obtain ⟨hfirst, hrest⟩ := List.forall_mem_cons.mp hother
    rw [fileAll, List.foldl_cons, ← fileAll, ih hrest (slots.any_same_file hused),
      slots.file_comm hfirst hused]
    rfl

/-- Items no two of which are of one slot. -/
def Apart (items : List α) : Prop := items.Pairwise fun a b => slots.same a b = false

/-- What is filed leaves no two items in one slot. -/
theorem apart_file {items : List α} (h : slots.Apart items) (item : α) :
    slots.Apart (slots.file items item) := by
  induction items with
  | nil => exact List.pairwise_singleton _ _
  | cons kept rest ih =>
    obtain ⟨hkept, hrest⟩ := List.pairwise_cons.mp h
    rw [file]
    split
    · rename_i hslot
      -- settling does not leave the slot, so what was in another one still is
      refine List.pairwise_cons.mpr ⟨fun other hmem => ?_, hrest⟩
      rw [← Bool.not_eq_true]
      intro hsame
      have hkeptOther := slots.trans _ _ _ (slots.same_settle hslot) hsame
      rw [hkept other hmem] at hkeptOther
      cases hkeptOther
    · rename_i hslot
      refine List.pairwise_cons.mpr ⟨fun other hmem => ?_, ih hrest⟩
      rcases slots.mem_file hmem with hmem | rfl
      · exact hkept other hmem
      · exact Bool.eq_false_iff.mpr hslot

/-- What is filed into nothing leaves no two items in one slot. -/
theorem apart_fileAll_nil (items : List α) : slots.Apart (slots.fileAll [] items) := by
  induction items using List.reverseRecOn with
  | nil => exact .nil
  | append_singleton items item ih =>
    rw [fileAll, List.foldl_append]
    exact slots.apart_file ih item

/-- An item that is filed after others may be filed among them first, and they with it. -/
theorem file_fileAll {later : List α} (h : slots.Apart later) (items : List α) (item : α) :
    slots.file (slots.fileAll items later) item = slots.fileAll items (slots.file later item) := by
  induction later generalizing items with
  | nil => rfl
  | cons first later ih =>
    obtain ⟨hfirst, hrest⟩ := List.pairwise_cons.mp h
    rw [file]
    split
    · rename_i hslot
      -- the item goes to the slot of the first one, and all others go to other slots
      have hother : ∀ other ∈ later, slots.same other item = false := by
        intro other hmem
        rw [← Bool.not_eq_true]
        intro hsame
        have hfirstOther := slots.trans _ _ _ hslot (slots.symm _ _ hsame)
        rw [hfirst other hmem] at hfirstOther
        cases hfirstOther
      have hused : (slots.file items first).any (slots.same · item) = true := by
        have hfirstUsed := slots.any_same_file_self items first
        simpa only [slots.same_congr hslot] using hfirstUsed
      rw [fileAll, List.foldl_cons, ← fileAll, slots.fileAll_file hother hused,
        slots.file_file hslot]
      rfl
    · exact ih hrest (slots.file items first)

/-- **Filing in two steps.** Items can be filed among themselves first, and the outcome as a
whole. -/
theorem fileAll_fileAll_nil (items later : List α) :
    slots.fileAll items (slots.fileAll [] later) = slots.fileAll items later := by
  induction later using List.reverseRecOn with
  | nil => rfl
  | append_singleton later item ih =>
    -- the last item is filed after the others on both sides
    have hconcat : ∀ items, slots.fileAll items (later ++ [item]) =
        slots.file (slots.fileAll items later) item := by
      intro items
      rw [fileAll, List.foldl_append]
      rfl
    rw [hconcat, hconcat, ← slots.file_fileAll (slots.apart_fileAll_nil later), ih]

/-! ## Slots with keys -/

/-- Slots that are told apart by a key of their items. -/
def KeyedBy (slots : Slots α) (key : α → κ) : Prop :=
  ∀ a b, slots.same a b = true ↔ key a = key b

/-- What is kept of some items of one slot that are settled one after another. -/
def settleAll (slots : Slots α) : List α → Option α
  | [] => none
  | first :: later => some (later.foldl slots.settle first)

/-- Items are settled from the first one on. -/
theorem settleAll_concat (items : List α) (item : α) :
    slots.settleAll (items ++ [item]) =
      some ((slots.settleAll items).elim item (slots.settle · item)) := by
  cases items with
  | nil => rfl
  | cons first later =>
    rw [List.cons_append, settleAll, List.foldl_append]
    rfl

/-- Where every later item gives way, the first one is kept. -/
theorem settleAll_eq_head? {items : List α}
    (hfirst : ∀ kept, ∀ item ∈ items, slots.settle kept item = kept) :
    slots.settleAll items = items.head? := by
  induction items using List.reverseRecOn with
  | nil => rfl
  | append_singleton items item ih =>
    have hitem := fun kept => hfirst kept item (List.mem_append_right _ (List.mem_singleton_self _))
    rw [settleAll_concat, ih fun kept other h => hfirst kept other (List.mem_append_left _ h)]
    cases items with
    | nil => rfl
    | cons first later => rw [List.head?_cons, Option.elim_some, hitem]; rfl

/-- Where every earlier item gives way, the last one is kept. -/
theorem settleAll_eq_getLast? {items : List α}
    (hlast : ∀ kept, ∀ item ∈ items, slots.settle kept item = item) :
    slots.settleAll items = items.getLast? := by
  induction items using List.reverseRecOn with
  | nil => rfl
  | append_singleton items item _ =>
    have hitem := fun kept => hlast kept item (List.mem_append_right _ (List.mem_singleton_self _))
    rw [settleAll_concat, List.getLast?_concat]
    cases slots.settleAll items with
    | none => rfl
    | some kept => rw [Option.elim_some, hitem]

/-- Settling does not change the key. -/
theorem KeyedBy.key_settle {slots : Slots α} {key : α → κ} (hkey : slots.KeyedBy key)
    {kept item : α} (h : key kept = key item) : key (slots.settle kept item) = key kept :=
  ((hkey _ _).mp (slots.same_settle ((hkey _ _).mpr h))).symm

section

variable {slots} [DecidableEq κ] {key : α → κ} (hkey : slots.KeyedBy key)
include hkey

/-- A key in use keeps its place, a new one goes to the end. -/
theorem KeyedBy.map_key_file (items : List α) (item : α) :
    (slots.file items item).map key =
      if key item ∈ items.map key then items.map key else items.map key ++ [key item] := by
  induction items with
  | nil => rfl
  | cons kept rest ih =>
    rw [file, List.map_cons]
    -- the item is settled with the first one, or goes on
    by_cases hkept : key kept = key item
    · rw [if_pos ((hkey _ _).mpr hkept), List.map_cons, hkey.key_settle hkept,
        if_pos (hkept ▸ List.mem_cons_self ..)]
    · have hother : ¬ slots.same kept item = true := mt (hkey _ _).mp hkept
      rw [if_neg hother, List.map_cons, ih]
      simp only [List.mem_cons, Ne.symm hkept, false_or]
      split <;> rfl

/-- Filing an item changes what is found under its key, and under no other. -/
theorem KeyedBy.find?_file (items : List α) (item : α) (k : κ) :
    (slots.file items item).find? (key · = k) =
      if key item = k then some ((items.find? (key · = k)).elim item (slots.settle · item))
      else items.find? (key · = k) := by
  induction items with
  | nil => by_cases hk : key item = k <;> simp [file, hk]
  | cons kept rest ih =>
    rw [file]
    by_cases hkept : key kept = key item
    · rw [if_pos ((hkey _ _).mpr hkept)]
      -- the first item is settled, and keeps its key
      have hsettled := hkey.key_settle hkept
      by_cases hk : key item = k
      · simp [hsettled, hkept, hk]
      · simp [hsettled, hkept, hk]
    · have hother : ¬ slots.same kept item = true := mt (hkey _ _).mp hkept
      rw [if_neg hother]
      by_cases hk : key kept = k
      · have hne : ¬ key item = k := fun h => hkept (hk.trans h.symm)
        simp [hk, hne]
      · simp [hk, ih]

/-- What is found under a key is what the items of that key were settled to. -/
theorem KeyedBy.find?_fileAll_nil (items : List α) (k : κ) :
    (slots.fileAll [] items).find? (key · = k) = slots.settleAll (items.filter (key · = k)) := by
  induction items using List.reverseRecOn with
  | nil => rfl
  | append_singleton items item ih =>
    rw [fileAll, List.foldl_append, List.foldl_cons, List.foldl_nil, ← fileAll, hkey.find?_file, ih,
      List.filter_append]
    by_cases hk : key item = k
    · rw [if_pos hk, List.filter_cons_of_pos (by simpa using hk), List.filter_nil, settleAll_concat]
    · rw [if_neg hk, List.filter_cons_of_neg (by simpa using hk), List.filter_nil, List.append_nil]

/-- Keys are in use in the order in which they were first seen. -/
theorem KeyedBy.map_key_fileAll_nil (items : List α) :
    (slots.fileAll [] items).map key = (items.map key).eraseDups := by
  induction items using List.reverseRecOn with
  | nil => rfl
  | append_singleton items item ih =>
    rw [fileAll, List.foldl_append, List.foldl_cons, List.foldl_nil, ← fileAll, hkey.map_key_file,
      ih, List.map_append, List.map_singleton, eraseDups_concat]
    simp only [List.mem_eraseDups]

end

end Slots

/-- A list that holds one of some items for each of their keys, in the order in which the keys are
first seen: the one that `pick` chooses among all items of the key. -/
structure OnePerKey [DecidableEq κ] (key : α → κ) (pick : κ → List α → Option α)
    (items kept : List α) : Prop where
  keys  : kept.map key = (items.map key).eraseDups
  entry : ∀ k, kept.find? (key · = k) = pick k (items.filter (key · = k))

/-- **What is left of some items when all have been filed.** -/
theorem Slots.onePerKey_fileAll [DecidableEq κ] {slots : Slots α} {key : α → κ}
    (hkey : slots.KeyedBy key) {pick : κ → List α → Option α}
    (hpick : ∀ k items, (∀ item ∈ items, key item = k) → slots.settleAll items = pick k items)
    (items : List α) : OnePerKey key pick items (slots.fileAll [] items) where
  keys := hkey.map_key_fileAll_nil items
  entry k := by
    rw [hkey.find?_fileAll_nil]
    exact hpick k _ fun item hitem => of_decide_eq_true (List.mem_filter.mp hitem).2

end OntoTypes

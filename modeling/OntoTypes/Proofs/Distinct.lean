import Mathlib.Data.List.Forall2
import Mathlib.Data.List.Induction
import Mathlib.Data.List.Nodup
import OntoTypes.Keyed

/-!
# Lists without repetitions

Two kinds of lists hold nothing twice: those that keep every item where it was first seen, and keyed
lists, whose keys are distinct because writing under a key that is in use replaces its value. A list
of the second kind is as good as a finite function with an order on its domain: it can be read off
by its keys, and it is determined by them and by what is found under each. What has to be known of
keyed lists beyond their lookups is gathered here, too.

Main results:

* `eraseDups_concat`, `nodup_eraseDups`, `eraseDups_perm` — items where they were first seen;
* `filter_key_eq_singleton` — items of distinct keys are found by their keys;
* `Keyed.nodup_keys_set` — no key is used twice;
* `Keyed.lookup_eq_some_iff_mem`, `Keyed.map_snd_eq`, `Keyed.eq_of_lookup` — such lists are read off
  by their keys;
* `Keyed.forall₂_set` — the values of a keyed list before and after one of them is replaced.
-/

namespace OntoTypes

/-- Whether an item is kept at the end of a list is decided by the items before it. -/
theorem eraseDups_concat [DecidableEq α] (items : List α) (item : α) :
    (items ++ [item]).eraseDups =
      if item ∈ items then items.eraseDups else items.eraseDups ++ [item] := by
  have hsingle : [item].eraseDups = [item] := rfl
  rw [List.eraseDups_append]
  by_cases h : item ∈ items <;> simp [List.removeAll, h, hsingle]

/-- Nothing is first seen twice. -/
theorem nodup_eraseDups [DecidableEq α] (items : List α) : items.eraseDups.Nodup := by
  -- from the end, where the last item is kept only if it is new
  induction items using List.reverseRecOn with
  | nil => exact List.nodup_nil
  | append_singleton items item ih =>
    rw [eraseDups_concat]
    split
    · exact ih
    · rename_i hnew
      refine List.nodup_append.mpr ⟨ih, List.nodup_singleton _, ?_⟩
      rintro a ha b hb rfl
      exact hnew (List.mem_singleton.mp hb ▸ List.mem_eraseDups.mp ha)

/-- Items in another order are first seen in another order. -/
theorem eraseDups_perm [DecidableEq α] {items items' : List α} (h : items.Perm items') :
    items.eraseDups.Perm items'.eraseDups := by
  refine (List.perm_ext_iff_of_nodup (nodup_eraseDups items) (nodup_eraseDups items')).mpr ?_
  intro item
  rw [List.mem_eraseDups, List.mem_eraseDups, h.mem_iff]

/-- Where no two items have the same key, each is found by its key. -/
theorem filter_key_eq_singleton [DecidableEq β] {key : α → β} {items : List α}
    (h : (items.map key).Nodup) {item : α} (hitem : item ∈ items) :
    items.filter (fun other => key other = key item) = [item] := by
  induction items with
  | nil => cases hitem
  | cons first rest ih =>
    obtain ⟨hfirst, hrest⟩ := List.nodup_cons.mp h
    rcases List.mem_cons.mp hitem with rfl | hitem
    · -- the item comes first, and none after it has its key
      have hnone : rest.filter (fun other => key other = key item) = [] := by
        rw [List.filter_eq_nil_iff]
        intro other hother heq
        exact hfirst (of_decide_eq_true heq ▸ List.mem_map_of_mem hother)
      rw [List.filter_cons_of_pos (by simp), hnone]
    · -- another item comes first, with another key
      have hne : key first ≠ key item := fun heq => hfirst (heq ▸ List.mem_map_of_mem hitem)
      rw [List.filter_cons_of_neg (by simpa using hne), ih hrest hitem]

namespace Keyed

/-- No key is used twice. -/
theorem nodup_keys_set {entries : List (String × α)} (h : (keys entries).Nodup) (key : String)
    (value : α) : (keys (set key value entries)).Nodup := by
  rw [keys_set]
  split
  · exact h
  · rename_i hkey
    refine List.nodup_append.mpr ⟨h, by simp, ?_⟩
    rintro a ha b hb rfl
    exact hkey (List.mem_singleton.mp hb ▸ ha)

/-- If no key is used twice, what is found under a key is all that is there. -/
theorem lookup_eq_some_iff_mem {entries : List (String × α)} (h : (keys entries).Nodup)
    {key : String} {value : α} : entries.lookup key = some value ↔ (key, value) ∈ entries := by
  induction entries with
  | nil => simp
  | cons entry rest ih =>
    obtain ⟨k, v⟩ := entry
    obtain ⟨hk, hrest⟩ := List.nodup_cons.mp h
    by_cases hkey : key = k
    · subst hkey
      -- the key is not used again
      have hnot : (key, value) ∉ rest := fun hm => hk (List.mem_map.mpr ⟨_, hm, rfl⟩)
      simpa [hnot] using eq_comm
    · have hkey' : (key == k) = false := by simpa using hkey
      rw [List.lookup_cons, hkey']
      simpa [hkey] using ih hrest

/-- A list that uses no key twice is read off by its keys. -/
theorem map_snd_eq {entries : List (String × α)} (h : (keys entries).Nodup) :
    entries.map Prod.snd = (keys entries).filterMap fun key => entries.lookup key := by
  rw [keys, List.filterMap_map, ← List.filterMap_eq_map]
  exact List.filterMap_congr fun entry hmem => ((lookup_eq_some_iff_mem h).mpr hmem).symm

/-- A list that uses no key twice is what is found under its keys. -/
theorem eq_filterMap_keys {entries : List (String × α)} (h : (keys entries).Nodup) :
    entries = (keys entries).filterMap fun key => (entries.lookup key).map (Prod.mk key) := by
  have hentry : ∀ entry ∈ entries, some entry =
      (entries.lookup entry.1).map (Prod.mk entry.1) := by
    intro entry hmem
    rw [(lookup_eq_some_iff_mem h).mpr hmem]
    rfl
  rw [keys, List.filterMap_map]
  exact List.filterMap_some.symm.trans (List.filterMap_congr hentry)

/-- Keyed lists are the same if they use the same keys and hold the same under each of them. -/
theorem eq_of_lookup {entries entries' : List (String × α)} (h : (keys entries).Nodup)
    (hkeys : keys entries = keys entries')
    (hlookup : ∀ key, entries.lookup key = entries'.lookup key) : entries = entries' := by
  have hread := eq_filterMap_keys h
  have hread' := eq_filterMap_keys (hkeys ▸ h)
  simp only [hkeys, hlookup] at hread
  exact hread.trans hread'.symm

/-- What is written in the place of a value that is there changes nothing else, so the values before
and after stand side by side. -/
theorem forall₂_set {R : α → α → Prop} (hrefl : ∀ a, R a a) {key : String} {old new : α}
    (hR : R old new) {entries : List (String × α)} (hold : entries.lookup key = some old) :
    List.Forall₂ R (entries.map Prod.snd) ((set key new entries).map Prod.snd) := by
  induction entries with
  | nil => cases hold
  | cons entry rest ih =>
    obtain ⟨k, v⟩ := entry
    rw [List.lookup_cons] at hold
    by_cases hk : k = key
    · -- the value found is that of the first entry
      subst hk
      rw [beq_self_eq_true] at hold
      obtain rfl := Option.some.inj hold
      rw [set, if_pos rfl]
      exact .cons hR (List.forall₂_same.mpr fun _ _ => hrefl _)
    · rw [beq_eq_false_iff_ne.mpr (Ne.symm hk)] at hold
      rw [set, if_neg hk]
      exact .cons (hrefl v) (ih hold)

end Keyed

end OntoTypes

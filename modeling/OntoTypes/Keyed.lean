/-!
# Keyed lists

A list of values under texts, in the order in which the texts were first used. Such lists are read
with `List.lookup`; `Keyed.set` writes to them.

Writing either puts a value in the place of the one that is under the key, or puts the key at the
end of the list. The lemmas say so from each side: what is found under the key and under other keys,
which keys are in use, and which values are left. What holds of lists that use no key twice is said
where lists without repetitions are.

Main definitions and results:

* `Keyed.set`, `Keyed.keys` — writing under a key, and the keys in use;
* `Keyed.lookup_set_self`, `Keyed.lookup_set_of_ne` — what is found after writing;
* `Keyed.keys_set`, `Keyed.set_of_not_mem` — where a key goes;
* `Keyed.isSome_lookup_iff` — under which keys something is found.
-/

namespace OntoTypes.Keyed

/-- The entries with `value` under `key`, in its place if the key is in use, else at the end. -/
def set (key : String) (value : α) : List (String × α) → List (String × α)
  | [] => [(key, value)]
  | (k, v) :: rest => if k = key then (k, value) :: rest else (k, v) :: set key value rest

/-- The keys in use, in order. -/
def keys (entries : List (String × α)) : List String := entries.map Prod.fst

/-- What has been written under a key is found there. -/
@[simp] theorem lookup_set_self (key : String) (value : α) (entries : List (String × α)) :
    (set key value entries).lookup key = some value := by
  induction entries with
  | nil => simp [set]
  | cons entry rest ih =>
    obtain ⟨k, v⟩ := entry
    -- the first entry is the one that gives way, or is passed over
    by_cases h : k = key
    · simp [set, h]
    · have h' : (key == k) = false := by simpa using fun e => h e.symm
      simp [set, h, List.lookup_cons, h', ih]

/-- Writing under one key leaves the others alone. -/
theorem lookup_set_of_ne {key other : String} (h : other ≠ key) (value : α)
    (entries : List (String × α)) :
    (set key value entries).lookup other = entries.lookup other := by
  have h' : (other == key) = false := by simpa using h
  induction entries with
  | nil => simp [set, List.lookup_cons, h']
  | cons entry rest ih =>
    obtain ⟨k, v⟩ := entry
    by_cases hk : k = key
    · subst hk
      simp [set, List.lookup_cons, h']
    · simp [set, hk, List.lookup_cons, ih]

/-- What is written last under a key is all that is left of what is written there. -/
theorem set_set (key : String) (value later : α) (entries : List (String × α)) :
    set key later (set key value entries) = set key later entries := by
  induction entries with
  | nil => simp [set]
  | cons entry rest ih =>
    obtain ⟨k, v⟩ := entry
    by_cases hk : k = key
    · simp [set, hk]
    · simp [set, hk, ih]

/-- A key in use keeps its place, a new one goes to the end. -/
theorem keys_set (key : String) (value : α) (entries : List (String × α)) :
    keys (set key value entries) =
      if key ∈ keys entries then keys entries else keys entries ++ [key] := by
  induction entries with
  | nil => simp [set, keys]
  | cons entry rest ih =>
    obtain ⟨k, v⟩ := entry
    by_cases hk : k = key
    · simp [set, keys, hk]
    · have hk' : key ≠ k := fun e => hk e.symm
      simp only [keys] at ih
      -- behind another key: in use further on, or nowhere
      by_cases hm : key ∈ List.map Prod.fst rest
      · simp [set, keys, hk, hk', ih, hm]
      · simp [set, keys, hk, hk', ih, hm]

/-- A key that is not in use goes to the end, with its value. -/
theorem set_of_not_mem {key : String} {entries : List (String × α)} (h : key ∉ keys entries)
    (value : α) : set key value entries = entries ++ [(key, value)] := by
  induction entries with
  | nil => rfl
  | cons entry rest ih =>
    obtain ⟨k, v⟩ := entry
    obtain ⟨hkey, hrest⟩ := not_or.mp (mt List.mem_cons.mpr h)
    rw [set, if_neg (Ne.symm hkey), ih hrest, List.cons_append]

/-- The values that are left after one more has been written: that one, and some of those that were
there before. -/
theorem mem_map_snd_set {key : String} {value v : α} {entries : List (String × α)}
    (h : v ∈ (set key value entries).map Prod.snd) : v = value ∨ v ∈ entries.map Prod.snd := by
  induction entries with
  | nil => exact Or.inl (by simpa [set] using h)
  | cons entry rest ih =>
    rw [set] at h
    split at h
    · -- the key is that of the first entry, whose value gives way
      rcases List.mem_cons.mp h with h | h
      · exact Or.inl h
      · exact Or.inr (List.mem_cons_of_mem _ h)
    · rcases List.mem_cons.mp h with h | h
      · exact Or.inr (h ▸ List.mem_cons_self ..)
      · exact (ih h).imp_right (List.mem_cons_of_mem _)

/-- Something is found under a key exactly if the key is in use. -/
theorem isSome_lookup_iff {key : String} {entries : List (String × α)} :
    (entries.lookup key).isSome = true ↔ key ∈ keys entries := by
  rw [List.lookup_isSome_iff, keys, List.mem_map]
  constructor
  · rintro ⟨entry, hentry, hkey⟩
    exact ⟨entry, hentry, (beq_iff_eq.mp hkey).symm⟩
  · rintro ⟨entry, hentry, rfl⟩
    exact ⟨entry, hentry, beq_self_eq_true _⟩

end OntoTypes.Keyed

import OntoTypes.Proofs.Sorting

/-!
# What names are listed by

The key of a text is the text folded, and the text with its case swapped. Both are made character by
character, but for a sigma, whose lowercase depends on what stands around it within its word. Two
things follow.

The marks that IRIs are cut at are no letters: no character is folded to a mark or swapped with one,
and they end words. So the key of a local name can be read off the key of its IRI, and listing
things by their names first does not tell apart what their identifiers do not.

A character that swapping case twice brings back can be read off the swapped text. Texts of such
characters, among them all texts in ASCII, are told apart by their keys. Texts with other characters
need not be: a sharp s is folded to two letters and swapped with two capitals, and so are these two
letters themselves.

Main definitions and results:

* `IsMark`, `afterLast_caseFold`, `afterLast_swapCase` — marks stay where they are;
* `SortKey.of_localName` — the key of a local name, read off the key of its IRI;
* `IsSteady`, `SortKey.eq_of_isSteady` — texts that are told apart by their keys.
-/

namespace OntoTypes.Text

/-! ## Marks -/

/-- The marks that IRIs are cut at. -/
def IsMark (c : Char) : Prop := c = '#' ∨ c = '/'

instance (c : Char) : Decidable (IsMark c) := inferInstanceAs (Decidable (_ ∨ _))

/-- Marks by their code points, for which there are decision procedures. -/
theorem isMark_iff {c : Char} : IsMark c ↔ c.toNat = 0x23 ∨ c.toNat = 0x2F := by
  rw [IsMark, ← Char.toNat_inj, ← Char.toNat_inj]
  rfl

/-- What holds of the characters of ASCII one by one. -/
theorem forall_ascii {P : Char → Prop} (h : ∀ n < 128, P (Char.ofNat n)) {c : Char}
    (hc : c.toNat < 128) : P c := by
  have hofNat := h c.toNat hc
  rwa [Char.ofNat_toNat] at hofNat

/-- No code point beyond the marks stands for a mark. -/
theorem not_isMark_ofNat {n : Nat} (h : 0x30 ≤ n) : ¬ IsMark (Char.ofNat n) := by
  -- a number that is no code point stands for the one with the number 0
  have hcode : (Char.ofNat n).toNat = n ∨ (Char.ofNat n).toNat = 0 := by
    by_cases hvalid : n.isValidChar
    · exact Or.inl (congrArg Char.toNat (dif_pos hvalid))
    · exact Or.inr (congrArg Char.toNat (dif_neg hvalid))
  rw [isMark_iff]
  omega

/-- The images in some tables lie beyond the marks. -/
def AvoidsMarks (runs : List CaseRun) (expansions : List (Nat × List Nat)) : Prop :=
  (∀ run ∈ runs, 0x30 ≤ run.target) ∧ ∀ entry ∈ expansions, ∀ n ∈ entry.2, 0x30 ≤ n

/-- Such tables make no mark of anything. -/
theorem AvoidsMarks.eq_of_mem_mapThrough {runs : List CaseRun}
    {expansions : List (Nat × List Nat)} (h : AvoidsMarks runs expansions) {c d : Char}
    (hmem : d ∈ mapThrough runs expansions c) (hmark : IsMark d) : d = c := by
  -- a character has an expansion, or an image in a run, or it stays as it is
  unfold mapThrough at hmem
  split at hmem
  · rename_i image hlookup
    obtain ⟨n, hn, rfl⟩ := List.mem_map.mp hmem
    -- an expansion, all of which lies beyond the marks
    obtain ⟨k, hk⟩ : ∃ k, (k, image) ∈ expansions := by
      obtain ⟨before, after, hsplit, -⟩ := List.lookup_eq_some_iff.mp hlookup
      exact ⟨_, hsplit ▸ List.mem_append_right _ (List.mem_cons_self ..)⟩
    exact absurd hmark (not_isMark_ofNat (h.2 _ hk n hn))
  · split at hmem
    · rename_i image hfound
      obtain rfl := List.mem_singleton.mp hmem
      -- an image, which is not below the first one of its run
      obtain ⟨run, hrun, himage⟩ := List.exists_of_findSome?_eq_some hfound
      have htarget := h.1 run hrun
      unfold CaseRun.image? at himage
      split at himage
      · have hle : 0x30 ≤ image := by
          rw [← Option.some.inj himage]
          omega
        exact absurd hmark (not_isMark_ofNat hle)
      · cases himage
    · exact List.mem_singleton.mp hmem

/-- Nothing in the tables is folded to a mark. -/
theorem avoidsMarks_fold : AvoidsMarks foldRuns foldExpansions := by
  unfold AvoidsMarks
  decide +kernel

/-- Nothing in the tables has a mark for its lowercase. -/
theorem avoidsMarks_lower : AvoidsMarks lowerRuns lowerExpansions := by
  unfold AvoidsMarks
  decide +kernel

/-- Nothing in the tables has a mark for its uppercase. -/
theorem avoidsMarks_upper : AvoidsMarks upperRuns upperExpansions := by
  unfold AvoidsMarks
  decide +kernel

/-- Nothing but a mark is folded to a mark. -/
theorem eq_of_mem_foldChar {c d : Char} (hmem : d ∈ foldChar c) (hmark : IsMark d) :
    d = c := by
  unfold foldChar at hmem
  split at hmem
  · rename_i hascii
    -- in ASCII there are few enough characters to try them all
    obtain rfl := List.mem_singleton.mp hmem
    revert hmark
    exact forall_ascii (P := fun c => IsMark c.toLower → c.toLower = c) (by decide) hascii
  · exact avoidsMarks_fold.eq_of_mem_mapThrough hmem hmark

/-- Nothing but a mark is swapped with a mark, whatever stands around it. -/
theorem eq_of_mem_swapChar {before after : List Char} {c d : Char}
    (hmem : d ∈ swapChar before c after) (hmark : IsMark d) : d = c := by
  -- outside ASCII case is swapped by the tables
  have hlower : d ∈ mapThrough lowerRuns lowerExpansions c → d = c :=
    fun h => avoidsMarks_lower.eq_of_mem_mapThrough h hmark
  have hupper : d ∈ mapThrough upperRuns upperExpansions c → d = c :=
    fun h => avoidsMarks_upper.eq_of_mem_mapThrough h hmark
  unfold swapChar at hmem
  split at hmem
  · rename_i hascii
    split at hmem
    · obtain rfl := List.mem_singleton.mp hmem
      revert hmark
      exact forall_ascii (P := fun c => IsMark c.toLower → c.toLower = c) (by decide) hascii
    · obtain rfl := List.mem_singleton.mp hmem
      revert hmark
      exact forall_ascii (P := fun c => IsMark c.toUpper → c.toUpper = c) (by decide) hascii
  · split at hmem
    · -- a sigma of either form is no mark
      split at hmem
      all_goals
        obtain rfl := List.mem_singleton.mp hmem
        exact absurd hmark (by decide)
    · split at hmem
      · rename_i e hsingle
        split at hmem
        · exact hupper hmem
        · exact hlower (hsingle ▸ hmem)
      · exact hlower hmem

/-- A mark has no case to be folded. -/
theorem foldChar_of_isMark {mark : Char} (h : IsMark mark) : foldChar mark = [mark] := by
  rcases h with rfl | rfl <;> decide

/-- A mark has no case to be swapped. -/
theorem swapChar_of_isMark {mark : Char} (h : IsMark mark) (before after : List Char) :
    swapChar before mark after = [mark] := by
  rcases h with rfl | rfl <;> rfl

/-! ## Local names -/

section

variable {mark : Char} {cs : List Char}

/-- Looking for a mark from the end, a text without marks is passed over. -/
theorem takeWhile_reverse_append (h : mark ∉ cs) (before : List Char) :
    (cs.reverse ++ before).takeWhile (· ≠ mark) =
      cs.reverse ++ before.takeWhile (· ≠ mark) := by
  refine List.takeWhile_append_of_pos fun c hc => decide_eq_true ?_
  rintro rfl
  exact h (List.mem_reverse.mp hc)

/-- A text without the mark is all behind it. -/
theorem afterLast_of_not_mem (h : mark ∉ cs) : afterLast mark cs = cs := by
  have hall := takeWhile_reverse_append h []
  rw [List.append_nil, List.takeWhile_nil, List.append_nil] at hall
  rw [afterLast, hall, List.reverse_reverse]

/-- Otherwise it is what follows the last one. -/
theorem afterLast_append_cons (before : List Char) (h : mark ∉ cs) :
    afterLast mark (before ++ mark :: cs) = cs := by
  have hafter : (before ++ mark :: cs).reverse = cs.reverse ++ mark :: before.reverse := by simp
  rw [afterLast, hafter, takeWhile_reverse_append h, List.takeWhile_cons_of_neg (by simp),
    List.append_nil, List.reverse_reverse]

/-- A text with a mark ends in one, with no other behind it. -/
theorem exists_eq_append_mark_cons (h : mark ∈ cs) :
    ∃ before after, cs = before ++ mark :: after ∧ mark ∉ after := by
  -- the first mark from the end is the last one
  obtain ⟨after, before, hsplit, hnot⟩ :=
    List.eq_append_cons_of_mem (List.mem_reverse.mpr h)
  refine ⟨before.reverse, after.reverse, ?_, mt List.mem_reverse.mp hnot⟩
  rw [← List.reverse_reverse cs, hsplit]
  simp

/-- Folding leaves marks where they are, and makes no others. -/
theorem mem_caseFold_iff (hmark : IsMark mark) : mark ∈ caseFold cs ↔ mark ∈ cs := by
  rw [caseFold, List.mem_flatMap]
  constructor
  · rintro ⟨c, hc, hmem⟩
    rwa [eq_of_mem_foldChar hmem hmark]
  · intro h
    refine ⟨mark, h, ?_⟩
    rw [foldChar_of_isMark hmark]
    exact List.mem_singleton_self mark

/-- **Cutting at a mark and folding can change places**, as the last mark stays the last one. -/
theorem afterLast_caseFold (hmark : IsMark mark) (cs : List Char) :
    afterLast mark (caseFold cs) = caseFold (afterLast mark cs) := by
  by_cases hmem : mark ∈ cs
  · obtain ⟨before, after, rfl, hnot⟩ := exists_eq_append_mark_cons hmem
    -- the mark stays between what is before it and what is behind it
    have hfold : caseFold (before ++ mark :: after) =
        caseFold before ++ mark :: caseFold after := by
      rw [caseFold, List.flatMap_append, List.flatMap_cons, foldChar_of_isMark hmark]
      rfl
    rw [hfold, afterLast_append_cons _ (mt (mem_caseFold_iff hmark).mp hnot),
      afterLast_append_cons _ hnot]
  · rw [afterLast_of_not_mem hmem, afterLast_of_not_mem (mt (mem_caseFold_iff hmark).mp hmem)]

/-- Swapping leaves marks where they are, and makes no others. -/
theorem mem_swapCaseAfter_iff (hmark : IsMark mark) (before : List Char) :
    mark ∈ swapCaseAfter before cs ↔ mark ∈ cs := by
  induction cs generalizing before with
  | nil => exact Iff.rfl
  | cons c rest ih =>
    -- one character at a time, whatever has been passed
    have hfirst : mark ∈ swapChar before c rest ↔ mark = c := by
      constructor
      · exact fun hmem => eq_of_mem_swapChar hmem hmark
      · rintro rfl
        rw [swapChar_of_isMark hmark]
        exact List.mem_singleton_self mark
    rw [swapCaseAfter, List.mem_append, List.mem_cons, hfirst, ih]

/-- What stands before a mark has no part in the word after it. -/
theorem sigmaEndsWord_append_mark (hmark : IsMark mark) (before more after : List Char) :
    sigmaEndsWord (before ++ mark :: more) after = sigmaEndsWord before after := by
  have hignorable : caseIgnorables.contains mark.toNat = false := by
    rcases hmark with rfl | rfl <;> decide
  have hcased : casedLetters.contains mark.toNat = false := by
    rcases hmark with rfl | rfl <;> decide
  -- a mark is not passed over on the way back, and what is found there is no letter
  have hdrop : (before ++ mark :: more).dropWhile (fun c => caseIgnorables.contains c.toNat) =
      before.dropWhile (fun c => caseIgnorables.contains c.toNat) ++ mark :: more := by
    induction before with
    | nil => simp [hignorable]
    | cons c before ih =>
      rw [List.cons_append, List.dropWhile_cons, List.dropWhile_cons, ih]
      split
      · rfl
      · rfl
  unfold sigmaEndsWord
  dsimp only
  rw [hdrop]
  cases before.dropWhile fun c => caseIgnorables.contains c.toNat with
  | nil => simp [hcased]
  | cons c rest => rfl

/-- So nothing before a mark has a part in how the text after it is swapped. -/
theorem swapCaseAfter_append_mark (hmark : IsMark mark) (before more : List Char) :
    swapCaseAfter (before ++ mark :: more) cs = swapCaseAfter before cs := by
  induction cs generalizing before with
  | nil => rfl
  | cons c rest ih =>
    -- the first character is swapped alike, and then it stands before the others on both sides
    have hfirst : swapChar (before ++ mark :: more) c rest = swapChar before c rest := by
      rw [swapChar, swapChar, sigmaEndsWord_append_mark hmark]
    rw [swapCaseAfter, swapCaseAfter, hfirst, ← List.cons_append, ih]

/-- The end of a text is swapped last. -/
theorem exists_swapCaseAfter_append (before front cs : List Char) :
    ∃ swapped, swapCaseAfter before (front ++ cs) =
      swapped ++ swapCaseAfter (front.reverse ++ before) cs := by
  induction front generalizing before with
  | nil => exact ⟨[], rfl⟩
  | cons c front ih =>
    obtain ⟨swapped, hswapped⟩ := ih (c :: before)
    refine ⟨swapChar before c (front ++ cs) ++ swapped, ?_⟩
    rw [List.cons_append, swapCaseAfter, hswapped, List.append_assoc, List.reverse_cons,
      List.append_assoc]
    rfl

/-- **So can cutting and swapping**, though a sigma is looked at within its surroundings: these end
at the mark. -/
theorem afterLast_swapCase (hmark : IsMark mark) (cs : List Char) :
    afterLast mark (swapCase cs) = swapCase (afterLast mark cs) := by
  have hmem_iff : ∀ cs, mark ∈ swapCase cs ↔ mark ∈ cs :=
    fun cs => mem_swapCaseAfter_iff hmark []
  by_cases hmem : mark ∈ cs
  · obtain ⟨before, after, rfl, hnot⟩ := exists_eq_append_mark_cons hmem
    obtain ⟨swapped, hswapped⟩ := exists_swapCaseAfter_append [] before (mark :: after)
    -- behind the mark, case is swapped as if the text began there
    have hafter : swapCaseAfter (before.reverse ++ []) (mark :: after) =
        mark :: swapCase after := by
      rw [swapCaseAfter, swapChar_of_isMark hmark]
      exact congrArg (mark :: ·) (swapCaseAfter_append_mark hmark [] _)
    rw [swapCase, hswapped, hafter, afterLast_append_cons _ (mt (hmem_iff after).mp hnot),
      afterLast_append_cons _ hnot]
  · rw [afterLast_of_not_mem hmem, afterLast_of_not_mem (mt (hmem_iff cs).mp hmem)]

end

/-- The key of a local name, read off the key of its IRI. -/
def SortKey.localName (key : SortKey) : SortKey :=
  let mark := if key.folded.contains '#' then '#' else '/'
  ⟨afterLast mark key.folded, afterLast mark key.swapped⟩

/-- **A local name is listed by what its IRI is listed by.** Two things with equal keys for their
IRIs have equal keys for their names, so it makes no difference to ask for the names first. -/
theorem SortKey.of_localName (iri : String) :
    SortKey.of (Text.localName iri) = (SortKey.of iri).localName := by
  -- the same mark is looked for in the folded text
  have hhash : (caseFold iri.toList).contains '#' = iri.toList.contains '#' := by
    rw [Bool.eq_iff_iff, List.contains_iff_mem, List.contains_iff_mem,
      mem_caseFold_iff (Or.inl rfl)]
  -- whichever it is
  have hmark : IsMark (if iri.toList.contains '#' then '#' else '/') := by
    split
    · exact Or.inl rfl
    · exact Or.inr rfl
  rw [SortKey.localName, SortKey.of, SortKey.of, hhash, afterLast_caseFold hmark,
    afterLast_swapCase hmark, Text.localName, String.toList_ofList]

/-! ## Steady texts -/

/-- Characters that swapping case twice brings back. -/
def IsSteadyChar (c : Char) : Prop :=
  (swapChar [] c []).flatMap (fun d => swapChar [] d []) = [c]

instance (c : Char) : Decidable (IsSteadyChar c) := inferInstanceAs (Decidable (_ = _))

/-- Texts of such characters. -/
def IsSteady (text : String) : Prop := ∀ c ∈ text.toList, IsSteadyChar c

instance (text : String) : Decidable (IsSteady text) :=
  inferInstanceAs (Decidable (∀ c ∈ text.toList, _))

/-- All characters of ASCII are steady. -/
theorem isSteadyChar_of_ascii {c : Char} (h : c.toNat < 128) : IsSteadyChar c :=
  forall_ascii (by decide) h

/-- A text in ASCII is steady, which is decided without a look at any table. -/
theorem isSteady_of_ascii {text : String}
    (h : (text.toList.all fun c => c.toNat < 128) = true) : IsSteady text := by
  intro c hc
  have hascii := List.all_eq_true.mp h c hc
  exact isSteadyChar_of_ascii (of_decide_eq_true hascii)

/-- Swapping a character once more does not depend on what stood around it: it is a sigma that
depends on it, and both of its lowercase forms have the same capital. -/
theorem flatMap_swapChar {c : Char} (h : IsSteadyChar c) (before after : List Char) :
    (swapChar before c after).flatMap (fun d => swapChar [] d []) = [c] := by
  by_cases hsigma : c = 'Σ'
  · subst hsigma
    -- a sigma becomes one of two letters
    have hforms : swapChar before 'Σ' after = ['ς'] ∨ swapChar before 'Σ' after = ['σ'] := by
      rw [swapChar, if_neg (by decide), if_pos rfl]
      split
      · exact Or.inl rfl
      · exact Or.inr rfl
    rcases hforms with hform | hform
    · rw [hform]
      decide
    · rw [hform]
      decide
  · have hcontext : swapChar before c after = swapChar [] c [] := by
      rw [swapChar, swapChar, if_neg hsigma, if_neg hsigma]
    rw [hcontext]
    exact h

/-- A steady text is read off the swapped one. -/
theorem flatMap_swapCaseAfter {cs : List Char} (h : ∀ c ∈ cs, IsSteadyChar c)
    (before : List Char) :
    (swapCaseAfter before cs).flatMap (fun d => swapChar [] d []) = cs := by
  induction cs generalizing before with
  | nil => rfl
  | cons c rest ih =>
    obtain ⟨hc, hrest⟩ := List.forall_mem_cons.mp h
    rw [swapCaseAfter, List.flatMap_append, flatMap_swapChar hc, ih hrest]
    rfl

/-- **Steady texts are told apart by their keys.** -/
theorem SortKey.eq_of_isSteady {a b : String} (ha : IsSteady a) (hb : IsSteady b)
    (h : SortKey.of a = SortKey.of b) : a = b := by
  have hswapped : swapCase a.toList = swapCase b.toList := congrArg SortKey.swapped h
  -- the swapped texts are the same, and can be swapped back
  have hback := congrArg (fun cs => cs.flatMap fun d => swapChar [] d []) hswapped
  rw [swapCase, swapCase, flatMap_swapCaseAfter ha, flatMap_swapCaseAfter hb] at hback
  exact String.toList_inj.mp hback

end OntoTypes.Text

import OntoTypes.Proofs.CommentBlock

/-!
# Comments stay inside their blocks

Whatever a comment says, its block opens behind the indentation and closes with the one mark that
ends a comment, and every line of it is indented. Cutting the comment at the line ends of all
writing systems leaves no line feed inside a line, and what is trimmed at the end of a line never
reaches the star in front of it.

Main results:

* `eq_of_commentChars_eq_append` — nothing but a line feed comes after a closing mark;
* `exists_lines_commentChars` — the lines of a block are indented;
* `confined_renderComment` — both, for the comment and the indentation as they are given.
-/

namespace OntoTypes

/-! ## The mark -/

/-- After a text without marks, the first mark is the only one if just a line feed follows it. -/
theorem Unended.eq_of_append_mark_eq {body before after : List Char} (h : Unended body)
    (heq : body ++ "*/\n".toList = before ++ "*/".toList ++ after) : after = ['\n'] := by
  rw [List.append_assoc] at heq
  -- the mark stands behind the body, or it would begin in the body or at its end
  rcases List.append_eq_append_iff.mp heq with ⟨more, rfl, hmore⟩ | ⟨more, rfl, hmore⟩
  · match more with
    | [] => simpa [eq_comm] using hmore
    | [_] => simp at hmore
    | [_, _] => simp at hmore
    | _ :: _ :: _ :: _ => simp at hmore
  · match more with
    | [] => simpa using hmore
    | [_] => simp at hmore
    | c :: d :: more =>
      obtain ⟨rfl, rfl, -⟩ : '*' = c ∧ '/' = d ∧ _ := by simpa using hmore
      have hmark := (List.isChain_append.mp h).2.1
      exact absurd ⟨rfl, rfl⟩ ((List.isChain_cons.mp hmark).1 '/' rfl)

/-- Nothing but a line feed comes after a closing mark in a block. -/
theorem eq_of_commentChars_eq_append {comment indent : List Char}
    (hindent : ∀ c ∈ indent, c = ' ') {before after : List Char}
    (heq : commentChars comment indent = before ++ "*/".toList ++ after) : after = ['\n'] := by
  obtain ⟨body, hbody, hblock⟩ := exists_commentChars_eq comment hindent
  exact hbody.eq_of_append_mark_eq (hblock ▸ heq)

/-! ## The lines -/

/-- Texts that are each followed by a line feed are the lines of the whole. -/
theorem splitOn_flatMap_append_newline {lines : List (List Char)}
    (h : ∀ line ∈ lines, '\n' ∉ line) :
    (lines.flatMap (· ++ ['\n'])).splitOn '\n' = lines ++ [[]] := by
  -- followed by line feeds, or joined by them with nothing at the end
  have hjoin : lines.flatMap (· ++ ['\n']) = ['\n'].intercalate (lines ++ [[]]) := by
    induction lines with
    | nil => rfl
    | cons line lines ih =>
      obtain ⟨next, rest, hrest⟩ : ∃ next rest, lines ++ [[]] = next :: rest :=
        List.exists_cons_of_ne_nil (by simp)
      rw [List.flatMap_cons, ih (List.forall_mem_cons.mp h).2, List.cons_append, hrest,
        List.intercalate_cons_cons]
  rw [hjoin, List.splitOn_intercalate '\n' _ (by simp)]
  simpa [or_imp, forall_and] using h

/-- No line of a text has a line feed in it. -/
theorem newline_notMem_of_mem_splitLines (cs : List Char) :
    ∀ line ∈ Text.splitLines cs, '\n' ∉ line := by
  -- a line feed ends a line, whatever stands around it
  fun_induction Text.splitLines cs with
  | case1 => simp
  | case2 rest ih => exact List.forall_mem_cons.mpr ⟨by simp, ih⟩
  | case3 c rest hother hend ih => exact List.forall_mem_cons.mpr ⟨by simp, ih⟩
  | case4 c rest hother hend hlines ih =>
    have hc : c ≠ '\n' := by rintro rfl; exact hend rfl
    simpa [eq_comm] using hc
  | case5 c rest hother hend first others hlines ih =>
    have hc : c ≠ '\n' := by rintro rfl; exact hend rfl
    rw [hlines] at ih
    obtain ⟨hfirst, hothers⟩ := List.forall_mem_cons.mp ih
    refine List.forall_mem_cons.mpr ⟨?_, hothers⟩
    simpa [eq_comm] using And.intro hc hfirst

/-- Trimming stops at what is not blank. -/
theorem isPrefix_trimEnd {front : List Char} {c : Char} (hc : Text.isBlank c = false)
    (back : List Char) : front ++ [c] <+: Text.trimEnd (front ++ [c] ++ back) := by
  have hreverse : (front ++ [c] ++ back).reverse = back.reverse ++ (front ++ [c]).reverse :=
    List.reverse_append
  rw [Text.trimEnd, ← List.reverse_suffix, List.reverse_reverse, hreverse, List.dropWhile_append]
  split
  · simp [hc]
  · exact List.suffix_append ..

/-- The star in front of a line stays behind its indentation. -/
theorem isPrefix_commentLine (indent line : List Char) :
    indent <+: Text.trimEnd (indent ++ " * ".toList ++ line) := by
  have hstar : Text.isBlank '*' = false := by decide
  have hkept := @isPrefix_trimEnd (indent ++ [' ']) '*' hstar (' ' :: line)
  have hindent : indent <+: indent ++ [' '] ++ ['*'] := by simp
  simpa using hindent.trans hkept

/-- **Every line of a block is indented.** -/
theorem exists_lines_commentChars (comment : List Char) {indent : List Char}
    (hindent : ∀ c ∈ indent, c = ' ') :
    ∃ lines, (commentChars comment indent).splitOn '\n' = lines ++ [[]] ∧
      ∀ line ∈ lines, indent <+: line := by
  -- it is enough to give the lines before they are joined
  suffices hlines : ∃ lines : List (List Char),
      commentChars comment indent = lines.flatMap (· ++ ['\n']) ∧
        ∀ line ∈ lines, '\n' ∉ line ∧ indent <+: line by
    obtain ⟨lines, heq, hlines⟩ := hlines
    refine ⟨lines, ?_, fun line hline => (hlines line hline).2⟩
    rw [heq, splitOn_flatMap_append_newline fun line hline => (hlines line hline).1]
  have hblank : '\n' ∉ indent := fun h => absurd (hindent _ h) (by decide)
  have hinside := newline_notMem_of_mem_splitLines (breakTerminators comment)
  -- a comment of one line stands between its marks, others have a line for each mark
  unfold commentChars
  split
  · rename_i line hline
    rw [hline] at hinside
    refine ⟨[indent ++ "/** ".toList ++ line ++ " */".toList], by simp, ?_⟩
    simpa [hblank, List.append_assoc] using hinside
  · generalize Text.splitLines (breakTerminators comment) = lines at hinside
    -- the opening mark, the lines in their frames, and the closing mark
    let framed := lines.map fun line => Text.trimEnd (indent ++ " * ".toList ++ line)
    refine ⟨(indent ++ "/**".toList) :: framed ++ [indent ++ " */".toList], ?_, ?_⟩
    · have hcut : lines.flatMap (commentLine indent) = framed.flatMap (· ++ ['\n']) := by
        rw [List.flatMap_map]
        rfl
      simp [hcut]
    · have hframed : ∀ line ∈ framed, '\n' ∉ line ∧ indent <+: line := by
        intro framedLine hmem
        obtain ⟨line, hline, rfl⟩ := List.mem_map.mp hmem
        refine ⟨fun hnewline => ?_, isPrefix_commentLine indent line⟩
        -- trimming brings in no line feed
        have hwhole := (trimEnd_isPrefix _).subset hnewline
        simp [hblank, hinside line hline] at hwhole
      simpa [hblank, or_imp, forall_and] using hframed

/-! ## The block -/

/-- A block opens behind its indentation. -/
theorem opening_isPrefix_commentChars (comment indent : List Char) :
    indent ++ "/**".toList <+: commentChars comment indent := by
  unfold commentChars
  split <;> simp

/-- **Comments cannot escape from their blocks.** The block of a comment that is not empty starts
with the indentation and the opening mark, ends with the closing mark and a line feed, and holds the
closing mark nowhere else; and cut at its line feeds it is made of lines that all start with the
indentation, with nothing after the last line feed.

Nothing is assumed of the comment: it may hold marks itself, line ends of any kind, or a star and a
slash that only meet where lines are joined. -/
theorem confined_renderComment {comment indent : String} (hcomment : comment ≠ "")
    (hindent : ∀ c ∈ indent.toList, c = ' ') :
    let block := (renderComment (some comment) indent).toList
    indent.toList ++ "/**".toList <+: block ∧
      "*/\n".toList <:+ block ∧
      (∀ before after, block = before ++ "*/".toList ++ after → after = ['\n']) ∧
      ∃ lines, block.splitOn '\n' = lines ++ [[]] ∧ ∀ line ∈ lines, indent.toList <+: line := by
  have hblock : (renderComment (some comment) indent).toList =
      commentChars comment.toList indent.toList := by
    rw [renderComment, if_neg hcomment, String.toList_ofList]
  rw [hblock]
  -- the closing mark is at the end, and nowhere before
  obtain ⟨body, -, hbody⟩ := exists_commentChars_eq comment.toList hindent
  exact ⟨opening_isPrefix_commentChars .., ⟨body, hbody.symm⟩,
    fun before after => eq_of_commentChars_eq_append hindent,
    exists_lines_commentChars comment.toList hindent⟩

/-- A star and a slash on the two sides of a line end, and a closing mark inside of the second
line. -/
theorem confined_renderComment_seam :
    let block := "  /**\n   * *\n   * / *\\/\n   */\n".toList
    renderComment (some "*\r/ */") "  " = String.ofList block ∧
      "  /**".toList <+: block ∧ "*/\n".toList <:+ block ∧
      (∀ before after, block = before ++ "*/".toList ++ after → after = ['\n']) ∧
      ∃ lines, block.splitOn '\n' = lines ++ [[]] ∧ ∀ line ∈ lines, "  ".toList <+: line := by
  have hblock : renderComment (some "*\r/ */") "  " =
      "  /**\n   * *\n   * / *\\/\n   */\n" := by cbv
  have hconfined := @confined_renderComment "*\r/ */" "  " (by decide) (by simp)
  rw [hblock] at hconfined
  exact ⟨hblock, hconfined⟩

end OntoTypes

import Mathlib.Data.List.Chain
import OntoTypes.Declaration.Comment
import OntoTypes.Proofs.Legible

/-!
# Comment blocks end where they end

Whatever a comment says, the mark that ends its block stands at the end of the block and nowhere
before: inside the comment the mark is broken up, and none comes about where lines meet the frame
around them. A block can therefore be told from the text that follows it.

Main results:

* `exists_commentChars_eq` — a block is a body without the mark, and the mark;
* `tells_renderComment` — two blocks tell whether they are the same.
-/

namespace OntoTypes

/-- A text in which no star is directly followed by a slash. -/
def Unended (cs : List Char) : Prop := cs.IsChain fun a b => ¬(a = '*' ∧ b = '/')

instance : DecidablePred Unended := fun cs =>
  inferInstanceAs (Decidable (cs.IsChain fun a b => ¬(a = '*' ∧ b = '/')))

namespace Unended

variable {a b : List Char}

/-- No mark comes about where a text without stars at its end meets another. -/
theorem append_of_getLast? (ha : Unended a) (hb : Unended b) (hend : a.getLast? ≠ some '*') :
    Unended (a ++ b) := by
  refine List.IsChain.append ha hb ?_
  rintro c hc d - ⟨rfl, -⟩
  exact hend hc

/-- Nor where it meets a text without a slash at its beginning. -/
theorem append_of_head? (ha : Unended a) (hb : Unended b) (hbegin : b.head? ≠ some '/') :
    Unended (a ++ b) := by
  refine List.IsChain.append ha hb ?_
  rintro c - d hd ⟨-, rfl⟩
  exact hbegin hd

/-- The beginning of such a text is such a text. -/
theorem of_isPrefix (hb : Unended b) (h : a <+: b) : Unended a := List.IsChain.prefix hb h

/-- Blanks hold no mark. -/
theorem of_blank {indent : List Char} (h : ∀ c ∈ indent, c = ' ') : Unended indent := by
  induction indent with
  | nil => exact .nil
  | cons c rest ih =>
    obtain ⟨rfl, hrest⟩ := List.forall_mem_cons.mp h
    exact List.isChain_cons.mpr ⟨fun _ _ hmark => absurd hmark.1 (by decide), ih hrest⟩

end Unended

/-- An indentation ends in no star, so it can stand before anything. -/
theorem getLast?_ne_star_of_blank {indent : List Char} (h : ∀ c ∈ indent, c = ' ') :
    indent.getLast? ≠ some '*' := by
  intro hlast
  exact absurd (h '*' (List.mem_of_getLast? hlast)) (by decide)

/-! ## Inside a comment -/

/-- A comment begins as before when its marks are broken up. -/
theorem head?_breakTerminators (cs : List Char) : (breakTerminators cs).head? = cs.head? := by
  fun_cases breakTerminators cs <;> rfl

/-- Inside a comment the mark is broken up. -/
theorem unended_breakTerminators (cs : List Char) : Unended (breakTerminators cs) := by
  fun_induction breakTerminators cs with
  | case1 rest ih =>
    -- a mark, between whose characters something has been put
    refine List.isChain_cons.mpr ⟨by simp, List.isChain_cons.mpr ⟨by simp, ?_⟩⟩
    exact List.isChain_cons.mpr ⟨fun _ _ hmark => absurd hmark.1 (by decide), ih⟩
  | case2 c rest hother ih =>
    -- another character, which begins no mark with what follows it
    refine List.isChain_cons.mpr ⟨?_, ih⟩
    rintro d hd ⟨rfl, rfl⟩
    rw [head?_breakTerminators] at hd
    cases rest with
    | nil => cases hd
    | cons e rest =>
      obtain rfl : e = '/' := by simpa using hd
      exact hother rest rfl rfl
  | case3 => exact .nil

/-- The first line of a text begins as the text does. -/
theorem head?_of_splitLines (cs : List Char) {c : Char} :
    (Text.splitLines cs).head?.bind List.head? = some c → cs.head? = some c := by
  fun_cases Text.splitLines cs <;> simp

/-- No line of a text without marks holds one. -/
theorem unended_of_mem_splitLines {cs : List Char} (h : Unended cs) :
    ∀ line ∈ Text.splitLines cs, Unended line := by
  fun_induction Text.splitLines cs with
  | case1 => simp
  | case2 rest ih =>
    -- a line end of two characters
    have hrest : Unended rest := (List.isChain_cons.mp (List.isChain_cons.mp h).2).2
    exact List.forall_mem_cons.mpr ⟨.nil, ih hrest⟩
  | case3 d rest hother hend ih =>
    -- a line end of one character
    exact List.forall_mem_cons.mpr ⟨.nil, ih (List.isChain_cons.mp h).2⟩
  | case4 d rest hother hend hlines ih =>
    -- the last character of all
    exact List.forall_mem_singleton.mpr (List.isChain_singleton d)
  | case5 d rest hother hend first others hlines ih =>
    obtain ⟨hd, hrest⟩ := List.isChain_cons.mp h
    -- the character joins the first line of the rest, whose beginning is that of the rest
    have hrestLines := ih hrest
    rw [hlines] at hrestLines
    obtain ⟨hfirst, hothers⟩ := List.forall_mem_cons.mp hrestLines
    refine List.forall_mem_cons.mpr ⟨List.isChain_cons.mpr ⟨fun c hc => ?_, hfirst⟩, hothers⟩
    exact hd c (head?_of_splitLines rest (by rw [hlines]; exact hc))

/-! ## The block -/

/-- Trimming takes away from the end only. -/
theorem trimEnd_isPrefix (cs : List Char) : Text.trimEnd cs <+: cs := by
  have hsuffix := List.dropWhile_suffix Text.isBlank (l := cs.reverse)
  rwa [← List.reverse_prefix, List.reverse_reverse] at hsuffix

/-- A line in its frame holds no mark, and ends in a line feed. -/
theorem unended_commentLine {indent line : List Char} (hindent : ∀ c ∈ indent, c = ' ')
    (hline : Unended line) : Unended (commentLine indent line) := by
  have hframe : Unended (indent ++ " * ".toList) :=
    (Unended.of_blank hindent).append_of_head? (by decide) (by decide)
  -- the frame ends in a blank, whatever the indentation
  have hlast : (indent ++ " * ".toList).getLast? ≠ some '*' := by
    rw [List.getLast?_append_of_ne_nil _ (by decide)]
    decide
  have hwhole := (hframe.append_of_getLast? hline hlast).of_isPrefix (trimEnd_isPrefix _)
  exact hwhole.append_of_head? (List.isChain_singleton '\n') (by decide)

/-- A mark does not come about between two lines either, as each of them ends in a line feed. -/
theorem unended_flatMap_commentLine {indent : List Char} (hindent : ∀ c ∈ indent, c = ' ')
    {lines : List (List Char)} (hlines : ∀ line ∈ lines, Unended line) :
    Unended (lines.flatMap (commentLine indent)) := by
  induction lines with
  | nil => exact .nil
  | cons line lines ih =>
    obtain ⟨hline, hrest⟩ := List.forall_mem_cons.mp hlines
    rw [List.flatMap_cons]
    refine (unended_commentLine hindent hline).append_of_getLast? (ih hrest) ?_
    rw [commentLine, List.getLast?_concat]
    decide

/-- **A block is a body without the mark, and the mark.** The comment is arbitrary; that the
indentation consists of blanks is needed where the frame and the indentation meet. -/
theorem exists_commentChars_eq (comment : List Char) {indent : List Char}
    (hindent : ∀ c ∈ indent, c = ' ') :
    ∃ body, Unended body ∧ commentChars comment indent = body ++ "*/\n".toList := by
  have hlines := unended_of_mem_splitLines (unended_breakTerminators comment)
  have hblank := Unended.of_blank hindent
  have hnotStar := getLast?_ne_star_of_blank hindent
  -- a comment of one line stands between its marks, others have a line for each mark
  unfold commentChars
  split
  · rename_i line hline
    rw [hline] at hlines
    refine ⟨indent ++ "/** ".toList ++ line ++ [' '], ?_, by simp⟩
    -- the opening mark, the line, and a blank
    have hopening : Unended (indent ++ "/** ".toList) :=
      hblank.append_of_getLast? (by decide) hnotStar
    have hlast : (indent ++ "/** ".toList).getLast? ≠ some '*' := by
      rw [List.getLast?_append_of_ne_nil _ (by decide)]
      decide
    have hcontent := hopening.append_of_getLast? (hlines line (List.mem_singleton_self line)) hlast
    exact hcontent.append_of_head? (List.isChain_singleton ' ') (by decide)
  · generalize Text.splitLines (breakTerminators comment) = lines at hlines
    refine ⟨indent ++ "/**\n".toList ++ lines.flatMap (commentLine indent) ++ (indent ++ [' ']), ?_,
      by simp⟩
    -- the line of the opening mark, those of the comment, and a last indentation
    have hopening : Unended (indent ++ "/**\n".toList) :=
      hblank.append_of_getLast? (by decide) hnotStar
    have hlast : (indent ++ "/**\n".toList).getLast? ≠ some '*' := by
      rw [List.getLast?_append_of_ne_nil _ (by decide)]
      decide
    have hcontent := hopening.append_of_getLast? (unended_flatMap_commentLine hindent hlines) hlast
    have hclosing : ∀ c ∈ indent ++ [' '], c = ' ' := by simpa [or_imp, forall_and] using hindent
    refine hcontent.append_of_head? (.of_blank hclosing) fun hhead => ?_
    exact absurd (hclosing '/' (List.mem_of_head? hhead)) (by decide)

/-- The first mark in a text ends what stands before it. -/
theorem eq_of_append_mark {a b rest rest' : List Char} (ha : Unended a) (hb : Unended b)
    (h : a ++ '*' :: '/' :: rest = b ++ '*' :: '/' :: rest') : a = b := by
  -- if the one body goes on where the other ends, it goes on with the mark
  have hshorter : ∀ {a b rest rest' : List Char}, Unended b →
      (∃ more, b = a ++ more ∧ '*' :: '/' :: rest = more ++ '*' :: '/' :: rest') → a = b := by
    rintro a b rest rest' hb ⟨more, rfl, hmore⟩
    match more with
    | [] => simp
    | [c] => simp at hmore
    | c :: d :: more =>
      obtain ⟨rfl, rfl, -⟩ : '*' = c ∧ '/' = d ∧ _ := by simpa using hmore
      have hmark := (List.isChain_append.mp hb).2.1
      exact absurd ⟨rfl, rfl⟩ ((List.isChain_cons.mp hmark).1 '/' rfl)
  -- one of the two bodies begins with the other, and the longer one would hold the mark
  rcases List.append_eq_append_iff.mp h with h | h
  · exact hshorter hb h
  · exact (hshorter ha h).symm

/-- **Two blocks tell whether they are the same.** -/
theorem tells_commentChars (comment comment' : List Char) {indent : List Char}
    (hindent : ∀ c ∈ indent, c = ' ') :
    Tells (commentChars comment indent) (commentChars comment' indent)
      (commentChars comment indent = commentChars comment' indent) := by
  intro rest rest'
  obtain ⟨body, hbody, heq⟩ := exists_commentChars_eq comment hindent
  obtain ⟨body', hbody', heq'⟩ := exists_commentChars_eq comment' hindent
  rw [heq, heq']
  constructor
  · intro h
    have hsame : body = body' := eq_of_append_mark hbody hbody' (by simpa using h)
    subst hsame
    exact ⟨rfl, List.append_cancel_left h⟩
  · rintro ⟨h, rfl⟩
    rw [h]

/-- **Two comments tell whether they are written alike**, if they are both there or both missing. -/
theorem tells_renderComment {comment comment' : Option String}
    (hempty : comment.getD "" = "" ↔ comment'.getD "" = "") {indent : String}
    (hindent : ∀ c ∈ indent.toList, c = ' ') :
    Tells (renderComment comment indent).toList (renderComment comment' indent).toList
      (renderComment comment indent = renderComment comment' indent) := by
  -- nothing is written for a comment that is missing
  have hmissing : ∀ {comment : Option String}, comment.getD "" = "" →
      renderComment comment indent = "" := by
    intro comment h
    cases comment with
    | none => rfl
    | some text => exact if_pos h
  -- and a block for any other
  have hpresent : ∀ {comment : Option String}, comment.getD "" ≠ "" →
      renderComment comment indent =
        String.ofList (commentChars (comment.getD "").toList indent.toList) := by
    intro comment h
    cases comment with
    | none => exact absurd rfl h
    | some text => exact if_neg h
  -- an empty comment is written like a missing one
  by_cases h : comment.getD "" = ""
  · rw [hmissing h, hmissing (hempty.mp h)]
    exact .of_eq rfl rfl
  · rw [hpresent h, hpresent (mt hempty.mpr h), String.toList_ofList, String.toList_ofList]
    exact (tells_commentChars _ _ hindent).congr String.ofList_inj.symm

end OntoTypes

import OntoTypes.Json.Parser
import OntoTypes.Proofs.Identifiers

/-!
# Types can be read off their texts

Two types that are written alike are the same type, except that the text does not show whether a
name is that of a declared or of a primitive type. Texts are compared from the left. A name ends
where no letter, digit or underscore follows, a quoted text at its closing quote, and a record or a
type in parentheses at its bracket, so what stands in front of the brackets of arrays is found out
without looking further. After that a bracket says that there is one more array around it, and a
blank that there is one more member of a union or intersection; the whole type ends at a closing
parenthesis, at a semicolon or with the text.

Main definitions and results:

* `textRest_quoted`, `tells_quoted` — quoted texts are read back, and tell what they quote;
* `TypeExpr.named` — the type with every name taken for that of a declared type;
* `TypeExpr.Legible` — types with names that can be written, no union or intersection of fewer than
  two members, and no comments;
* `TypeExpr.Legible.told` — the induction over types;
* `render_eq_render_iff` — legible types that are written alike are the same.
-/

namespace OntoTypes

/-! ## Quoted texts -/

/-- The digits of a control character are read back as its number. -/
theorem hexNumber?_hexDigits : ∀ n < 32, Text.hexNumber? (Text.hexDigits 4 n) = some n := by
  decide

/-- What is quoted is read back, character by character. -/
theorem textRest_escaped (c : Char) (read rest : List Char) :
    Json.textRest read none (Text.escaped c ++ rest) = Json.textRest (c :: read) none rest := by
  unfold Text.escaped
  split_ifs with hquote hbackslash h h h h h hcontrol
  · subst hquote; rfl
  · subst hbackslash; rfl
  -- the characters with an escape of one letter
  · subst h; rfl
  · subst h; rfl
  · subst h; rfl
  · subst h; rfl
  · subst h; rfl
  · -- any other control character is written as four digits, and is half of no pair
    obtain ⟨w, x, y, z, hdigits⟩ : ∃ w x y z, Text.hexDigits 4 c.toNat = [w, x, y, z] :=
      ⟨_, _, _, _, rfl⟩
    have hread := hexNumber?_hexDigits _ hcontrol
    have hhigh : Json.isHighSurrogate c.toNat = false := by
      simp only [Json.isHighSurrogate, Bool.and_eq_false_iff, decide_eq_false_iff_not]
      omega
    have hlow : Json.isLowSurrogate c.toNat = false := by
      simp only [Json.isLowSurrogate, Bool.and_eq_false_iff, decide_eq_false_iff_not]
      omega
    have hunit : Json.charOfUnit c.toNat = c := by
      rw [Json.charOfUnit, hhigh, hlow]
      exact Char.ofNat_toNat c
    rw [hdigits] at hread ⊢
    show Json.textRest read none ('\\' :: 'u' :: w :: x :: y :: z :: rest) = _
    rw [Json.textRest, hread]
    simp [hhigh, hunit]
  · -- characters that stand for themselves
    show Json.textRest read none (c :: rest) = _
    rw [Json.textRest, if_neg hcontrol]
    · rfl
    · exact hquote
    · exact fun _ _ _ _ _ h _ => hbackslash h
    · exact fun _ _ h _ => hbackslash h

/-- **Quoted texts are read back**, whatever comes after them. -/
theorem textRest_quoted (cs read rest : List Char) :
    Json.textRest read none (cs.flatMap Text.escaped ++ '"' :: rest) =
      some (String.ofList (read.reverse ++ cs), rest) := by
  induction cs generalizing read with
  | nil => simp [Json.textRest, Json.textRest.pending]
  | cons c cs ih =>
    rw [List.flatMap_cons, List.append_assoc, textRest_escaped, ih]
    simp

/-- Quoted texts tell what they quote. -/
theorem tells_quoted (s t : String) :
    Tells (Text.quoted s).toList (Text.quoted t).toList (s = t) := by
  -- a reader stops at the closing quote, whatever follows
  have hread : ∀ (s : String) (rest : List Char),
      Json.textRest [] none ((Text.quoted s).toList ++ rest).tail = some (s, rest) := by
    intro s rest
    simp [Text.quoted, Text.quotedChars, textRest_quoted]
  intro rest rest'
  constructor
  · intro h
    have hboth := hread s rest
    rw [h, hread t rest'] at hboth
    simpa [eq_comm] using hboth
  · rintro ⟨rfl, rfl⟩
    rfl

/-! ## What may follow -/

/-- Two texts tell a property if what follows is of some kind: where the whole texts are the same,
the property holds, and the readers go on with the same text. -/
def TellsBefore (follows : List Char → Prop) (x y : List Char) (p : Prop) : Prop :=
  ∀ rest rest', follows rest → follows rest' → x ++ rest = y ++ rest' → p ∧ rest = rest'

/-- A text that does not go on with a word. -/
def EndsWord (rest : List Char) : Prop := ∀ c ∈ rest.head?, Text.isWordChar c = false

/-- A text that does not go on with a member of a union or intersection, or with an array. -/
def EndsMember (rest : List Char) : Prop := ∀ c ∈ rest.head?, c = ')' ∨ c = ';' ∨ c = ' '

/-- A text that does not go on with a type. -/
def EndsType (rest : List Char) : Prop := ∀ c ∈ rest.head?, c = ')' ∨ c = ';'

/-- What ends a type ends a member of one. -/
theorem EndsType.endsMember {rest : List Char} (h : EndsType rest) : EndsMember rest :=
  fun c hc => (h c hc).imp_right .inl

/-- What ends a member ends a word. -/
theorem EndsMember.endsWord {rest : List Char} (h : EndsMember rest) : EndsWord rest := by
  intro c hc
  rcases h c hc with rfl | rfl | rfl <;> decide

/-- A word tells which word it is if no word follows. -/
theorem tellsBefore_word {a b : List Char} (ha : IsWord a) (hb : IsWord b) :
    TellsBefore EndsWord a b (a = b) := by
  -- a word is what comes before the first character of another kind
  have hread : ∀ {word rest : List Char}, IsWord word → EndsWord rest →
      (word ++ rest).takeWhile Text.isWordChar = word := by
    intro word rest hword hrest
    rw [List.takeWhile_append_of_pos hword]
    cases rest with
    | nil => exact List.append_nil word
    | cons c rest =>
      rw [List.takeWhile_cons, hrest c rfl]
      exact List.append_nil word
  intro rest rest' hrest hrest' h
  have hsame : a = b := by
    rw [← hread ha hrest, h, hread hb hrest']
  subst hsame
  exact ⟨rfl, List.append_cancel_left h⟩

/-! ## Types with names -/

mutual

/-- The type with the name of every primitive type taken for that of a declared one. -/
def TypeExpr.named : TypeExpr → TypeExpr
  | .reference name => .reference name
  | .keyword name => .reference name
  | .literal value => .literal value
  | .array element => .array element.named
  | .union members => .union (namedMembers members)
  | .intersection members => .intersection (namedMembers members)
  | .record fields => .record (namedFields fields)

/-- The members of a type with their names taken so. -/
def namedMembers : List TypeExpr → List TypeExpr
  | [] => []
  | member :: members => member.named :: namedMembers members

/-- The fields of a record with their names taken so. -/
def namedFields : List Field → List Field
  | [] => []
  | field :: fields => field.named :: namedFields fields

/-- A field with the names of its type taken so. -/
def Field.named : Field → Field
  | .mk key value isOptional comment => .mk key value.named isOptional comment

end

/-- Members are taken one by one when keywords become names. -/
theorem namedMembers_eq_map (members : List TypeExpr) :
    namedMembers members = members.map TypeExpr.named := by
  induction members with
  | nil => rfl
  | cons member members ih => rw [namedMembers, ih, List.map_cons]

/-- Fields are taken one by one when keywords become names. -/
theorem namedFields_eq_map (fields : List Field) : namedFields fields = fields.map Field.named := by
  induction fields with
  | nil => rfl
  | cons field fields ih => rw [namedFields, ih, List.map_cons]

/-- What is put in parentheses does not depend on what names stand for. -/
theorem TypeExpr.isCompound_named (e : TypeExpr) : e.named.isCompound = e.isCompound := by
  cases e <;> rfl

mutual

/-- Names are written alike, whatever they are the names of. -/
theorem render_named : ∀ (indent : String) (e : TypeExpr), e.named.render indent = e.render indent
  | _, .reference _ => rfl
  | _, .keyword _ => rfl
  | _, .literal _ => rfl
  | indent, .array element => by
    rw [TypeExpr.named, TypeExpr.render, TypeExpr.render, TypeExpr.isCompound_named,
      render_named indent element]
  | indent, .union members => by
    rw [TypeExpr.named, TypeExpr.render, TypeExpr.render, renderMembers_named indent members]
  | indent, .intersection members => by
    rw [TypeExpr.named, TypeExpr.render, TypeExpr.render, renderMembers_named indent members]
  | _, .record [] => rfl
  | indent, .record (field :: fields) => by
    have hfields := renderFields_named (indent ++ indentStep) (field :: fields)
    rw [namedFields] at hfields
    rw [TypeExpr.named, namedFields, TypeExpr.render, TypeExpr.render, hfields]

theorem renderMembers_named : ∀ (indent : String) (members : List TypeExpr),
    renderMembers indent (namedMembers members) = renderMembers indent members
  | _, [] => rfl
  | indent, member :: members => by
    rw [namedMembers, renderMembers, renderMembers, TypeExpr.isCompound_named,
      render_named indent member, renderMembers_named indent members]

theorem renderFields_named : ∀ (indent : String) (fields : List Field),
    renderFields indent (namedFields fields) = renderFields indent fields
  | _, [] => rfl
  | indent, field :: fields => by
    rw [namedFields, renderFields, renderFields, Field.render_named indent field,
      renderFields_named indent fields]

theorem Field.render_named : ∀ (indent : String) (field : Field),
    field.named.render indent = field.render indent
  | indent, .mk _ value _ _ => by
    rw [Field.named, Field.render, Field.render, OntoTypes.render_named indent value]

end

/-- Types whose names can be written, that join at least two members wherever they join any, and
that hold no comments. -/
inductive TypeExpr.Legible : TypeExpr → Prop
  | reference {name : String} (isIdentifier : IsIdentifier name) : Legible (.reference name)
  | keyword {name : String} (isIdentifier : IsIdentifier name) : Legible (.keyword name)
  | literal (value : String) : Legible (.literal value)
  | array {element : TypeExpr} (inside : Legible element) : Legible (.array element)
  | union {members : List TypeExpr} (two_le : 2 ≤ members.length)
      (inside : ∀ member ∈ members, Legible member) : Legible (.union members)
  | intersection {members : List TypeExpr} (two_le : 2 ≤ members.length)
      (inside : ∀ member ∈ members, Legible member) : Legible (.intersection members)
  | record {fields : List Field} (uncommented : ∀ field ∈ fields, field.comment = none)
      (inside : ∀ field ∈ fields, Legible field.value) : Legible (.record fields)

/-! ## The parts of a text -/

/-- The text of a type inside another one. -/
def memberText (indent : String) (e : TypeExpr) : List Char :=
  (parenthesized e.isCompound (e.render indent)).toList

/-- The text of a field without a comment. -/
def fieldText (indent : String) (field : Field) : List Char :=
  indent.toList ++ (Text.quoted field.key).toList ++ (if field.isOptional then ['?'] else []) ++
    ": ".toList ++ (field.value.render indent).toList ++ ";\n".toList

namespace TypeExpr

/-- What stands in front of the brackets of arrays. -/
def innermost : TypeExpr → TypeExpr
  | array element => element.innermost
  | e => e

/-- The number of arrays around it. -/
def depth : TypeExpr → Nat
  | array element => element.depth + 1
  | _ => 0

/-- Whether a type is an array. -/
def isArray : TypeExpr → Bool
  | array _ => true
  | _ => false

/-- The types that a type joins, or the type itself. -/
def operands : TypeExpr → List TypeExpr
  | union members => members
  | intersection members => members
  | e => [e]

/-- The character that joins them, if there are several. -/
def glue : TypeExpr → Char
  | intersection _ => '&'
  | _ => '|'

/-- Types joined by a character; a single type is left as it is. -/
def joined (glue : Char) : List TypeExpr → TypeExpr
  | [member] => member
  | members => if glue = '&' then intersection members else union members

/-- Two or more types are joined to a union or an intersection. -/
theorem joined_of_two_le {members : List TypeExpr} (h : 2 ≤ members.length) (glue : Char) :
    joined glue members = if glue = '&' then intersection members else union members := by
  match members, h with
  | _ :: _ :: _, _ => rfl

end TypeExpr

/-- The brackets of some arrays. -/
def brackets : Nat → List Char
  | 0 => []
  | n + 1 => '[' :: ']' :: brackets n

/-- The members of a union or intersection after the first. -/
def laterText (indent : String) (glue : Char) (members : List TypeExpr) : List Char :=
  members.flatMap fun member => ' ' :: glue :: ' ' :: memberText indent member

/-- The text of the members after the first begins with the glue. -/
theorem laterText_cons_append (indent : String) (glue : Char) (member : TypeExpr)
    (members : List TypeExpr) (rest : List Char) :
    laterText indent glue (member :: members) ++ rest =
      ' ' :: glue :: ' ' :: (memberText indent member ++
        (laterText indent glue members ++ rest)) := by
  simp [laterText]

/-- A compound type is written in parentheses inside of another one. -/
theorem memberText_of_isCompound {e : TypeExpr} (h : e.isCompound = true) (indent : String) :
    memberText indent e = '(' :: ((e.render indent).toList ++ [')']) := by
  rw [memberText, h]
  simp [parenthesized]

/-- Any other type is written as it is. -/
theorem memberText_of_not_isCompound {e : TypeExpr} (h : e.isCompound = false)
    (indent : String) : memberText indent e = (e.render indent).toList := by
  rw [memberText, h]
  rfl

/-- Brackets can be added at either end. -/
theorem brackets_append (n : Nat) : brackets n ++ ['[', ']'] = brackets (n + 1) := by
  induction n with
  | zero => rfl
  | succ n ih => rw [brackets, List.cons_append, List.cons_append, ih, brackets.eq_def (n + 2)]

/-- Inside another type, the brackets of arrays stand last. -/
theorem memberText_eq_innermost (indent : String) :
    ∀ e : TypeExpr, memberText indent e = memberText indent e.innermost ++ brackets e.depth
  | .array element => by
    rw [memberText_of_not_isCompound rfl, TypeExpr.render, String.toList_append, ← memberText,
      memberText_eq_innermost indent element, List.append_assoc]
    exact congrArg _ (brackets_append element.depth)
  | .reference _ | .keyword _ | .literal _ | .union _ | .intersection _ | .record _ =>
    (List.append_nil _).symm

/-- A type is known by what stands in front of its brackets and by their number. -/
theorem named_eq_iterate : ∀ e : TypeExpr, e.named = TypeExpr.array^[e.depth] e.innermost.named
  | .array element => by
    rw [TypeExpr.named, named_eq_iterate element]
    exact (Function.iterate_succ_apply' ..).symm
  | .reference _ | .keyword _ | .literal _ | .union _ | .intersection _ | .record _ => rfl

/-- Members are written one by one. -/
theorem renderMembers_eq_map (indent : String) (members : List TypeExpr) :
    renderMembers indent members =
      members.map fun member => parenthesized member.isCompound (member.render indent) := by
  induction members with
  | nil => rfl
  | cons member members ih => rw [renderMembers, ih, List.map_cons]

/-- Fields without comments are written one by one. -/
theorem renderFields_toList (indent : String) {fields : List Field}
    (h : ∀ field ∈ fields, field.comment = none) :
    (renderFields indent fields).toList = fields.flatMap (fieldText indent) := by
  induction fields with
  | nil => rfl
  | cons field fields ih =>
    obtain ⟨hfield, hfields⟩ := List.forall_mem_cons.mp h
    obtain ⟨key, value, isOptional, comment⟩ := field
    obtain rfl : comment = none := hfield
    rw [renderFields, String.toList_append, ih hfields, List.flatMap_cons, Field.render]
    cases isOptional <;> simp [fieldText, renderComment, Field.key, Field.value, Field.isOptional]

/-- Members are joined by putting a glue in front of each but the first. -/
theorem toList_intercalate_renderMembers (indent : String) (glue : Char) (first : TypeExpr)
    (later : List TypeExpr) :
    ((String.ofList [' ', glue, ' ']).intercalate (renderMembers indent (first :: later))).toList =
      memberText indent first ++ laterText indent glue later := by
  rw [String.toList_intercalate, renderMembers_eq_map, List.map_map, List.map_cons,
    String.toList_ofList]
  show [' ', glue, ' '].intercalate (memberText indent first :: later.map (memberText indent)) = _
  -- on the later members: the first of them goes to the front
  induction later generalizing first with
  | nil => simp [laterText]
  | cons next later ih =>
    rw [List.map_cons, List.intercalate_cons_cons, ih, List.append_assoc]
    rfl

namespace TypeExpr.Legible

variable {e : TypeExpr}

/-- A type's text is made of those of the types that it joins. -/
theorem render_eq_operands (h : e.Legible) (indent : String) : ∃ first later,
    e.operands = first :: later ∧
      (e.render indent).toList = memberText indent first ++ laterText indent e.glue later := by
  cases h with
  | @union members two_le _ =>
    obtain ⟨first, later, rfl⟩ := List.exists_cons_of_length_pos (by omega : 0 < members.length)
    exact ⟨first, later, rfl, toList_intercalate_renderMembers indent '|' first later⟩
  | @intersection members two_le _ =>
    obtain ⟨first, later, rfl⟩ := List.exists_cons_of_length_pos (by omega : 0 < members.length)
    exact ⟨first, later, rfl, toList_intercalate_renderMembers indent '&' first later⟩
  | _ => exact ⟨_, [], rfl, (List.append_nil _).symm⟩

/-- The types that a legible type joins are legible. -/
theorem of_mem_operands (h : e.Legible) : ∀ member ∈ e.operands, member.Legible := by
  have hself : ∀ member ∈ [e], member.Legible := by simpa using h
  cases h with
  | union _ inside | intersection _ inside => exact inside
  | _ => exact hself

/-- A type is known by the types that it joins, and by how it joins them. -/
theorem named_eq_joined (h : e.Legible) : e.named = joined e.glue (e.operands.map named) := by
  cases h with
  | union two_le _ | intersection two_le _ =>
    simp [named, namedMembers_eq_map, operands, glue, joined_of_two_le, two_le]
  | _ => rfl

/-- In front of the brackets of arrays there is no array. -/
theorem innermost (h : e.Legible) : e.innermost.Legible ∧ e.innermost.isArray = false := by
  induction h with
  | array _ ih => exact ih
  | reference h => exact ⟨.reference h, rfl⟩
  | keyword h => exact ⟨.keyword h, rfl⟩
  | literal value => exact ⟨.literal value, rfl⟩
  | union two_le inside => exact ⟨.union two_le inside, rfl⟩
  | intersection two_le inside => exact ⟨.intersection two_le inside, rfl⟩
  | record uncommented inside => exact ⟨.record uncommented inside, rfl⟩

end TypeExpr.Legible

/-! ## Reading types -/

/-- The type is told from all others by its text inside a type, if no word follows. Arrays are not
asked for: their brackets might follow. -/
def InsideTold (e : TypeExpr) : Prop :=
  ∀ (indent : String) {e' : TypeExpr}, e'.Legible → e'.isArray = false →
    TellsBefore EndsWord (memberText indent e) (memberText indent e') (e.named = e'.named)

/-- The type is told from all others by its text. -/
def Told (e : TypeExpr) : Prop :=
  ∀ (indent : String) {e' : TypeExpr}, e'.Legible →
    TellsBefore EndsType (e.render indent).toList (e'.render indent).toList (e.named = e'.named)

/-- Brackets tell how many they are, as long as no further bracket follows. -/
theorem tellsBefore_brackets (n n' : Nat) :
    TellsBefore EndsMember (brackets n) (brackets n') (n = n') := by
  -- what ends a member does not begin with a bracket
  have hend : ∀ {n : Nat} {rest rest' : List Char}, EndsMember rest →
      rest ≠ brackets (n + 1) ++ rest' := by
    rintro n rest rest' hrest rfl
    have hbracket := hrest '[' rfl
    simp at hbracket
  intro rest rest' hrest hrest' h
  induction n generalizing n' with
  | zero =>
    cases n' with
    | zero => exact ⟨rfl, h⟩
    | succ n' => exact absurd h (hend hrest)
  | succ n ih =>
    cases n' with
    | zero => exact absurd h.symm (hend hrest')
    | succ n' =>
      obtain ⟨hn, hsame⟩ := ih n' (List.cons.inj (List.cons.inj h).2).2
      exact ⟨congrArg _ hn, hsame⟩

/-- Brackets end a word. -/
theorem endsWord_brackets {rest : List Char} (h : EndsMember rest) (n : Nat) :
    EndsWord (brackets n ++ rest) := by
  cases n with
  | zero => exact h.endsWord
  | succ n =>
    intro c hc
    obtain rfl : '[' = c := by simpa [brackets] using hc
    decide

/-- With the brackets of its arrays, a type is told inside another one. -/
theorem tellsBefore_memberText {e e' : TypeExpr} (h : InsideTold e.innermost) (he' : e'.Legible)
    (indent : String) :
    TellsBefore EndsMember (memberText indent e) (memberText indent e') (e.named = e'.named) := by
  intro rest rest' hrest hrest' heq
  rw [memberText_eq_innermost indent e, memberText_eq_innermost indent e', List.append_assoc,
    List.append_assoc] at heq
  -- first the type inside of the arrays, then how many arrays there are
  obtain ⟨hinner, hbrackets⟩ := h indent he'.innermost.1 he'.innermost.2 _ _
    (endsWord_brackets hrest _) (endsWord_brackets hrest' _) heq
  obtain ⟨hdepth, hsame⟩ := tellsBefore_brackets _ _ rest rest' hrest hrest' hbrackets
  refine ⟨?_, hsame⟩
  rw [named_eq_iterate e, named_eq_iterate e', hinner, hdepth]

/-- A member ends where the next one begins. -/
theorem endsMember_laterText {rest : List Char} (h : EndsType rest) (indent : String) (glue : Char)
    (members : List TypeExpr) : EndsMember (laterText indent glue members ++ rest) := by
  cases members with
  | nil => exact h.endsMember
  | cons member members =>
    intro c hc
    exact .inr (.inr (by simpa [laterText, eq_comm] using hc))

/-- The members after the first are told one by one, and with them what joins them. -/
theorem tellsBefore_laterText (indent : String) (glue glue' : Char) {members : List TypeExpr}
    (h : ∀ member ∈ members, InsideTold member.innermost) {members' : List TypeExpr}
    (h' : ∀ member ∈ members', member.Legible) :
    TellsBefore EndsType (laterText indent glue members) (laterText indent glue' members')
      (members.map TypeExpr.named = members'.map TypeExpr.named ∧
        (members ≠ [] → glue = glue')) := by
  -- what ends a type does not begin with a blank, which stands in front of a glue
  have hend : ∀ {rest rest' tail : List Char}, EndsType rest → rest ≠ ' ' :: tail ++ rest' := by
    rintro rest rest' tail hrest rfl
    have hblank := hrest ' ' rfl
    simp at hblank
  intro rest rest' hrest hrest' heq
  induction members generalizing members' with
  | nil =>
    cases members' with
    | nil => exact ⟨⟨rfl, fun hne => absurd rfl hne⟩, heq⟩
    | cons member' members' => exact absurd heq (hend hrest)
  | cons member members ih =>
    cases members' with
    | nil => exact absurd heq.symm (hend hrest')
    | cons member' members' =>
      obtain ⟨hmember, hmembers⟩ := List.forall_mem_cons.mp h
      obtain ⟨hmember', hmembers'⟩ := List.forall_mem_cons.mp h'
      rw [laterText_cons_append, laterText_cons_append] at heq
      simp only [List.cons.injEq, true_and] at heq
      obtain ⟨hglue, htail⟩ := heq
      obtain ⟨hfirst, hrests⟩ := tellsBefore_memberText hmember hmember' indent _ _
        (endsMember_laterText hrest _ _ _) (endsMember_laterText hrest' _ _ _) htail
      obtain ⟨⟨hlater, -⟩, hsame⟩ := ih hmembers hmembers' hrests
      exact ⟨⟨List.cons_eq_cons.mpr ⟨hfirst, hlater⟩, fun _ => hglue⟩, hsame⟩

/-- A type is told by its text if the types that it joins are told inside of it. -/
theorem TypeExpr.Legible.told_of_operands {e : TypeExpr} (he : e.Legible)
    (h : ∀ member ∈ e.operands, InsideTold member.innermost) : Told e := by
  intro indent e' he' rest rest' hrest hrest' heq
  obtain ⟨first, later, hoperands, htext⟩ := he.render_eq_operands indent
  obtain ⟨first', later', hoperands', htext'⟩ := he'.render_eq_operands indent
  have hlegible := hoperands' ▸ he'.of_mem_operands
  rw [hoperands] at h
  rw [htext, htext', List.append_assoc, List.append_assoc] at heq
  obtain ⟨hfirst, hrests⟩ := tellsBefore_memberText (h first List.mem_cons_self)
    (hlegible first' List.mem_cons_self) indent _ _
    (endsMember_laterText hrest _ _ _) (endsMember_laterText hrest' _ _ _) heq
  obtain ⟨⟨hlater, hglue⟩, hsame⟩ := tellsBefore_laterText indent e.glue e'.glue
    (List.forall_mem_cons.mp h).2 (List.forall_mem_cons.mp hlegible).2 _ _ hrest hrest' hrests
  refine ⟨?_, hsame⟩
  rw [he.named_eq_joined, he'.named_eq_joined, hoperands, hoperands', List.map_cons,
    List.map_cons, hfirst, ← hlater]
  -- a glue that is not written joins nothing
  cases later with
  | nil => rfl
  | cons next later => rw [hglue (List.cons_ne_nil _ _)]

/-- Names are told from one another. -/
theorem tellsBefore_name {name name' : String} (h : IsIdentifier name) (h' : IsIdentifier name') :
    TellsBefore EndsWord name.toList name'.toList
      (TypeExpr.reference name = TypeExpr.reference name') := by
  intro rest rest' hrest hrest' heq
  obtain ⟨hname, hsame⟩ := tellsBefore_word (isWord_iff.mpr h.chars) (isWord_iff.mpr h'.chars)
    rest rest' hrest hrest' heq
  exact ⟨congrArg _ (String.toList_inj.mp hname), hsame⟩

/-- Fields are told from one another, whatever follows. -/
theorem eq_of_fieldText {field field' : Field} (hcomment : field.comment = none)
    (hcomment' : field'.comment = none) (h : Told field.value) (h' : field'.value.Legible)
    (indent : String) {rest rest' : List Char}
    (heq : fieldText indent field ++ rest = fieldText indent field' ++ rest') :
    field.named = field'.named ∧ rest = rest' := by
  obtain ⟨key, value, isOptional, comment⟩ := field
  obtain ⟨key', value', isOptional', comment'⟩ := field'
  obtain rfl : comment = none := hcomment
  obtain rfl : comment' = none := hcomment'
  simp only [fieldText, List.append_assoc, List.append_cancel_left_eq, Field.key,
    Field.isOptional, Field.value] at heq
  obtain ⟨hkey, heq⟩ := (tells_quoted key key' _ _).mp heq
  -- a question mark or the colon comes next
  have hoptional : isOptional = isOptional' := by
    cases isOptional <;> cases isOptional' <;> simp at heq ⊢
  subst hkey hoptional
  obtain ⟨hvalue, heq⟩ := h _ h' _ _ (by simp [EndsType]) (by simp [EndsType])
    (List.append_cancel_left (List.append_cancel_left heq))
  exact ⟨congrArg (Field.mk key · isOptional none) hvalue, List.append_cancel_left heq⟩

/-- The fields of a record are told one by one, up to the bracket that closes the record. -/
theorem eq_of_fieldTexts (indent : String) {fields : List Field}
    (h : ∀ field ∈ fields, field.comment = none ∧ Told field.value) {fields' : List Field}
    (h' : ∀ field ∈ fields', field.comment = none ∧ field.value.Legible) {rest rest' : List Char}
    (heq : fields.flatMap (fieldText (indent ++ indentStep)) ++ (indent.toList ++ '\x7d' :: rest) =
      fields'.flatMap (fieldText (indent ++ indentStep)) ++ (indent.toList ++ '\x7d' :: rest')) :
    fields.map Field.named = fields'.map Field.named ∧ rest = rest' := by
  -- a field is indented further than the bracket
  have hend : ∀ {field : Field} {fields : List Field} {rest rest' : List Char},
      indent.toList ++ '\x7d' :: rest ≠
        (field :: fields).flatMap (fieldText (indent ++ indentStep)) ++ rest' := by
    intro field fields rest rest' heq
    simp [fieldText, indentStep, List.append_assoc] at heq
  induction fields generalizing fields' with
  | nil =>
    cases fields' with
    | nil => exact ⟨rfl, (List.cons.inj (List.append_cancel_left heq)).2⟩
    | cons field' fields' => exact absurd heq hend
  | cons field fields ih =>
    cases fields' with
    | nil => exact absurd heq.symm hend
    | cons field' fields' =>
      obtain ⟨⟨hcomment, hvalue⟩, hfields⟩ := List.forall_mem_cons.mp h
      obtain ⟨⟨hcomment', hvalue'⟩, hfields'⟩ := List.forall_mem_cons.mp h'
      rw [List.flatMap_cons, List.flatMap_cons, List.append_assoc, List.append_assoc] at heq
      obtain ⟨hfield, hrests⟩ := eq_of_fieldText hcomment hcomment' hvalue hvalue' _ heq
      obtain ⟨hlater, hsame⟩ := ih hfields hfields' hrests
      exact ⟨List.cons_eq_cons.mpr ⟨hfield, hlater⟩, hsame⟩

/-! ## Kinds of types -/

/-- The character that opens a type inside another one, unless it is a name. -/
def TypeExpr.opening : TypeExpr → Option Char
  | .literal _ => some '"'
  | .union _ => some '('
  | .intersection _ => some '('
  | .record _ => some '\x7b'
  | _ => none

/-- A record begins with a brace. -/
theorem exists_render_record_eq (fields : List Field) (indent : String) :
    ∃ tail, ((TypeExpr.record fields).render indent).toList = '\x7b' :: tail := by
  cases fields with
  | nil => exact ⟨['\x7d'], by simp [TypeExpr.render]⟩
  | cons field fields => simp [TypeExpr.render]

/-- A type begins with its opening character, and a name with a letter or underscore. -/
theorem TypeExpr.Legible.exists_memberText_eq_cons {e : TypeExpr} (h : e.Legible)
    (harray : e.isArray = false) (indent : String) : ∃ c tail, memberText indent e = c :: tail ∧
      e.opening = if Text.isWordChar c then none else some c := by
  -- a name is not empty, and its first character belongs to a word
  have hname : ∀ {name : String}, IsIdentifier name → ∃ c tail, name.toList = c :: tail ∧
      none = if Text.isWordChar c then none else some c := by
    intro name hname
    obtain ⟨c, tail, htext⟩ := List.exists_cons_of_ne_nil
      (mt String.toList_eq_nil_iff.mp hname.nonempty)
    refine ⟨c, tail, htext, ?_⟩
    rw [if_pos (isWord_iff.mpr hname.chars c (htext ▸ List.mem_cons_self))]
  cases h with
  | reference isIdentifier | keyword isIdentifier => exact hname isIdentifier
  | literal value => exact ⟨'"', _, String.toList_ofList, rfl⟩
  | array _ => cases harray
  | union _ _ | intersection _ _ => exact ⟨'(', _, memberText_of_isCompound rfl indent, rfl⟩
  | @record fields _ _ =>
    obtain ⟨tail, htail⟩ := exists_render_record_eq fields indent
    exact ⟨'\x7b', tail, htail, rfl⟩

/-- Types that are written alike are opened alike. -/
theorem TypeExpr.Legible.opening_eq {e e' : TypeExpr} (h : e.Legible) (h' : e'.Legible)
    (harray : e.isArray = false) (harray' : e'.isArray = false) {indent : String}
    {rest rest' : List Char} (heq : memberText indent e ++ rest = memberText indent e' ++ rest') :
    e.opening = e'.opening := by
  obtain ⟨c, tail, htext, hopening⟩ := h.exists_memberText_eq_cons harray indent
  obtain ⟨c', tail', htext', hopening'⟩ := h'.exists_memberText_eq_cons harray' indent
  rw [htext, htext'] at heq
  obtain rfl : c = c' := (List.cons.inj heq).1
  rw [hopening, hopening']

/-- A type in parentheses is told if it is told without them. -/
theorem Told.insideTold {e : TypeExpr} (h : Told e) (he : e.Legible)
    (hcompound : e.isCompound = true) : InsideTold e := by
  intro indent e' he' harray' rest rest' _ _ heq
  have harray : e.isArray = false := by
    cases e <;> simp_all [TypeExpr.isCompound, TypeExpr.isArray]
  -- only a compound type begins with a parenthesis
  have hcompound' : e'.isCompound = true := by
    have hopening := he.opening_eq he' harray harray' heq
    cases e <;> cases e' <;> simp_all [TypeExpr.isCompound, TypeExpr.opening]
  rw [memberText_of_isCompound hcompound, memberText_of_isCompound hcompound',
    List.cons_append, List.cons_append, List.append_assoc, List.append_assoc] at heq
  obtain ⟨hnamed, hclosed⟩ := h indent he' _ _ (by simp [EndsType]) (by simp [EndsType])
    (List.cons.inj heq).2
  exact ⟨hnamed, (List.cons.inj hclosed).2⟩

/-- The text of a record with fields. -/
theorem toList_render_record (indent : String) {fields : List Field} (hne : fields ≠ [])
    (h : ∀ field ∈ fields, field.comment = none) (rest : List Char) :
    ((TypeExpr.record fields).render indent).toList ++ rest = '\x7b' :: '\n' ::
      (fields.flatMap (fieldText (indent ++ indentStep)) ++ (indent.toList ++ '\x7d' :: rest)) := by
  obtain ⟨field, fields, rfl⟩ := List.exists_cons_of_ne_nil hne
  rw [TypeExpr.render, String.toList_append, String.toList_append, String.toList_append,
    renderFields_toList _ h]
  simp

/-- Records are told from one another. -/
theorem eq_of_render_record (indent : String) {fields : List Field}
    (h : ∀ field ∈ fields, field.comment = none ∧ Told field.value) {fields' : List Field}
    (h' : ∀ field ∈ fields', field.comment = none ∧ field.value.Legible) {rest rest' : List Char}
    (heq : ((TypeExpr.record fields).render indent).toList ++ rest =
      ((TypeExpr.record fields').render indent).toList ++ rest') :
    (TypeExpr.record fields).named = (TypeExpr.record fields').named ∧ rest = rest' := by
  -- a record without fields is written on one line
  have hempty : ∀ rest : List Char, ((TypeExpr.record []).render indent).toList ++ rest =
      '\x7b' :: '\x7d' :: rest := by
    simp [TypeExpr.render]
  -- with fields on one side only, the texts differ after the brace
  by_cases hnil : fields = [] <;> by_cases hnil' : fields' = []
  · subst hnil hnil'
    exact ⟨rfl, List.append_cancel_left heq⟩
  · subst hnil
    rw [hempty, toList_render_record indent hnil' fun field hfield => (h' field hfield).1] at heq
    simp at heq
  · subst hnil'
    rw [hempty, toList_render_record indent hnil fun field hfield => (h field hfield).1] at heq
    simp at heq
  · rw [toList_render_record indent hnil fun field hfield => (h field hfield).1,
      toList_render_record indent hnil' fun field hfield => (h' field hfield).1] at heq
    obtain ⟨hfields, hsame⟩ := eq_of_fieldTexts indent h h' (List.cons.inj (List.cons.inj heq).2).2
    refine ⟨?_, hsame⟩
    rw [TypeExpr.named, TypeExpr.named, namedFields_eq_map, namedFields_eq_map, hfields]

/-- Names are told from all other types inside of a type. -/
theorem insideTold_reference {name : String} (h : IsIdentifier name) :
    InsideTold (.reference name) := by
  intro indent e' he' harray' rest rest' hrest hrest' heq
  have hopening := (TypeExpr.Legible.reference h).opening_eq he' rfl harray' heq
  cases he' with
  | reference isIdentifier | keyword isIdentifier =>
    exact tellsBefore_name h isIdentifier rest rest' hrest hrest' heq
  | array _ => cases harray'
  | _ => cases hopening

/-- Literals are told from all other types inside of a type. -/
theorem insideTold_literal (value : String) : InsideTold (.literal value) := by
  intro indent e' he' harray' rest rest' _ _ heq
  have hopening := (TypeExpr.Legible.literal value).opening_eq he' rfl harray' heq
  cases he' with
  | literal value' =>
    obtain ⟨rfl, hsame⟩ := (tells_quoted value value' rest rest').mp heq
    exact ⟨rfl, hsame⟩
  | _ => simp [TypeExpr.opening] at hopening

/-- Records are told from all other types inside of a type. -/
theorem insideTold_record {fields : List Field} (hlegible : (TypeExpr.record fields).Legible)
    (h : ∀ field ∈ fields, field.comment = none ∧ Told field.value) :
    InsideTold (.record fields) := by
  intro indent e' he' harray' rest rest' _ _ heq
  have hopening := hlegible.opening_eq he' rfl harray' heq
  cases he' with
  | record uncommented inside =>
    exact eq_of_render_record indent h
      (fun field hfield => ⟨uncommented field hfield, inside field hfield⟩) heq
  | _ => simp [TypeExpr.opening] at hopening

/-- **Every legible type is told from all others**, by its text and by its text inside a type. -/
theorem TypeExpr.Legible.told {e : TypeExpr} (h : e.Legible) : InsideTold e.innermost ∧ Told e := by
  -- a type that joins no others is its own only operand
  have hself : ∀ {e : TypeExpr}, e.Legible → e.operands = [e] → InsideTold e.innermost →
      InsideTold e.innermost ∧ Told e := by
    intro e he hoperands hinside
    refine ⟨hinside, he.told_of_operands ?_⟩
    rw [hoperands]
    exact List.forall_mem_singleton.mpr hinside
  induction h with
  | reference isIdentifier =>
    exact hself (.reference isIdentifier) rfl (insideTold_reference isIdentifier)
  | keyword isIdentifier =>
    exact hself (.keyword isIdentifier) rfl (insideTold_reference isIdentifier)
  | literal value => exact hself (.literal value) rfl (insideTold_literal value)
  | array inside ih => exact hself (.array inside) rfl ih.1
  | union two_le inside ih =>
    -- members are told inside of the union, so the union is, and then its parentheses tell it
    -- inside of others
    have hlegible := Legible.union two_le inside
    have htold := hlegible.told_of_operands fun member hmember => (ih member hmember).1
    exact ⟨htold.insideTold hlegible rfl, htold⟩
  | intersection two_le inside ih =>
    have hlegible := Legible.intersection two_le inside
    have htold := hlegible.told_of_operands fun member hmember => (ih member hmember).1
    exact ⟨htold.insideTold hlegible rfl, htold⟩
  | record uncommented inside ih =>
    have hlegible := Legible.record uncommented inside
    exact hself hlegible rfl (insideTold_record hlegible fun field hfield =>
      ⟨uncommented field hfield, (ih field hfield).2⟩)

/-- **Types that are written alike are the same**, up to what their names are the names of. The
indentation may be any text, and so may the texts of literals and the keys of fields.

Legible types have names that are identifiers, and unions and intersections of two members or more;
one of a single member would be written as this member is. They hold no comments, which are the
business of `OntoTypes.Proofs.CommentBlock`. -/
theorem render_eq_render_iff {e e' : TypeExpr} (he : e.Legible) (he' : e'.Legible)
    (indent : String) : e.render indent = e'.render indent ↔ e.named = e'.named := by
  constructor
  · intro h
    have hend : EndsType [] := by simp [EndsType]
    exact (he.told.2 indent he' [] [] hend hend (by rw [h])).1
  · intro h
    rw [← render_named indent e, h, render_named]

/-- A record with a key that looks like the end of the record. -/
def bracketRecord : TypeExpr :=
  .record [.mk "a\"\x7d[] | b" (.literal "\n & c") true none]

/-- An array of a union that has such a record as its last member. -/
def arrayOfUnion (first : TypeExpr) : TypeExpr := .array (.union [first, bracketRecord])

/-- A union that has an array of such records as its last member. -/
def unionWithArray (first : TypeExpr) : TypeExpr := .union [first, .array bracketRecord]

/-- The parentheses matter, and whether the name is that of a primitive type does not. -/
theorem render_eq_render_iff_arrayOfUnion :
    (arrayOfUnion (.reference "A")).render "  " ≠ (unionWithArray (.reference "A")).render "  " ∧
      (arrayOfUnion (.reference "A")).render "  " = (arrayOfUnion (.keyword "A")).render "  " := by
  -- all types of the example are legible
  have hname : IsIdentifier "A" := { nonempty := by decide, chars := by simp, head := by simp }
  have hrecord : bracketRecord.Legible :=
    .record (by simp [Field.comment]) (by simpa [Field.value] using .literal _)
  have harray : ∀ {first : TypeExpr}, first.Legible → (arrayOfUnion first).Legible :=
    fun hfirst => .array (.union (Nat.le_refl 2) (by simpa using ⟨hfirst, hrecord⟩))
  have hunion : ∀ {first : TypeExpr}, first.Legible → (unionWithArray first).Legible :=
    fun hfirst => .union (Nat.le_refl 2) (by simpa using ⟨hfirst, .array hrecord⟩)
  constructor
  · rw [ne_eq, render_eq_render_iff (harray (.reference hname)) (hunion (.reference hname))]
    simp [arrayOfUnion, unionWithArray, TypeExpr.named]
  · exact (render_eq_render_iff (harray (.reference hname)) (harray (.keyword hname)) "  ").mpr rfl

end OntoTypes

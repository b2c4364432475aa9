import OntoTypes.Text.Lines

/-!
# Documentation comments

A comment is written as a block between `/**` and `*/`, on one line if it has one line, and
otherwise with a star in front of every line. The mark that would end the block is broken up inside
the comment, and lines of a longer comment lose the blanks at their end.

Main definition: `renderComment`.
-/

namespace OntoTypes

/-- A text in which a star is never directly followed by a slash: a backslash is put between. -/
def breakTerminators : List Char → List Char
  | '*' :: '/' :: rest => '*' :: '\\' :: '/' :: breakTerminators rest
  | c :: rest => c :: breakTerminators rest
  | [] => []

/-- One line of a longer comment. -/
def commentLine (indent line : List Char) : List Char :=
  Text.trimEnd (indent ++ " * ".toList ++ line) ++ ['\n']

/-- The block for a comment, as a list of characters. -/
def commentChars (comment indent : List Char) : List Char :=
  match Text.splitLines (breakTerminators comment) with
  | [line] => indent ++ "/** ".toList ++ line ++ " */\n".toList
  | lines =>
    indent ++ "/**\n".toList ++ lines.flatMap (commentLine indent) ++ indent ++ " */\n".toList

/-- The block for a comment; nothing for an empty or missing one. -/
def renderComment (comment : Option String) (indent : String) : String :=
  match comment with
  | none => ""
  | some text =>
    if text = "" then "" else String.ofList (commentChars text.toList indent.toList)

end OntoTypes

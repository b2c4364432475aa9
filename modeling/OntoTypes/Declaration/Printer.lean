import OntoTypes.Declaration.Comment
import OntoTypes.Declaration.Type
import OntoTypes.Text.Quoted

/-!
# TypeScript text of declarations

Types, declarations and whole modules as TypeScript. Unions and intersections are put in parentheses
wherever they stand inside another type, except as the value of a field; records nest by four
blanks.

Main definitions:

* `TypeExpr.render` — a type, the lines after its first one indented;
* `Declaration.render` — a declaration with its comment;
* `renderModule` — groups of declarations, an empty line between the groups.
-/

namespace OntoTypes

/-- What one level of nesting is indented by. -/
def indentStep : String := "    "

/-- The head of every module. -/
def moduleHeader : String := "// tslint:disable\n\n"

/-- A type's text as part of another type. -/
def parenthesized (isCompound : Bool) (text : String) : String :=
  if isCompound then "(" ++ text ++ ")" else text

mutual

/-- The text of a type, for a place indented by `indent`. -/
def TypeExpr.render (indent : String) : TypeExpr → String
  | .reference name => name
  | .keyword name => name
  | .literal value => Text.quoted value
  | .array element => parenthesized element.isCompound (element.render indent) ++ "[]"
  | .union members => " | ".intercalate (renderMembers indent members)
  | .intersection members => " & ".intercalate (renderMembers indent members)
  | .record [] => "\x7b\x7d"
  | .record (field :: fields) =>
    "\x7b\n" ++ renderFields (indent ++ indentStep) (field :: fields) ++ indent ++ "\x7d"

/-- The texts of the members of a union or intersection. -/
def renderMembers (indent : String) : List TypeExpr → List String
  | [] => []
  | member :: members =>
    parenthesized member.isCompound (member.render indent) :: renderMembers indent members

/-- The text of the fields of a record, each on lines of its own. -/
def renderFields (indent : String) : List Field → String
  | [] => ""
  | field :: fields => field.render indent ++ renderFields indent fields

/-- The text of a field. -/
def Field.render (indent : String) : Field → String
  | .mk key value isOptional comment =>
    renderComment comment indent ++ indent ++ Text.quoted key ++ (if isOptional then "?" else "") ++
      ": " ++ value.render indent ++ ";\n"

end

/-- The word in front of an exported declaration. -/
def exportMark (isExported : Bool) : String := if isExported then "export " else ""

/-- The line of an enumeration's member, with its comment. -/
def EnumMember.render (member : EnumMember) : String :=
  renderComment member.comment indentStep ++ indentStep ++ member.name ++ " = " ++
    Text.quoted member.value ++ ",\n"

/-- The text of a declaration. -/
def Declaration.render : Declaration → String
  | .typeAlias name value comment isExported =>
    renderComment comment "" ++ exportMark isExported ++ "type " ++ name ++ " = " ++
      value.render "" ++ ";\n"
  | .enumeration name members comment isExported =>
    renderComment comment "" ++ exportMark isExported ++ "enum " ++ name ++ " \x7b\n" ++
      "".intercalate (members.map EnumMember.render) ++ "\x7d\n"

/-- The text of a module made of groups of declarations. -/
def renderModule (groups : List (List Declaration)) : String :=
  moduleHeader ++
    "\n".intercalate (groups.map fun group => "".intercalate (group.map Declaration.render))

end OntoTypes

/-!
# Types and declarations

The small language of structural types that classes are described in, and the declarations that give
types a name. Types refer to one another by name, so a module may list its declarations in any
order. How types are written is the business of `OntoTypes.Declaration.Printer`.

Main definitions:

* `TypeExpr`, `Field` — types and the fields of records;
* `TypeExpr.unionOf`, `TypeExpr.intersectionOf?` — unions and intersections of any number of types;
* `Declaration` — an enumeration or an alias for a type.
-/

namespace OntoTypes

mutual

/-- A structural type. -/
inductive TypeExpr where
  /-- A declared type, by name. -/
  | reference (name : String)
  /-- A primitive type. -/
  | keyword (name : String)
  /-- The type of one text. -/
  | literal (value : String)
  | array (element : TypeExpr)
  | union (members : List TypeExpr)
  | intersection (members : List TypeExpr)
  | record (fields : List Field)

/-- A field of a record. -/
inductive Field where
  | mk (key : String) (value : TypeExpr) (isOptional : Bool) (comment : Option String)

end

namespace Field

/-- The key of a field. -/
def key : Field → String
  | mk key .. => key

/-- The type of a field. -/
def value : Field → TypeExpr
  | mk _ value .. => value

/-- Whether a field may be left out. -/
def isOptional : Field → Bool
  | mk _ _ isOptional _ => isOptional

/-- The comment on a field, if there is one. -/
def comment : Field → Option String
  | mk _ _ _ comment => comment

end Field

namespace TypeExpr

/-- The type without values. -/
def never : TypeExpr := keyword "never"

/-- Types that need parentheses inside another type. -/
def isCompound : TypeExpr → Bool
  | union _ | intersection _ => true
  | _ => false

/-- The union of some types: the only one if there is just one, `never` if there is none. -/
def unionOf : List TypeExpr → TypeExpr
  | [] => never
  | [member] => member
  | members => union members

/-- The intersection of some types: the only one if there is just one; nothing if there is none. -/
def intersectionOf? : List TypeExpr → Option TypeExpr
  | [] => none
  | [member] => some member
  | members => some (intersection members)

end TypeExpr

/-- A member of an enumeration. -/
structure EnumMember where
  name    : String
  value   : String
  comment : Option String := none
deriving DecidableEq

/-- A named type. -/
inductive Declaration where
  | enumeration (name : String) (members : List EnumMember) (comment : Option String)
      (isExported : Bool)
  | typeAlias (name : String) (value : TypeExpr) (comment : Option String) (isExported : Bool)

/-- The name that a declaration introduces. -/
def Declaration.name : Declaration → String
  | enumeration name .. => name
  | typeAlias name .. => name

end OntoTypes

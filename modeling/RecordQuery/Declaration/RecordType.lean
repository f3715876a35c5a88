import RecordQuery.Declaration.Annotation
import RecordQuery.Declaration.TypeExpr

/-!
# Type declarations

A `TypeDeclaration` has a name and a shape. Only a record with named fields keeps its fields, with
their annotations and types.
-/

namespace RecordQuery.Declaration

/-- A named field of a record. -/
structure DeclaredField where
  annotations : List Annotation
  name : Text
  type : TypeExpr
  deriving DecidableEq

/-- The shape of a declared type. -/
inductive DeclaredShape where
  | record (fields : List DeclaredField)
  /-- A record with unnamed fields. -/
  | tuple
  /-- A record without fields. -/
  | unit
  | enumeration
  | union
  deriving DecidableEq

/-- The declaration of a type. -/
structure TypeDeclaration where
  name : Text
  shape : DeclaredShape
  deriving DecidableEq

end RecordQuery.Declaration

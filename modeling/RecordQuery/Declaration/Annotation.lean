import RecordQuery.Declaration.Token

/-!
# Annotations

An `Annotation` is a path, followed by nothing, by a delimited list of tokens, or by `=` and a
value. Of a value only a string literal is kept.
-/

namespace RecordQuery.Declaration

/-- The part of an annotation after its path. -/
inductive AnnotationContent where
  | nothing
  /-- A list of tokens in delimiters of any shape. -/
  | list (tokens : List Token)
  /-- A value after `=`: the text of a string literal, or `none` for any other expression. -/
  | value (text : Option Text)
  deriving DecidableEq

/-- An annotation. -/
structure Annotation where
  /-- Whether the path begins with `::`. -/
  isAbsolute : Bool
  path : List Text
  content : AnnotationContent
  deriving DecidableEq

/-- The name of an annotation whose path is a single identifier. -/
def Annotation.name? (a : Annotation) : Option Text :=
  match a.isAbsolute, a.path with
  | false, [name] => some name
  | _, _ => none

end RecordQuery.Declaration

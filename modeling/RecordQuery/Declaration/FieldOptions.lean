import RecordQuery.Declaration.Annotation
import RecordQuery.Declaration.Error

/-!
# Options of fields

The `query` annotation of a field has a list of options (`FieldOptions`): the kind of the field, the
name that it has in queries, and whether the field is skipped.

`FieldOptions.ofTokens` first reads all options with an `AnnotationReader` and then applies them
from left to right (`FieldOptions.add`); a later option overrides an earlier one. The reader is an
argument, because nothing here depends on how options are written.
-/

namespace RecordQuery.Declaration

/-- Reads a list of annotations with commas between them, to its end. -/
abbrev AnnotationReader := List Token → Option (List Annotation)

/-- The kinds of fields. -/
inductive FieldSort where
  | text
  | number
  | char
  | bool
  | enum
  deriving DecidableEq

namespace FieldSort

/-- All kinds with their names. The first of these is `FieldSort.name`. -/
def names : List (FieldSort × List String) := [
  (.text, ["String", "string"]),
  (.number, ["Number", "number"]),
  (.char, ["Char", "char"]),
  (.bool, ["Bool", "bool", "boolean"]),
  (.enum, ["Enum", "enum", "enumeration"])]

/-- The name of the kind. -/
def name : FieldSort → String
  | .text => "String"
  | .number => "Number"
  | .char => "Char"
  | .bool => "Bool"
  | .enum => "Enum"

/-- The kind with the name. -/
def ofName? (name : Text) : Option FieldSort :=
  (names.find? fun entry => entry.2.any fun n => n.toList = name).map Prod.fst

theorem ofName?_name (sort : FieldSort) : ofName? sort.name.toList = some sort := by
  cases sort <;> decide

end FieldSort

/-- The options of a field. -/
structure FieldOptions where
  /-- A field without a kind is not queryable. -/
  kind : Option FieldSort
  /-- Whether the field is left out of the schema. -/
  skip : Bool
  /-- The name in queries, if it is not the name of the field. -/
  rename : Option Text
  deriving DecidableEq

namespace FieldOptions

/-- No options. -/
def empty : FieldOptions := ⟨none, false, none⟩

/-- Sets `kind` by name. -/
def withKind (options : FieldOptions) (name : Text) : Except DeclarationError FieldOptions :=
  match FieldSort.ofName? name with
  | some kind => .ok { options with kind := some kind }
  | none => .error (.refused (.unknownKind name))

/-- Sets the option with a key to a value, which has to be a text. -/
def withValue (options : FieldOptions) (key : OptionKey) (value : Option Text) :
    Except DeclarationError FieldOptions :=
  match key, value with
  | key, none => .error (.refused (.valueNotText key))
  | .rename, some [] => .error (.refused .emptyRename)
  | .rename, some text => .ok { options with rename := some text }
  | .kind, some text => options.withKind text

/-- The key of an annotation. -/
def key? (a : Annotation) : Option OptionKey :=
  [OptionKey.rename, OptionKey.kind].find? fun key => a.name? = some key.name.toList

/-- Applies one option. -/
def add (options : FieldOptions) (a : Annotation) : Except DeclarationError FieldOptions :=
  match a.content with
  | .nothing =>
    match a.name? with
    | some name =>
      if name = "skip".toList then .ok { options with skip := true } else options.withKind name
    | none => .error (.refused .kindWithPath)
  | .value value =>
    match key? a with
    | some key => options.withValue key value
    | none => .error (.refused .unknownKey)
  | .list _ => .error (.refused .unknownOption)

/-- The options in a list of tokens. -/
def ofTokens (read : AnnotationReader) (tokens : List Token) :
    Except DeclarationError FieldOptions :=
  match read tokens with
  | some annotations => annotations.foldlM add empty
  | none => .error .malformed

/-- The options in the first `query` annotation, which must be a list. -/
def ofAnnotations (read : AnnotationReader) (annotations : List Annotation) :
    Except DeclarationError FieldOptions :=
  match annotations.find? fun a => a.name? = some "query".toList with
  | none => .ok empty
  | some ⟨_, _, .list tokens⟩ => ofTokens read tokens
  | some _ => .error .malformed

end FieldOptions

end RecordQuery.Declaration

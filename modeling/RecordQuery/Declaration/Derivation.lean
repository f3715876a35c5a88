import RecordQuery.Declaration.FieldOptions
import RecordQuery.Declaration.RecordType
import RecordQuery.Schema
import RecordQuery.Text.Identifier

/-!
# Derivation of descriptions

`TypeDeclaration.describe` derives a `Description` from the declaration of a record: a `Constant`
and a `Descriptor` for each field that has a kind and is not skipped, in the order of the fields.
The first field with an error decides. `TypeDeclaration.describe_eq_ok_iff` says what is derived if
no field has one.

`Description.schema` inserts the descriptors into a schema one after another.
-/

namespace RecordQuery.Declaration

open Text

/-! ### Constants -/

/-- Upper-cases a name, with an underscore in front of each upper-case letter that follows a
character that is none, and for each underscore and dash. `afterSmall` is whether such a character
comes before. Only the letters `a` to `z` are upper-cased. -/
def capitalized (afterSmall : Bool) : Text → Text
  | [] => []
  | c :: rest =>
    if isUpper c then (if afterSmall then ['_', c] else [c]) ++ capitalized false rest
    else if c = '_' ∨ c = '-' then '_' :: capitalized false rest
    else c.toUpper :: capitalized true rest

/-- The identifier of the constant for a name. -/
def constantName (name : Text) : Text := capitalized false name

/-- A constant for the name of a field in queries. -/
structure Constant where
  identifier : Text
  value : Text
  deriving DecidableEq

/-! ### Descriptors -/

/-- The kind in a descriptor. -/
inductive DescribedKind where
  | text
  | number
  | char
  | bool
  /-- The variants are those of a type. -/
  | enum (type : List Token)
  deriving DecidableEq

/-- How a field is queried and read. -/
structure Descriptor where
  /-- The name in queries. -/
  name : Text
  kind : DescribedKind
  mayBeAbsent : Bool
  /-- The name of the field in the declaration. -/
  field : Text
  deriving DecidableEq

namespace Descriptor

/-- The source of a value of the kind, from an expression for the field or, if `isReference`, for a
reference to what an optional field holds. -/
def valueSource (kind : DescribedKind) (isReference : Bool) (expression : Text) : Text :=
  let copied := if isReference then '*' :: expression else expression
  let borrowed := if isReference then expression else '&' :: expression
  let make (constructor : String) (inside : Text) : Text :=
    ("::slashq::Value::" ++ constructor ++ "(").toList ++ inside ++ [')']
  let call (function : String) (inside : Text) : Text :=
    (function ++ "(").toList ++ inside ++ [')']
  match kind with
  | .text => make "String" (call "::core::convert::AsRef::<str>::as_ref" borrowed)
  | .number => make "Number" (call "::slashq::Number::from" copied)
  | .char => make "Char" copied
  | .bool => make "Bool" copied
  | .enum _ => make "Enum" (call "::slashq::QueryEnum::ordinal" borrowed)

/-- The source of the function that reads the field of a record, without whitespace. -/
def accessor (d : Descriptor) : Text :=
  let field := "record.".toList ++ d.field
  "|record|".toList ++
    if d.mayBeAbsent then
      "\x7bmatch&".toList ++ field ++
        "\x7b::core::option::Option::Some(value)=>".toList ++
        valueSource d.kind true "value".toList ++
        ",::core::option::Option::None=>::slashq::Value::None,\x7d\x7d".toList
    else valueSource d.kind false field

end Descriptor

/-- What is derived from the declaration of a record. -/
structure Description where
  target : Text
  constants : List Constant
  descriptors : List Descriptor
  deriving DecidableEq

/-! ### Fields -/

namespace DeclaredField

/-- The kind in the descriptor of the field. The variants of an optional field are those of the type
that it holds. -/
def describedKind (f : DeclaredField) : FieldSort → DescribedKind
  | .text => .text
  | .number => .number
  | .char => .char
  | .bool => .bool
  | .enum => .enum (f.type.element?.getD f.type.tokens)

/-- The constant and the descriptor for a kind and a name in queries. -/
def entry (f : DeclaredField) (kind : FieldSort) (name : Text) :
    Except DeclarationError (Constant × Descriptor) :=
  if isIdentifier (constantName name) then
    .ok (⟨constantName name, name⟩, ⟨name, f.describedKind kind, f.type.element?.isSome, f.name⟩)
  else .error (.invalidConstant name)

/-- The constant and the descriptor of a field, or `none` if it is skipped or has no kind. -/
def describe (read : AnnotationReader) (f : DeclaredField) :
    Except DeclarationError (Option (Constant × Descriptor)) := do
  let options ← FieldOptions.ofAnnotations read f.annotations
  match options.skip, options.kind with
  | false, some kind => return some (← f.entry kind (options.rename.getD f.name))
  | _, _ => return none

end DeclaredField

namespace TypeDeclaration

/-- The fields of a record with named fields; all other types are refused. -/
def fields (d : TypeDeclaration) : Except DeclarationError (List DeclaredField) :=
  match d.shape with
  | .record fields => .ok fields
  | .tuple => .error (.refused .unnamedFields)
  | .unit => .error (.refused .unnamedFields)
  | .enumeration => .error (.refused .notRecord)
  | .union => .error (.refused .notRecord)

/-- The description of a record. -/
def describe (read : AnnotationReader) (d : TypeDeclaration) :
    Except DeclarationError Description := do
  let entries := (← (← d.fields).mapM (DeclaredField.describe read)).filterMap id
  return ⟨d.name, entries.map Prod.fst, entries.map Prod.snd⟩

/-- A description consists of the entries of the fields that have one. -/
theorem describe_eq_ok_iff (read : AnnotationReader) (d : TypeDeclaration) (r : Description) :
    d.describe read = .ok r ↔ ∃ fields entries, d.fields = .ok fields ∧
      fields.mapM (DeclaredField.describe read) = .ok entries ∧
      r = ⟨d.name, (entries.filterMap id).map Prod.fst, (entries.filterMap id).map Prod.snd⟩ := by
  unfold describe
  cases hfields : d.fields with
  | error e => simp [bind, Except.bind]
  | ok fields =>
    cases hentries : fields.mapM (DeclaredField.describe read) with
    | error e => simp [bind, Except.bind, hentries]
    | ok entries =>
      simp only [bind, Except.bind, pure, Except.pure, hentries, Except.ok.injEq]
      constructor
      · rintro rfl
        exact ⟨fields, entries, rfl, hentries, rfl⟩
      · rintro ⟨fields', entries', rfl, h, rfl⟩
        rw [hentries, Except.ok.injEq] at h
        rw [h]

end TypeDeclaration

/-! ### Schemas -/

/-- The kind in a schema, given the variants of each type. -/
def DescribedKind.toKind (variants : List Token → List Text) : DescribedKind → Kind
  | .text => .text
  | .number => .number
  | .char => .char
  | .bool => .bool
  | .enum type => .enum (variants type)

/-- The field in a schema, of records that are given by the values of their fields. -/
def Descriptor.toField (variants : List Token → List Text) (d : Descriptor) :
    Field (Text → Value) :=
  ⟨d.name, d.kind.toKind variants, d.mayBeAbsent, fun record => record d.field⟩

/-- The schema with the descriptors, inserted one after another. -/
def Description.schema (variants : List Token → List Text) (d : Description) :
    Schema (Text → Value) :=
  d.descriptors.foldl (fun s descriptor => s.insert (descriptor.toField variants)) .empty

end RecordQuery.Declaration

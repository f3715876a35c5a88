import RecordQuery.Text.Basic

/-!
# Errors of the derivation

A `DeclarationError` is raised when no `Description` can be derived: the tokens cannot be parsed,
the declaration is refused (`Refusal`, with the message for its author), or the name of a field does
not make the identifier of a constant.
-/

namespace RecordQuery.Declaration

/-- The options that take a value. -/
inductive OptionKey where
  | rename
  | kind
  deriving DecidableEq

/-- The key of the option. -/
def OptionKey.name : OptionKey → String
  | .rename => "rename"
  | .kind => "ty"

/-- The causes for which a declaration that can be parsed is refused. -/
inductive Refusal where
  /-- The declaration is an enumeration or a union. -/
  | notRecord
  /-- The record is a tuple or has no fields. -/
  | unnamedFields
  | unknownKind (name : Text)
  /-- The kind is a path of more than one segment. -/
  | kindWithPath
  /-- The value of the option is no string literal. -/
  | valueNotText (key : OptionKey)
  | emptyRename
  /-- A key with a value that is neither `rename` nor `name`, or does not take one. -/
  | unknownKey
  /-- An option that is neither a path nor a key with a value. -/
  | unknownOption
  deriving DecidableEq

/-- The message of a refusal. -/
def Refusal.message : Refusal → String
  | .notRecord => "Queryable can only be derived for structs"
  | .unnamedFields => "Queryable can only be derived for structs with named fields"
  | .unknownKind name =>
    "unknown query kind: '" ++ String.ofList name ++
      "'. Expected one of: String, Number, Char, Bool, Enum"
  | .kindWithPath => "expected query kind: String, Number, Char, Bool, Enum, or skip"
  | .valueNotText key => key.name ++ " must be a string literal"
  | .emptyRename => "rename cannot be empty"
  | .unknownKey => "unknown attribute. Expected: rename or ty"
  | .unknownOption =>
    "unknown query attribute. Expected: String, Number, Char, Bool, Enum, skip, " ++
      "rename = \"...\", or ty = \"...\""

/-- The errors of the derivation. -/
inductive DeclarationError where
  | malformed
  | refused (cause : Refusal)
  /-- No identifier can be made from the name (`constantName`). -/
  | invalidConstant (name : Text)
  deriving DecidableEq

end RecordQuery.Declaration

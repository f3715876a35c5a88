import RecordQuery.Declaration.Derivation
import RecordQuery.Declaration.Lexer
import RecordQuery.Declaration.Phrase

/-!
# Descriptions from texts

The derivation takes declarations and annotations that have been read. Here it is applied to texts:
they are cut into tokens by `tokenize`, and read by `TypeDeclaration.ofTokens?` and
`Annotation.listOfTokens?`.
-/

namespace RecordQuery.Declaration

/-- The options in a text. -/
def FieldOptions.ofText (t : Text) : Except DeclarationError FieldOptions :=
  match tokenize t with
  | some tokens => ofTokens Annotation.listOfTokens? tokens
  | none => .error .malformed

/-- The description of the record that a text declares. -/
def Description.ofText (t : Text) : Except DeclarationError Description :=
  match (tokenize t).bind TypeDeclaration.ofTokens? with
  | some d => d.describe Annotation.listOfTokens?
  | none => .error .malformed

end RecordQuery.Declaration

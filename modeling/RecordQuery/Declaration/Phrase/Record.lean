import RecordQuery.Declaration.Phrase.Bound
import RecordQuery.Declaration.RecordType

/-!
# Parsing type declarations

`Phrases.typeDeclaration` parses a record, an enumeration or a union, with its annotations and its
visibility.
-/

namespace RecordQuery.Declaration

open TokenReader
open Token (startWith startWithOpening)

/-! ### Visibility -/

namespace TokenReader

/-- Parses the scope of a visibility: a keyword, or a path after `in`. -/
def visiblePlace : TokenReader Unit :=
  enclosed .round do
    if startWith "in" (← ahead) then
      pass "in"
      let _ ← plainPath
    else
      let _ ← oneOf ["crate", "self", "super"]
      atEnd

/-- Parses a visibility, and returns whether there is one. Parentheses after `pub` may instead
belong to the type of an unnamed field. -/
def visibility : TokenReader Bool := do
  if startWith "pub" (← ahead) then
    pass "pub"
    visiblePlace <|> pure ()
    return true
  else return false

end TokenReader

namespace Phrases

variable (inner : Phrases)

/-! ### Fields -/

/-- Parses a named field. A field `_` may have fields of its own. -/
def field : TokenReader DeclaredField := do
  let annotations ← inner.outerAnnotations
  let _ ← visibility
  let isUnnamed := startWith "_" (← ahead)
  let label ← if isUnnamed then anyWord else name
  pass ":"
  let tokens ← ahead
  if isUnnamed && (startWith "struct" tokens ||
      startWith "union" tokens && startWithOpening .curly tokens.tail) then
    let type ← written do
      let _ ← anyWord
      inner.fields
    return ⟨annotations, label, .other type⟩
  else return ⟨annotations, label, ← inner.type .sum⟩

/-- Parses the fields of a record in braces. -/
def namedFields : TokenReader (List DeclaredField) := do
  return (← enclosed .curly (commas inner.field)).map Prod.fst

/-- Parses unnamed fields in parentheses. -/
def unnamedFields : TokenReader Unit :=
  enclosed .round do
    let _ ← commas do
      let _ ← inner.outerAnnotations
      let _ ← visibility
      inner.someType

/-! ### Shapes -/

/-- Parses a record after its name and generic parameters. -/
def recordShape : TokenReader DeclaredShape := do
  let isConditional := startWith "where" (← ahead)
  inner.conditions
  let tokens ← ahead
  if startWithOpening .curly tokens then return .record (← inner.namedFields)
  else if startWithOpening .round tokens && !isConditional then
    inner.unnamedFields
    inner.conditions
    pass ";"
    return .tuple
  else
    pass ";"
    return .unit

/-- Parses a variant of an enumeration, with its fields and discriminant. -/
def variant : TokenReader Unit := do
  let _ ← inner.outerAnnotations
  let _ ← visibility
  let _ ← name
  let tokens ← ahead
  if startWithOpening .curly tokens then
    let _ ← inner.namedFields
  else if startWithOpening .round tokens then inner.unnamedFields
  if startWith "=" (← ahead) then
    pass "="
    inner.someExpression

/-- Parses a type declaration after its annotations and its visibility. -/
def declaredType : TokenReader TypeDeclaration := do
  let tokens ← ahead
  let _ ← oneOf ["struct", "enum", "union"]
  let label ← name
  inner.parameters
  if startWith "struct" tokens then return ⟨label, ← inner.recordShape⟩
  else
    inner.conditions
    if startWith "enum" tokens then
      enclosed .curly do
        let _ ← commas inner.variant
      return ⟨label, .enumeration⟩
    else
      let _ ← inner.namedFields
      return ⟨label, .union⟩

/-- Parses a type declaration with its annotations and its visibility. -/
def typeDeclaration : TokenReader TypeDeclaration := do
  let _ ← inner.outerAnnotations
  let _ ← visibility
  inner.declaredType

end Phrases

end RecordQuery.Declaration

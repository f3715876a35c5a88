import RecordQuery.Declaration.Annotation
import RecordQuery.Declaration.Phrase.Basic

/-!
# Parsing annotations

Annotations in brackets after `#` stand in front of a declaration, a field or another phrase
(`Phrases.outerAnnotations`) or, after `#!`, at the beginning of a group
(`Phrases.innerAnnotations`). `Phrases.annotations` parses a comma-separated list of them, as in the
contents of another annotation.
-/

namespace RecordQuery.Declaration

open TokenReader
open Token (startWith startWithOpening)

namespace TokenReader

/-- Parses a segment of a path without generic arguments. -/
def pathWord : TokenReader Text := do
  let text ← anyWord
  guard (Token.isPathWord text)
  return text

/-- Parses a path without generic arguments, and whether it begins with `::`. -/
def plainPath : TokenReader (Bool × List Text) := do
  let leading ← perhaps "::"
  let first ← pathWord
  let others ← rounds (fun tokens => !startWith "::" tokens) do
    pass "::"
    pathWord
  return (!leading.isEmpty, first :: others)

/-- Parses the path of an annotation. -/
def annotationPath : TokenReader (Bool × List Text) := do
  if startWith "unsafe" (← ahead) then
    pass "unsafe"
    return (false, ["unsafe".toList])
  else plainPath

end TokenReader

namespace Phrases

variable (inner : Phrases)

/-- Parses the value of an annotation. The result is the text of a string literal, or `none`. -/
def annotationValue : TokenReader (Option Text) := do
  let tokens ← ahead
  guard !(startWith "#" tokens && startWithOpening .square tokens.tail)
  match ← written (inner.expression true) with
  | [.string text _] => return some text
  | _ => return none

/-- Parses the part of an annotation after its path. -/
def annotationContent : TokenReader AnnotationContent := do
  let tokens ← ahead
  if anyShape.any fun b => startWithOpening b tokens then
    return .list (← group anyShape).tail.dropLast
  else if startWith "=" tokens then
    pass "="
    return .value (← inner.annotationValue)
  else return .nothing

/-- Parses an annotation without its brackets. -/
def annotation : TokenReader Annotation := do
  let (isAbsolute, path) ← annotationPath
  return ⟨isAbsolute, path, ← inner.annotationContent⟩

/-- Parses a comma-separated list of annotations, to its end. -/
def annotations : TokenReader (List Annotation) := do
  return (← commas inner.annotation).map Prod.fst

/-- Parses outer annotations. -/
def outerAnnotations : TokenReader (List Annotation) :=
  rounds (fun tokens => !startWith "#" tokens) do
    pass "#"
    enclosed .square inner.annotation

/-- Parses outer annotations, and returns whether there are any. -/
def isAnnotated : TokenReader Bool := do
  return !(← inner.outerAnnotations).isEmpty

/-- Parses inner annotations. -/
def innerAnnotations : TokenReader Unit := do
  let _ ← rounds (fun tokens => !(startWith "#" tokens && startWith "!" tokens.tail)) do
    pass "#"
    pass "!"
    enclosed .square inner.annotation

end Phrases

end RecordQuery.Declaration

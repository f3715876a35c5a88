import RecordQuery.Declaration.Phrase.Basic

/-!
# Parsing paths

A path has segments separated by `::`. A segment may have generic arguments in angle brackets, which
in an expression need a `::` in front, or arguments in parentheses, as of a function trait. A
qualified path begins with a type in angle brackets.
-/

namespace RecordQuery.Declaration

open TokenReader
open Token (startWith startWithAny startWithOpening beyond)

namespace Phrases

variable (inner : Phrases)

/-! ### Segments -/

/-- The segments that take no arguments. -/
def bareNames : List String := ["super", "self", "crate", "try"]

/-- Whether generic arguments follow a segment. -/
def startWithAngle (inExpression : Bool) (tokens : List Token) : Bool :=
  !inExpression && startWith "<" tokens && !startWithAny ["<=", "<<="] tokens ||
    startWith "::" tokens && startWith "<" (beyond (beyond tokens))

/-- Parses a segment with its generic arguments. -/
def segment (inExpression : Bool) : TokenReader (Segment × List Token) := do
  if startWithAny bareNames (← ahead) then
    let text ← anyWord
    return (⟨text, .absent⟩, [.word text])
  else
    let text ← if startWith "Self" (← ahead) then anyWord else name
    if startWithAngle inExpression (← ahead) then
      let (arguments, tokens) ← inner.angle
      return (⟨text, .angle arguments⟩, .word text :: tokens)
    else return (⟨text, .absent⟩, [.word text])

/-- Whether a path ends. A `::` in front of parentheses does not continue it. -/
def pathStops (tokens : List Token) : Bool :=
  !startWith "::" tokens || startWithOpening .round (beyond (beyond tokens))

/-- Parses further segments, until `stops` holds of the next tokens. -/
def furtherSegments (inExpression : Bool) (stops : List Token → Bool) : TokenReader Path := do
  let segments ← rounds stops do
    let separator ← spelled "::"
    let (name, tokens) ← inner.segment inExpression
    return (name, separator ++ tokens)
  return ⟨segments.map Prod.fst, segments.flatMap Prod.snd⟩

/-- Parses an unqualified path. -/
def path (inExpression : Bool) : TokenReader Path := do
  let leading ← perhaps "::"
  let (first, tokens) ← inner.segment inExpression
  let others ← inner.furtherSegments inExpression pathStops
  return ⟨first :: others.segments, leading ++ tokens ++ others.tokens⟩

/-- Parses a path, and returns whether it is qualified. -/
def qualifiedPath (inExpression : Bool) : TokenReader (Bool × Path) := do
  if startWith "<" (← ahead) then
    let left ← spelled "<"
    let type ← inner.typeTokens .sum
    let property ← given (startWith "as") do
      return (← spelled "as") ++ (← inner.path false).tokens
    let right ← spelled ">"
    let separator ← spelled "::"
    let (first, tokens) ← inner.segment inExpression
    let others ← inner.furtherSegments inExpression fun tokens => !startWith "::" tokens
    return (true, ⟨first :: others.segments,
      left ++ type ++ property ++ right ++ separator ++ tokens ++ others.tokens⟩)
  else return (false, ← inner.path inExpression)

/-! ### Macros -/

/-- Whether a macro call follows a path. -/
def startWithUse (tokens : List Token) : Bool := startWith "!" tokens && !startWith "!=" tokens

/-- Parses the `!` and the arguments of a macro call. -/
def macroUse : TokenReader (List Token) := do return (← spelled "!") ++ (← group anyShape)

/-! ### Arguments in parentheses -/

/-- Parses the result type of a function, if one follows. -/
def result : TokenReader (Option TypeExpr) := do
  if startWith "->" (← ahead) then
    pass "->"
    return some (← inner.type .single)
  else return none

/-- The tokens of a result type. -/
def resultTokens (type : Option TypeExpr) : List Token :=
  match type with
  | some t => [.mark '-' true, .mark '>' false] ++ t.tokens
  | none => []

/-- Whether arguments in parentheses follow, perhaps after a `::`. -/
def startWithRound (tokens : List Token) : Bool :=
  startWithOpening .round tokens ||
    startWith "::" tokens && startWithOpening .round (beyond (beyond tokens))

/-- Whether the last segment may take arguments in parentheses. -/
def isOpen (p : Path) : Bool := p.segments.getLast?.any fun s => s.arguments.isEmpty

/-- Parses arguments in parentheses and the result type. A `::` in front of the parentheses is
dropped. -/
def roundArguments (p : Path) : TokenReader (Path × Option TypeExpr) := do
  let _ ← perhaps "::"
  let arguments ← bracketed .round do return together (← commas (inner.typeTokens .sum))
  let type ← inner.result
  let last := p.segments.getLast?.map fun s => { s with arguments := .round }
  return (⟨p.segments.dropLast ++ last.toList, p.tokens ++ arguments ++ resultTokens type⟩, type)

end Phrases

end RecordQuery.Declaration

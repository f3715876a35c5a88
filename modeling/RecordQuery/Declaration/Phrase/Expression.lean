import RecordQuery.Declaration.Phrase.Operand

/-!
# Expressions

Expressions are parsed by precedence climbing, and only to skip them. A range is no left operand,
comparisons do not associate, and an expression with a block may end a statement
(`Phrases.boundedExpression`).
-/

namespace RecordQuery.Declaration

open TokenReader
open Token (startWith startWithAny startWithOpening startWithLifetime startWithDot beyond)

namespace Phrases

variable (inner : Phrases)

/-- Parses the operators after an operand, from the rank `least` on, with their right operands. -/
def furtherOperators (least : Nat) (fields : Bool) (form : ExpressionForm) :
    TokenReader ExpressionForm := do
  let tokens ← ahead
  if form = .range then return form
  else
    match Strength.operator? tokens with
    | some (spelling, strength) =>
      if strength.rank < least then return form
      else
        -- comparisons do not associate
        guard !(strength = .comparison && form = .comparison)
        pass spelling
        inner.rightOperand strength fields
        inner.operators least fields (if strength = .comparison then .comparison else .other)
    | none =>
      if startWith ".." tokens && least ≤ Strength.range.rank then
        inner.rangeTail fields
        return .range
      else if startWith "as" tokens && least ≤ Strength.conversion.rank then
        pass "as"
        let _ ← inner.type .conversion
        -- a suffix does not follow a conversion without parentheses
        guard !(startWithSuffix (← ahead))
        inner.operators least fields .other
      else return form

/-- Parses an expression. -/
def wholeExpression (fields : Bool) : TokenReader ExpressionForm := do
  let form ← inner.signedOperand fields
  inner.furtherOperators 0 fields form

/-- Whether an expression with a block follows. -/
def startWithBlock (tokens : List Token) : Bool :=
  let second := beyond tokens
  startWithOpening .curly tokens || startWithLifetime tokens ||
    startWithAny ["if", "while", "loop", "match", "unsafe"] tokens ||
    startWith "for" tokens && !startWithParameters second ||
    startWithAny ["try", "const"] tokens && startWithOpening .curly second

/-- Parses an expression statement. After a block it goes on only at a field access, a method call
or a `?`. -/
def boundedExpression : TokenReader ExpressionForm := do
  let _ ← inner.outerAnnotations
  let form ← if startWithBlock (← ahead) then inner.atom true else inner.signedOperand true
  if form = .block then
    let tokens ← ahead
    if startWithDot tokens || startWith "?" tokens then
      let _ ← inner.suffixes
      inner.furtherOperators 0 true .other
    else return .block
  else inner.furtherOperators 0 true form

end Phrases

end RecordQuery.Declaration

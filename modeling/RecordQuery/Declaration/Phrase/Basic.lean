import RecordQuery.Declaration.TokenReader
import RecordQuery.Declaration.TypeExpr

/-!
# Nested phrases

Types contain paths, paths contain types, and both contain expressions, which contain statements and
declarations. Each parser takes the parsers for the phrases nested in it as an argument (`Phrases`).

Phrases that are only skipped return no more than the parser needs to go on, such as the
`ExpressionForm` of an expression.
-/

namespace RecordQuery.Declaration

open TokenReader

/-! ### Forms -/

/-- The context of a type. -/
inductive TypePlace where
  /-- Bounds may be joined by `+`. -/
  | sum
  /-- No `+` is part of the type. -/
  | single
  /-- After `as`: neither a `+` nor parentheses after a path are part of the type. -/
  | conversion
  deriving DecidableEq

/-- The context of a bound. -/
inductive BoundPlace where
  /-- In a generic parameter or a where clause. -/
  | parameter
  /-- In a trait object type. -/
  | object
  /-- In an opaque type. -/
  | hidden
  deriving DecidableEq

/-- The form of an expression, as far as it restricts what may follow. -/
inductive ExpressionForm where
  /-- An expression with a block, which is a statement without a semicolon. -/
  | block
  /-- A macro call with braces. -/
  | expansion
  | comparison
  | range
  | other
  deriving DecidableEq

/-! ### The parsers -/

/-- The parsers for the phrases nested in a phrase. -/
structure Phrases where
  type : TypePlace → TokenReader TypeExpr
  /-- Generic arguments, also as tokens. -/
  angle : TokenReader (List Argument × List Token)
  /-- A bound, and whether it is a trait bound. -/
  bound : BoundPlace → TokenReader (Bool × List Token)
  /-- An expression. The argument is whether a path may be followed by braces, as a record
  expression. -/
  expression : Bool → TokenReader ExpressionForm
  /-- An operand; the argument is the one of `expression`. -/
  operand : Bool → TokenReader ExpressionForm
  /-- The operators after an operand of the given form, from a least rank on, with their right
  operands; the second argument is the one of `expression`. -/
  operators : Nat → Bool → ExpressionForm → TokenReader ExpressionForm
  /-- An expression statement, which ends after a block if it can. -/
  bounded : TokenReader ExpressionForm
  /-- A pattern, and whether it is a half-open range. -/
  pattern : TokenReader Bool
  /-- Statements, to the end. -/
  statements : TokenReader Unit
  /-- The fields of a record declaration, in braces. -/
  fields : TokenReader Unit
  /-- A declaration. -/
  item : TokenReader Unit
  /-- A tree of imports. The argument is whether it may begin with `::`. -/
  imports : Bool → TokenReader Unit

namespace Phrases

variable (inner : Phrases)

/-- Parses a type to its tokens. -/
def typeTokens (place : TypePlace) : TokenReader (List Token) :=
  TypeExpr.tokens <$> inner.type place

/-- Parses a type. -/
def someType : TokenReader Unit := do
  let _ ← inner.type .sum

/-- Parses an expression. -/
def someExpression : TokenReader Unit := do
  let _ ← inner.expression true

end Phrases

end RecordQuery.Declaration

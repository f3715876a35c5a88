import RecordQuery.Declaration.Phrase.Statement

/-!
# Parsing declarations

Here the recursion of the parsers is closed. `Phrases.ofDepth` parses phrases up to a nesting depth,
and each nesting consumes a token, so the number of tokens is depth enough (`Phrases.ofTokens`).
-/

namespace RecordQuery.Declaration

namespace Phrases

/-- Parsers that always fail. -/
def refusing : Phrases where
  type _ := failure
  angle := failure
  bound _ := failure
  expression _ := failure
  operand _ := failure
  operators _ _ _ := failure
  bounded := failure
  pattern := failure
  statements := failure
  fields := failure
  item := failure
  imports _ := failure

/-- The parsers for phrases whose nested phrases `inner` parses. -/
def around (inner : Phrases) : Phrases where
  type := inner.typeExpr
  angle := inner.angleArguments
  bound := inner.someBound
  expression := inner.wholeExpression
  operand := inner.signedOperand
  operators := inner.furtherOperators
  bounded := inner.boundedExpression
  pattern := inner.singlePattern
  statements := inner.allStatements
  fields := do
    let _ ← inner.namedFields
  item := inner.anyItem
  imports := inner.importTree

/-- The parsers for phrases up to a nesting depth. -/
def ofDepth : Nat → Phrases
  | 0 => refusing
  | depth + 1 => (ofDepth depth).around

/-- The parsers for all phrases in the tokens. -/
def ofTokens (tokens : List Token) : Phrases := ofDepth (tokens.length + 1)

end Phrases

/-- Parses a comma-separated list of annotations, to its end. -/
def Annotation.listOfTokens? (tokens : List Token) : Option (List Annotation) :=
  TokenReader.front? (Phrases.ofTokens tokens).annotations tokens

/-- Parses a type declaration, to its end. -/
def TypeDeclaration.ofTokens? (tokens : List Token) : Option TypeDeclaration :=
  TokenReader.all? (Phrases.ofTokens tokens).typeDeclaration tokens

end RecordQuery.Declaration

import RecordQuery.Declaration.Phrase.Expression
import RecordQuery.Declaration.Phrase.Item

/-!
# Statements

A block contains `let` statements, declarations, macro calls and expressions. An expression needs a
semicolon, unless it ends with a block or is the last statement.
-/

namespace RecordQuery.Declaration

open TokenReader
open Token (startWith startWithAny startWithOpening startWithName startWithDot beyond)

namespace Phrases

variable (inner : Phrases)

/-! ### Let statements -/

/-- Parses a `let` statement. An `else` block follows only an expression that does not end with a
brace. -/
def bindingStatement : TokenReader Unit := do
  pass "let"
  let _ ← inner.pattern
  if startWith ":" (← ahead) then
    pass ":"
    inner.someType
  if startWith "=" (← ahead) then
    pass "="
    let value ← written (inner.expression true)
    if startWith "else" (← ahead) && value.getLast? != some (.closing .curly) then
      pass "else"
      inner.block
  pass ";"

/-! ### Declarations -/

/-- The keywords that begin a declaration and no expression. -/
def itemWords : List String :=
  ["pub", "extern", "use", "fn", "mod", "type", "struct", "enum", "trait", "impl", "macro"]

/-- Whether a declaration follows. -/
def startWithItem (tokens : List Token) : Bool :=
  let second := beyond tokens
  let third := beyond second
  let qualifiers := ["unsafe", "extern", "fn"]
  startWithAny itemWords tokens ||
    startWith "crate" tokens && !startWith "::" second ||
    startWith "static" tokens && (startWith "mut" second || startWithName second) ||
    startWith "const" tokens &&
      !(startWithOpening .curly second || startWithAny ["static", "move", "|"] second ||
        startWith "async" second && !startWithAny qualifiers third) ||
    startWith "unsafe" tokens && !startWithOpening .curly second ||
    startWith "async" tokens && startWithAny qualifiers second ||
    startWith "union" tokens && startWithName second ||
    startWith "auto" tokens && startWith "trait" second ||
    startWith "default" tokens && startWithAny ["unsafe", "impl"] second

/-! ### Macros -/

/-- The role of a macro call at the beginning of a statement. -/
inductive MacroUse where
  | absent
  /-- A declaration, as of a macro with a name. -/
  | item
  /-- A whole statement. -/
  | statement
  deriving DecidableEq

/-- The role of a macro call at the beginning of the tokens. With braces it is a statement, unless a
field access, a method call or a `?` follows. -/
def macroUseAt (tokens : List Token) : MacroUse :=
  match plainPath ⟨tokens, false⟩ with
  | some (_, after) =>
    let second := beyond after.tokens
    let third := beyond second
    if !startWith "!" after.tokens then .absent
    else if startWithName second || startWith "try" second then .item
    else if startWithOpening .curly second && !(startWithDot third || startWith "?" third) then
      .statement
    else .absent
  | none => .absent

/-! ### Statements -/

/-- Parses a statement, and returns whether another one can follow. -/
def statement : TokenReader Bool := do
  let _ ← inner.outerAnnotations
  let tokens ← ahead
  let use := macroUseAt tokens
  if use = .statement then
    let _ ← plainPath
    let _ ← macroUse
    let _ ← perhaps ";"
    return true
  else if startWith "let" tokens then
    inner.bindingStatement
    return true
  else if startWithItem tokens || use = .item then
    inner.itemRest
    return true
  else
    let form ← inner.boundedExpression
    let ended ← perhaps ";"
    return !ended.isEmpty || form = .block || form = .expansion

/-- Parses statements to the end. -/
def allStatements : TokenReader Unit := do
  let _ ← rounds (fun tokens => !startWith ";" tokens) (pass ";")
  if !(← ahead).isEmpty then
    let mayGoOn ← inner.statement
    if !(← ahead).isEmpty then
      guard mayGoOn
      inner.statements

end Phrases

end RecordQuery.Declaration

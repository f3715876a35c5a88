import RecordQuery.Declaration.Phrase.Function

/-!
# Definitions

The declarations that define one name: imports, constants, type aliases, and macros, the calls of
which may stand for any declaration.
-/

namespace RecordQuery.Declaration

open TokenReader
open Token (startWith startWithAny startWithOpening startWithName)

namespace Phrases

variable (inner : Phrases)

/-! ### Imports -/

/-- Parses an `as` and the new name, if they follow. -/
def renamed : TokenReader Unit := do
  if startWith "as" (← ahead) then
    pass "as"
    if startWith "_" (← ahead) then pass "_"
    else
      let _ ← name

/-- Parses a tree of imports. `mayLead` is whether it may begin with `::`. -/
def importTree (mayLead : Bool) : TokenReader Unit := do
  let tokens ← ahead
  if startWithName tokens || startWithAny ["self", "super", "crate", "try"] tokens then
    let _ ← next
    if startWith "::" (← ahead) then
      pass "::"
      inner.imports false
    else renamed
  else if startWith "*" tokens then pass "*"
  else
    enclosed .curly do
      let _ ← commas do
        let leading ← if mayLead then perhaps "::" else pure []
        inner.imports (mayLead && leading.isEmpty)

/-- Parses an import. -/
def importItem : TokenReader Unit := do
  pass "use"
  let leading ← perhaps "::"
  inner.importTree leading.isEmpty
  pass ";"

/-- Parses an `extern crate`. -/
def externItem : TokenReader Unit := do
  pass "extern"
  pass "crate"
  if startWith "self" (← ahead) then pass "self"
  else
    let _ ← name
  renamed
  pass ";"

/-! ### Values and type aliases -/

/-- Parses an identifier or `_`. -/
def nameOrNone : TokenReader Unit := do
  if startWith "_" (← ahead) then pass "_"
  else
    let _ ← name

/-- Parses an `=` and a value, if they follow. -/
def valueIfAny : TokenReader Unit := do
  if startWith "=" (← ahead) then
    pass "="
    inner.someExpression

/-- Parses a constant. -/
def constantItem : TokenReader Unit := do
  pass "const"
  nameOrNone
  inner.parameters
  pass ":"
  inner.someType
  inner.valueIfAny
  inner.conditions
  pass ";"

/-- Parses a static, which has a type or a value. -/
def staticItem : TokenReader Unit := do
  pass "static"
  let _ ← perhaps "mut"
  let _ ← name
  if !startWith "=" (← ahead) then
    pass ":"
    inner.someType
  inner.valueIfAny
  pass ";"

/-- Where the where clause of a type alias may stand. -/
inductive ConditionPlace where
  | beforeValue
  | afterValue
  | either
  deriving DecidableEq

/-- Parses a type alias. -/
def aliasItem (place : ConditionPlace) : TokenReader Unit := do
  pass "type"
  let _ ← name
  inner.parameters
  let _ ← inner.named (startWithAny ["where", "=", ";"])
  let isConditional := startWith "where" (← ahead)
  if place != .afterValue then inner.conditions
  if startWith "=" (← ahead) then
    pass "="
    inner.someType
  if place = .afterValue || place = .either && !isConditional then inner.conditions
  pass ";"

/-! ### Macros -/

/-- Parses a macro call as a declaration, with a semicolon unless it has braces. -/
def macroItem (mayBeNamed : Bool) : TokenReader Unit := do
  let _ ← plainPath
  pass "!"
  if mayBeNamed then
    let tokens ← ahead
    if startWithName tokens || startWith "try" tokens then
      let _ ← anyWord
  let inCurly := startWithOpening .curly (← ahead)
  let _ ← group anyShape
  if !inCurly then pass ";"

/-- Parses the declaration of a macro. -/
def macroDeclaration : TokenReader Unit := do
  pass "macro"
  let _ ← name
  let _ ← given (startWithOpening .round) (group [.round])
  let _ ← group [.curly]

/-- Whether a macro call may follow. -/
def startWithMacro (tokens : List Token) : Bool :=
  startWithName tokens || startWithAny ["self", "super", "crate", "::"] tokens

end Phrases

end RecordQuery.Declaration

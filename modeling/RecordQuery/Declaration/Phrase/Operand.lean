import RecordQuery.Declaration.Phrase.Block

/-!
# Operands

An operand is a literal, a path, a group, a closure, or begins with a keyword (`Phrases.atom`).
Prefix operators may precede it, and calls, indices, field accesses and `?` may follow it
(`Phrases.signedOperand`).
-/

namespace RecordQuery.Declaration

open TokenReader
open Token (startWith startWithAny startWithOpening startWithName startWithLifetime
  startWithLiteral startWithDot beyond)

namespace Phrases

variable (inner : Phrases)

/-! ### Paths -/

/-- Parses a field of a record expression. An identifier alone is its own value. -/
def fieldValue : TokenReader Unit := do
  let _ ← inner.outerAnnotations
  let isName ← member
  if startWith ":" (← ahead) || !isName then
    pass ":"
    inner.someExpression

/-- Parses the fields of a record expression; a base after `..` is the last. -/
def fieldValues : TokenReader Unit := do
  let _ ← list id fun _ => do
    if startWith ".." (← ahead) then
      pass ".."
      if !(← ahead).isEmpty then inner.someExpression
      return true
    else
      inner.fieldValue
      return false

/-- Parses a path, a macro call or a record expression. -/
def pathOperand (fields : Bool) : TokenReader ExpressionForm := do
  let (qualified, path) ← inner.qualifiedPath true
  let tokens ← ahead
  if !qualified && path.isPlain && startWithUse tokens then
    let inCurly := startWithOpening .curly (beyond tokens)
    let _ ← macroUse
    return if inCurly then .expansion else .other
  else if fields && startWithOpening .curly tokens then
    enclosed .curly inner.fieldValues
    return .other
  else return .other

/-! ### Closures -/

/-- Whether a closure follows. -/
def startWithClosure (tokens : List Token) : Bool :=
  let second := beyond tokens
  startWithAny ["|", "move", "static"] tokens ||
    startWith "for" tokens && startWithParameters second ||
    startWith "const" tokens && !startWithOpening .curly second ||
    startWith "async" tokens && startWithAny ["|", "move"] second

/-- Parses a parameter of a closure. -/
def closureParameter : TokenReader Unit := do
  let _ ← inner.outerAnnotations
  let _ ← inner.pattern
  if startWith ":" (← ahead) then
    pass ":"
    inner.someType

/-- Parses a closure. With a result type its body is a block. -/
def closure (fields : Bool) : TokenReader Unit := do
  let _ ← inner.binder
  for word in ["const", "static", "async", "move"] do
    let _ ← perhaps word
  pass "|"
  let _ ← phrases (startWith "|") "," inner.closureParameter
  pass "|"
  if startWith "->" (← ahead) then
    pass "->"
    inner.someType
    inner.block
  else
    let _ ← inner.expression fields

/-! ### Atoms -/

/-- Parses comma-separated expressions in parentheses. -/
def expressions : TokenReader Unit :=
  enclosed .round do
    let _ ← commas inner.someExpression

/-- Parses an array: its elements, or an element and a length. -/
def array : TokenReader Unit := do
  if !(← ahead).isEmpty then
    inner.someExpression
    if startWith ";" (← ahead) then
      pass ";"
      inner.someExpression
    else if !(← ahead).isEmpty then
      pass ","
      let _ ← commas inner.someExpression

/-- Parses a `let` in a condition. -/
def binding (fields : Bool) : TokenReader Unit := do
  pass "let"
  let _ ← inner.alternatives
  pass "="
  let form ← inner.operand fields
  let _ ← inner.operators Strength.comparison.rank fields form

/-- Parses a block after a keyword. `annotated` is whether it may have inner annotations. -/
def wordBlock (keyword : String) (annotated : Bool) : TokenReader Unit := do
  pass keyword
  if annotated then inner.body else inner.block

/-- Parses a built-in expression. -/
def builtIn : TokenReader Unit := do
  pass "builtin"
  pass "#"
  let _ ← name
  let _ ← group [.round]

/-- Parses an operand that begins with a keyword. -/
def keywordOperand (fields : Bool) : TokenReader ExpressionForm := do
  let tokens ← ahead
  let among (readers : List (String × TokenReader Unit)) : Option (TokenReader Unit) :=
    (readers.find? fun r => startWith r.1 tokens).map Prod.snd
  -- these end with a block, so a statement may end after them
  let blocks : List (String × TokenReader Unit) := [
    ("if", inner.choice), ("while", inner.conditionalLoop), ("for", inner.elementLoop),
    ("loop", inner.endlessLoop), ("match", inner.distinction), ("try", inner.wordBlock "try" false),
    ("unsafe", inner.wordBlock "unsafe" true), ("const", inner.wordBlock "const" true)]
  let others : List (String × TokenReader Unit) := [
    ("break", inner.leave fields), ("return", inner.jump "return"), ("yield", inner.jump "yield"),
    ("become", do pass "become"; inner.someExpression), ("let", inner.binding fields),
    ("continue", do pass "continue"; let _ ← given startWithLifetime lifetime), ("_", pass "_")]
  match among blocks, among others with
  | some r, _ =>
    r
    return .block
  | none, some r =>
    r
    return .other
  | none, none => failure

/-- Whether a path follows. -/
def startWithPath (tokens : List Token) : Bool :=
  startWithName tokens || startWithAny ["::", "<", "self", "Self", "super", "crate"] tokens ||
    startWith "try" tokens && startWithAny ["!", "::"] (beyond tokens)

/-- Whether an `async` block follows. -/
def startWithLaterBlock (tokens : List Token) : Bool :=
  let second := beyond tokens
  startWith "async" tokens &&
    (startWithOpening .curly second ||
      startWith "move" second && startWithOpening .curly (beyond second))

/-- Parses an operand without prefix operators and suffixes. -/
def atom (fields : Bool) : TokenReader ExpressionForm := do
  let tokens ← ahead
  let second := beyond tokens
  let plain (r : TokenReader Unit) : TokenReader ExpressionForm := do
    r
    return .other
  -- `true` is a literal, and `async`, `builtin` and `try` may be names; so the order matters
  if startWithLiteral tokens then plain do let _ ← literal
  else if startWithLaterBlock tokens then plain do
    pass "async"
    let _ ← perhaps "move"
    inner.block
  else if startWithClosure tokens then plain (inner.closure fields)
  else if startWith "builtin" tokens && startWith "#" second then plain builtIn
  else if startWithPath tokens then inner.pathOperand fields
  else if startWithOpening .round tokens then
    plain inner.expressions
  else if startWithOpening .square tokens then plain (enclosed .square inner.array)
  else if startWithOpening .curly tokens then
    inner.body
    return .block
  else if startWith ".." tokens then
    inner.rangeTail fields
    return .range
  else if startWithLifetime tokens then
    inner.labelled
    return .block
  else inner.keywordOperand fields

/-! ### Suffixes -/

/-- Whether a suffix of an operand follows. -/
def startWithSuffix (tokens : List Token) : Bool :=
  startWithOpening .round tokens || startWithOpening .square tokens || startWithDot tokens ||
    startWith "?" tokens

/-- Parses the name of a field, or of a method with its arguments. -/
def part : TokenReader Unit := do
  if startWith "await" (← ahead) then pass "await"
  else
    let isName ← member
    if isName && startWith "::" (← ahead) then
      let _ ← inner.angle
      guard (startWithOpening .round (← ahead))
    if isName && startWithOpening .round (← ahead) then inner.expressions

/-- Parses a field access or a method call. The indices of a nested tuple access may be lexed as a
float (`Text.places?`). -/
def chosenPart : TokenReader Unit := do
  pass "."
  match ← ahead with
  | .literal source :: rest =>
    if (Text.whole? source).isSome then inner.part
    else
      match Text.places? source with
      | some (_, ended) =>
        goOn rest
        if ended then inner.part
      | none => failure
  | _ => inner.part

/-- Parses suffixes: calls, indices, field accesses and `?`. Returns whether there are any. -/
def suffixes : TokenReader Bool := do
  let read ← rounds (fun tokens => !startWithSuffix tokens) do
    let tokens ← ahead
    if startWithOpening .round tokens then inner.expressions
    else if startWithOpening .square tokens then enclosed .square inner.someExpression
    else if startWith "?" tokens then pass "?"
    else inner.chosenPart
  return !read.isEmpty

/-! ### Prefix operators -/

/-- Parses the operator of a reference. -/
def referenceSign : TokenReader Unit := do
  pass "&"
  let tokens ← ahead
  if startWith "raw" tokens && startWithAny ["mut", "const"] tokens.tail then
    pass "raw"
    let _ ← oneOf ["mut", "const"]
  else
    let _ ← perhaps "mut"

/-- Parses an operand with its prefix operators and suffixes. A range has no annotations. -/
def signedOperand (fields : Bool) : TokenReader ExpressionForm := do
  let isAnnotated ← inner.isAnnotated
  let tokens ← ahead
  if startWith "&" tokens then
    referenceSign
    let _ ← inner.operand fields
    return .other
  else if startWithAny ["*", "!", "-"] tokens then
    let _ ← next
    let _ ← inner.operand fields
    return .other
  else
    let form ← inner.atom fields
    if form = .range then
      guard !isAnnotated
      return .range
    else
      let isLonger ← inner.suffixes
      -- a block with a suffix is no block
      return if isLonger then .other else form

end Phrases

end RecordQuery.Declaration

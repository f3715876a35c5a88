import RecordQuery.Declaration.Phrase.Operator
import RecordQuery.Declaration.Phrase.Pattern

/-!
# Control flow

Conditionals, loops and matches, and the keywords that leave a block. In a condition a path is not
followed by braces, because they open the block.
-/

namespace RecordQuery.Declaration

open TokenReader
open Token (startWith startWithAny startWithOpening startWithWord startWithLifetime
  startWithLiteral startWithDot)

namespace Phrases

variable (inner : Phrases)

/-! ### Ranges -/

/-- Whether a range has no upper end. -/
def endlessHere (fields : Bool) (tokens : List Token) : Bool :=
  tokens.isEmpty || startWithDot tokens || !fields && startWithOpening .curly tokens ||
    startWithAny [",", ";", "?", "=>", "=", "+", "/", "%", "^", ">", "<=", "!=", "-=", "*=",
      "&=", "|=", "<<=", "as"] tokens

/-- Parses the right operand of an operator. -/
def rightOperand (s : Strength) (fields : Bool) : TokenReader Unit := do
  let form ← inner.operand fields
  let _ ← inner.operators s.rightRank fields form

/-- Parses a range operator and the upper end, which a half-open range may lack. -/
def rangeTail (fields : Bool) : TokenReader Unit := do
  let isClosed ← rangeMark false
  if isClosed || !endlessHere fields (← ahead) then inner.rightOperand .range fields

/-! ### Blocks -/

/-- Parses a block without inner annotations. -/
def block : TokenReader Unit := enclosed .curly inner.statements

/-- Parses a conditional with its further branches. -/
def choice : TokenReader Unit := do
  let clause : TokenReader Unit := do
    pass "if"
    let _ ← inner.expression false
    inner.block
  clause
  let _ ← rounds (fun tokens => !(startWith "else" tokens && startWith "if" tokens.tail)) do
    pass "else"
    clause
  if startWith "else" (← ahead) then
    pass "else"
    inner.block

/-- Parses a `while` loop. -/
def conditionalLoop : TokenReader Unit := do
  pass "while"
  let _ ← inner.expression false
  inner.body

/-- Parses a `for` loop. -/
def elementLoop : TokenReader Unit := do
  pass "for"
  let _ ← inner.alternatives
  pass "in"
  let _ ← inner.expression false
  inner.body

/-- Parses a `loop`. -/
def endlessLoop : TokenReader Unit := do
  pass "loop"
  inner.body

/-- Parses an arm of a match. A comma must follow, except after a block and at the end. -/
def case : TokenReader Unit := do
  let _ ← inner.outerAnnotations
  let _ ← inner.alternatives
  if startWith "if" (← ahead) then
    pass "if"
    inner.someExpression
  pass "=>"
  let form ← inner.bounded
  if form = .block || (← ahead).isEmpty then
    let _ ← perhaps ","
  else pass ","

/-- Parses a match. -/
def distinction : TokenReader Unit := do
  pass "match"
  let _ ← inner.expression false
  enclosed .curly do
    inner.innerAnnotations
    roundsToEnd inner.case

/-- Parses a block or a loop with a label. -/
def labelled : TokenReader Unit := do
  let _ ← lifetime
  pass ":"
  let tokens ← ahead
  if startWith "while" tokens then inner.conditionalLoop
  else if startWith "for" tokens then inner.elementLoop
  else if startWith "loop" tokens then inner.endlessLoop
  else inner.body

/-! ### Jumps -/

/-- Whether an expression can begin with the tokens. -/
def startWithExpression (tokens : List Token) : Bool :=
  let operators : List (String × List String) := [
    ("!", ["!="]), ("-", ["-=", "->"]), ("*", ["*="]), ("|", ["|="]), ("&", ["&="]),
    ("<", ["<=", "<<="])]
  startWithWord tokens && !startWith "as" tokens || anyShape.any (startWithOpening · tokens) ||
    startWithLiteral tokens || startWithLifetime tokens || startWithAny ["..", "::", "#"] tokens ||
    operators.any fun o => startWith o.1 tokens && !startWithAny o.2 tokens

/-- Parses a keyword with an optional expression. -/
def jump (keyword : String) : TokenReader Unit := do
  pass keyword
  if startWithExpression (← ahead) then inner.someExpression

/-- Parses a `break`, with an optional label and an optional expression that is no labelled loop. -/
def leave (fields : Bool) : TokenReader Unit := do
  pass "break"
  if startWithLifetime (← ahead) then
    let _ ← lifetime
    guard !(startWith ":" (← ahead))
  let tokens ← ahead
  if startWithExpression tokens && (fields || !startWithOpening .curly tokens) then
    inner.someExpression

end Phrases

end RecordQuery.Declaration

import RecordQuery.Declaration.Phrase.Pattern
import RecordQuery.Declaration.Phrase.Type

/-!
# Functions

A signature has qualifiers, a name, generic parameters, parameters, a result type and a where
clause. The first parameter may be the receiver.
-/

namespace RecordQuery.Declaration

open TokenReader
open Token (startWith startWithName startWithLifetime startWithString)

namespace Phrases

variable (inner : Phrases)

/-- The tokens after the keyword, if they begin with it. -/
def dropWord (word : String) (tokens : List Token) : List Token :=
  (Token.after? word tokens).getD tokens

/-- Whether a function follows. `maybeSafe` is whether it may be `safe`, as in a foreign block. -/
def startWithFunction (maybeSafe : Bool) (tokens : List Token) : Bool :=
  let rest := dropWord "async" (dropWord "const" tokens)
  let rest := if maybeSafe && startWith "safe" rest then rest.tail else dropWord "unsafe" rest
  let rest :=
    if startWith "extern" rest then
      if startWithString rest.tail then rest.tail.tail else rest.tail
    else rest
  startWith "fn" rest

/-! ### Parameters -/

/-- Parses a receiver. -/
def receiver : TokenReader Unit := do
  let isReference := startWith "&" (← ahead)
  if isReference then
    pass "&"
    let _ ← given startWithLifetime lifetime
  let _ ← perhaps "mut"
  pass "self"
  if !isReference && startWith ":" (← ahead) then
    pass ":"
    inner.someType

/-- Parses the `...` of a variadic function, at the end of the parameters. -/
def furtherArguments : TokenReader Unit := do
  pass "..."
  if !(← ahead).isEmpty then pass ","

/-- Parses a parameter with its type, and returns whether it is variadic. An identifier with generic
arguments is the type of an unnamed parameter. -/
def typedParameter : TokenReader Bool := do
  let tokens ← ahead
  if startWithName tokens && startWith "<" tokens.tail then
    inner.someType
    return false
  else
    let _ ← inner.pattern
    pass ":"
    if startWith "..." (← ahead) then
      furtherArguments
      return true
    else
      inner.someType
      return false

/-- Parses a parameter, and returns whether it is variadic. Only the first one may be a receiver. -/
def valueParameter (first : Bool) : TokenReader Bool := do
  let _ ← inner.outerAnnotations
  if startWith "..." (← ahead) then
    furtherArguments
    return true
  else
    let isReceiver ← (do inner.receiver; return true) <|> return false
    guard (first || !isReceiver)
    if isReceiver then return false else inner.typedParameter

/-! ### Signatures -/

/-- Parses a signature. `maybeSafe` is whether it may be `safe`. -/
def signature (maybeSafe : Bool) : TokenReader Unit := do
  let _ ← perhaps "const"
  let _ ← perhaps "async"
  let unsafety ← perhaps "unsafe"
  if maybeSafe && unsafety.isEmpty then
    let _ ← perhaps "safe"
  let _ ← convention
  pass "fn"
  let _ ← name
  inner.parameters
  enclosed .round do
    let _ ← list id inner.valueParameter
  if startWith "->" (← ahead) then
    pass "->"
    inner.someType
  inner.conditions

/-- Parses a function with its body or, where it has none, a semicolon. -/
def function (maybeSafe : Bool) : TokenReader Unit := do
  inner.signature maybeSafe
  if startWith ";" (← ahead) then pass ";" else inner.body

end Phrases

end RecordQuery.Declaration

import RecordQuery.Declaration.Numeral
import RecordQuery.Declaration.Phrase.Bound

/-!
# Patterns

`Phrases.alternatives` parses patterns separated by `|`. Every parser returns whether the pattern is
a half-open range, because a slice pattern does not admit one.
-/

namespace RecordQuery.Declaration

open TokenReader
open Token (startWith startWithAny startWithOpening startWithName startWithLiteral startWithColon
  beyond)

namespace Phrases

variable (inner : Phrases)

/-! ### Alternatives -/

/-- Whether another alternative follows. -/
def startWithAlternative (tokens : List Token) : Bool :=
  startWith "|" tokens && !startWithAny ["||", "|="] tokens

/-- Parses alternatives, with an optional leading `|`. Only a single one can be a half-open
range. -/
def alternatives : TokenReader Bool := do
  let leading ← perhaps "|"
  let isOpenRange ← inner.pattern
  let others ← rounds (fun tokens => !startWithAlternative tokens) do
    pass "|"
    inner.pattern
  return isOpenRange && leading.isEmpty && others.isEmpty

/-- Parses comma-separated patterns. -/
def manyPatterns : TokenReader Unit := do
  let _ ← commas inner.alternatives

/-! ### Ranges -/

/-- Whether a range has no upper end. -/
def rangeStops (tokens : List Token) : Bool :=
  tokens.isEmpty || startWithAny ["|", "=", ",", ";", "if"] tokens || startWithColon tokens

/-- Parses an end of a range: a literal, a path or a constant block. -/
def rangeBound : TokenReader Unit := do
  let tokens ← ahead
  if startWithLiteral tokens then
    let _ ← literal
  else if startWithName tokens ||
      startWithAny ["::", "<", "self", "Self", "super", "crate"] tokens then
    let _ ← inner.qualifiedPath true
  else
    pass "const"
    inner.body

/-- Parses a range operator, and returns whether the upper end is included. `...` is a range
operator only in patterns. -/
def rangeMark (inPattern : Bool) : TokenReader Bool := do
  -- `..` is the beginning of the other two, so it comes last
  if startWith "..=" (← ahead) then
    pass "..="
    return true
  else if startWith "..." (← ahead) then
    guard inPattern
    pass "..."
    return true
  else
    pass ".."
    return false

/-- Parses a range after its lower end, and returns whether it is half-open. An inclusive range has
an upper end. -/
def rangeRest : TokenReader Bool := do
  let isClosed ← rangeMark true
  if rangeStops (← ahead) then
    guard !isClosed
    return true
  else
    inner.rangeBound
    return false

/-- Parses a range without a lower end or the rest pattern, and returns whether it is a range. -/
def rangeWithoutBegin : TokenReader Bool := do
  let isClosed ← rangeMark false
  if rangeStops (← ahead) then
    guard !isClosed
    return false
  else
    inner.rangeBound
    return true

/-! ### Record patterns -/

/-- Parses the index of a tuple field. -/
def place : TokenReader Nat := do
  match ← next with
  | .literal source =>
    match Text.place? source with
    | some n => return n
    | none => failure
  | _ => failure

/-- Parses the name or the index of a field, and returns whether it is a name. -/
def member : TokenReader Bool := do
  if startWithName (← ahead) then
    let _ ← name
    return true
  else
    let _ ← place
    return false

/-- Parses a field of a record pattern: a binding, or a field and a pattern. -/
def partPattern : TokenReader Unit := do
  let signs ← do pure ((← perhaps "box") ++ (← perhaps "ref") ++ (← perhaps "mut"))
  if signs.isEmpty then
    let isName ← member
    if startWith ":" (← ahead) || !isName then
      pass ":"
      let _ ← inner.alternatives
  else
    let _ ← name

/-- Parses the fields of a record pattern; a `..` is the last. -/
def partPatterns : TokenReader Unit := do
  let _ ← list id fun _ => do
    let _ ← inner.outerAnnotations
    if startWith ".." (← ahead) then
      pass ".."
      return true
    else
      inner.partPattern
      return false

/-! ### Single patterns -/

/-- Parses a pattern that begins with a path, and returns whether it is a half-open range. -/
def pathPattern : TokenReader Bool := do
  let (qualified, path) ← inner.qualifiedPath true
  let tokens ← ahead
  if !qualified && path.isPlain && startWithUse tokens then
    let _ ← macroUse
    return false
  else if startWithOpening .curly tokens then
    enclosed .curly inner.partPatterns
    return false
  else if startWithOpening .round tokens then
    enclosed .round inner.manyPatterns
    return false
  else if startWith ".." tokens then inner.rangeRest
  else return false

/-- Parses an identifier pattern. -/
def namePattern : TokenReader Unit := do
  let _ ← perhaps "ref"
  let _ ← perhaps "mut"
  if startWith "self" (← ahead) then pass "self"
  else
    let _ ← name
  if startWith "@" (← ahead) then
    pass "@"
    let _ ← inner.pattern

/-- Parses the patterns of a slice. -/
def elementPatterns : TokenReader Unit := do
  let _ ← commas do
    let isOpenRange ← inner.alternatives
    guard !isOpenRange

/-- Whether a pattern that begins with a path follows. A single identifier is no path. -/
def startWithPathPattern (tokens : List Token) : Bool :=
  let second := beyond tokens
  startWithName tokens &&
      (startWithAny ["::", "!", ".."] second || startWithOpening .curly second ||
        startWithOpening .round second) ||
    startWith "self" tokens && startWith "::" second ||
    startWithAny ["::", "<", "Self", "super", "crate"] tokens

/-- Parses a pattern without alternatives, and returns whether it is a half-open range. -/
def singlePattern : TokenReader Bool := do
  let tokens ← ahead
  if startWithPathPattern tokens then inner.pathPattern
  else if startWith "_" tokens then
    pass "_"
    return false
  else if startWith "box" tokens then
    pass "box"
    let _ ← inner.pattern
    return false
  else if startWithLiteral tokens || startWithAny ["-", "const"] tokens then
    inner.rangeBound
    if startWith ".." (← ahead) then inner.rangeRest else return false
  else if startWithName tokens || startWithAny ["ref", "mut", "self"] tokens then
    inner.namePattern
    return false
  else if startWith "&" tokens then
    pass "&"
    let _ ← perhaps "mut"
    let _ ← inner.pattern
    return false
  else if startWithOpening .round tokens then
    enclosed .round inner.manyPatterns
    return false
  else if startWithOpening .square tokens then
    enclosed .square inner.elementPatterns
    return false
  else inner.rangeWithoutBegin

end Phrases

end RecordQuery.Declaration

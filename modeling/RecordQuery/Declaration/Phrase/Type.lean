import RecordQuery.Declaration.Phrase.Bound

/-!
# Parsing types

`Phrases.typeExpr` decides by the first token. The type of a reference, a pointer or a result is
parsed in the context `TypePlace.single`, where no `+` joins bounds.
-/

namespace RecordQuery.Declaration

open TokenReader
open Token (startWith startWithAny startWithOpening startWithName startWithLifetime
  startWithString startWithColon beyond)

namespace Phrases

variable (inner : Phrases)

/-! ### Paths and bounds -/

/-- Parses arguments in parentheses and further segments, for at most the given number of rounds.
Further segments follow only after a result type in parentheses, or none. -/
def withRound : Nat → Path → TokenReader Path
  | 0, p => return p
  | rounds + 1, p => do
    if isOpen p && startWithRound (← ahead) then
      let (p, type) ← inner.roundArguments p
      -- segments after an open result type would belong to that type
      let mayGoOn := type.all fun t => t matches .enclosed _
      let others ← if mayGoOn then inner.furtherSegments false pathStops else pure ⟨[], []⟩
      withRound rounds ⟨p.segments ++ others.segments, p.tokens ++ others.tokens⟩
    else return p

/-- Parses a path as a type, and returns whether it is qualified. -/
def pathType (place : TypePlace) : TokenReader (Bool × Path) := do
  let (qualified, path) ← inner.qualifiedPath false
  if place = .conversion then return (qualified, path)
  else return (qualified, ← inner.withRound (← ahead).length path)

/-- Parses a type that begins with a path: a path, a macro call, or bounds. -/
def namedType (place : TypePlace) (quantifier : List Token) : TokenReader TypeExpr := do
  let (qualified, path) ← inner.pathType place
  if qualified then return .path true path
  else if path.isPlain && startWithUse (← ahead) then
    return .other (path.tokens ++ (← macroUse))
  else
    let others ← if place = .sum then inner.furtherBounds .object else pure []
    let tokens := quantifier ++ path.tokens ++ others.flatMap Prod.snd
    if tokens.length = path.tokens.length then return .path false path
    else if tokens.length = quantifier.length + path.tokens.length then return .bound tokens
    else return .other tokens

/-! ### Brackets -/

/-- Parses further bounds; there is no trailing `+`. -/
def strictBounds : TokenReader (List Token) := do
  let bounds ← rounds (fun tokens => !startWith "+" tokens) do
    return (← spelled "+") ++ (← inner.someBound .object).2
  return bounds.flatten

/-- Parses the contents of parentheses, and returns whether they may be the first bound. -/
def insideRound : TokenReader (TypeExpr × Bool) := do
  let tokens ← ahead
  if tokens.isEmpty then return (.other [], false)
  else if startWithLifetime tokens then
    return (.enclosed (← inner.bounds true .object), false)
  else if startWith "?" tokens then return (.bound (← inner.property .object), true)
  else
    let first ← inner.type .sum
    if startWith "," (← ahead) then
      let comma ← spelled ","
      let others ← commas (inner.typeTokens .sum)
      return (.other (first.tokens ++ comma ++ together others), false)
    else
      -- a path or a bound in parentheses may be followed by further bounds
      let mayBeBound := match first with
        | .path false _ => true
        | .bound _ => true
        | _ => false
      return (.enclosed first.tokens, mayBeBound)

/-- Parses a type in parentheses, a tuple, or bounds that begin with parentheses. -/
def roundType (place : TypePlace) : TokenReader TypeExpr := do
  let (inside, mayBeBound) ← enclosed .round inner.insideRound
  let tokens := .opening .round :: inside.tokens ++ [.closing .round]
  let isQuestioned := inside matches .bound _
  let mayGoOn := mayBeBound && (isQuestioned || place = .sum)
  let others ← if mayGoOn then inner.strictBounds else pure []
  match inside, others with
  | .enclosed _, [] => return .enclosed tokens
  | .bound _, [] => return .bound tokens
  | _, others => return .other (tokens ++ others)

/-- Parses a slice or array type. -/
def squareType : TokenReader (List Token) :=
  bracketed .square do
    let element ← inner.typeTokens .sum
    let size ← given (startWith ";") do
      return (← spelled ";") ++ (← written (inner.expression true))
    return element ++ size

/-! ### Function types -/

/-- Whether a named parameter follows. -/
def startWithLabel (tokens : List Token) : Bool :=
  (startWithName tokens || startWith "_" tokens) && startWith ":" tokens.tail

/-- Whether a variadic parameter follows. -/
def startWithDots (tokens : List Token) : Bool :=
  startWith "..." tokens || startWithLabel tokens && startWith "..." (beyond (beyond tokens))

/-- Parses a variadic parameter. -/
def openEnd : TokenReader (List Token) := do
  let label ← given startWithLabel do return [.word (← anyWord)] ++ (← spelled ":")
  return label ++ (← spelled "...") ++ (← perhaps ",")

/-- Parses a parameter of a function type. It may have a name, the first one may be a receiver. -/
def functionParameter (first : Bool) : TokenReader (List Token) := do
  let tokens ← ahead
  let changeable := first && startWith "mut" tokens && startWith "self" tokens.tail
  let sign ← if changeable then spelled "mut" else pure []
  let tokens ← ahead
  let mayBeLabel := startWithName tokens || startWith "_" tokens ||
    first && startWith "self" tokens
  let isLabelled := mayBeLabel && startWithColon tokens.tail
  let label ← if isLabelled then do pure ([← next] ++ (← spelled ":")) else pure []
  let rest ← ahead
  if changeable && !isLabelled then return sign ++ (← spelled "self")
  else if first && !startWith "self" tokens && startWith "mut" rest &&
      startWith "self" rest.tail then
    return label ++ (← spelled "mut") ++ (← spelled "self")
  else return sign ++ label ++ (← inner.typeTokens .sum)

/-- Parses a parameter of a function type, and returns whether it is variadic. -/
def functionParameterOrEnd (first : Bool) : TokenReader (Bool × List Token) := do
  let notes ← written inner.outerAnnotations
  if startWithDots (← ahead) then return (true, notes ++ (← openEnd))
  else return (false, notes ++ (← inner.functionParameter first))

/-- Parses the `extern` of a function type. -/
def convention : TokenReader (List Token) :=
  given (startWith "extern") do
    return (← spelled "extern") ++ (← given startWithString (satisfy fun _ => true))

/-- Parses a function type. -/
def functionType : TokenReader (List Token) := do
  let safety ← perhaps "unsafe"
  let convention ← convention
  let keyword ← spelled "fn"
  let parameters ← bracketed .round do
    let read ← list Prod.fst inner.functionParameterOrEnd
    return together (read.map fun p => (p.1.2, p.2))
  let result := resultTokens (← inner.result)
  return safety ++ convention ++ keyword ++ parameters ++ result

/-! ### Types -/

/-- Whether a type that may have a binder follows. -/
def quantifiable (tokens : List Token) : Bool :=
  startWithName tokens ||
    startWithAny ["fn", "unsafe", "extern", "super", "self", "Self", "crate"] tokens

/-- Parses a type. -/
def typeExpr (place : TypePlace) : TokenReader TypeExpr := do
  let quantifier ← inner.binder
  let tokens ← ahead
  guard (quantifier.isEmpty || quantifiable tokens)
  if startWithOpening .round tokens then inner.roundType place
  else if startWithAny ["fn", "unsafe", "extern"] tokens then
    return .other (quantifier ++ (← inner.functionType))
  else if startWithName tokens ||
      startWithAny ["super", "self", "Self", "crate", "::", "<"] tokens then
    inner.namedType place quantifier
  else if startWith "dyn" tokens then
    return .other
      ((← spelled "dyn") ++ (← perhaps "*") ++ (← inner.bounds (place = .sum) .object))
  else if startWithOpening .square tokens then return .other (← inner.squareType)
  else if startWith "*" tokens then
    return .other
      ((← spelled "*") ++ (← oneOf ["const", "mut"]) ++ (← inner.typeTokens .single))
  else if startWith "&" tokens then
    let sign ← spelled "&"
    let extent ← given startWithLifetime lifetime
    let mutability ← perhaps "mut"
    return .other (sign ++ extent ++ mutability ++ (← inner.typeTokens .single))
  else if startWith "!" tokens then return .other (← spelled "!")
  else if startWith "impl" tokens then
    return .other ((← spelled "impl") ++ (← inner.bounds (place = .sum) .hidden))
  else if startWith "_" tokens then return .other (← spelled "_")
  else if startWithLifetime tokens then return .other (← inner.bounds (place = .sum) .object)
  else failure

end Phrases

end RecordQuery.Declaration

import RecordQuery.Declaration.Phrase.Annotation
import RecordQuery.Declaration.Phrase.Path

/-!
# Generics

Bounds are lifetimes and trait bounds. They occur on generic parameters (`Phrases.parameters`), in
where clauses (`Phrases.conditions`), and on associated types among generic arguments
(`Phrases.angleArguments`).
-/

namespace RecordQuery.Declaration

open TokenReader
open Token (startWith startWithAny startWithOpening startWithWord startWithName startWithLifetime
  startWithLiteral startWithColon beyond)

namespace Phrases

variable (inner : Phrases)

/-! ### Constants -/

/-- Parses a block with inner annotations. -/
def body : TokenReader Unit :=
  enclosed .curly do
    inner.innerAnnotations
    inner.statements

/-- Parses a constant argument: a literal, an identifier or a block. -/
def constant : TokenReader (List Token) := do
  let tokens ← ahead
  if startWithLiteral tokens then literal
  else if startWithOpening .curly tokens then written inner.body
  else return [.word (← name)]

/-- Whether a literal or a block follows. -/
def startWithConstant (tokens : List Token) : Bool :=
  startWithLiteral tokens || startWithOpening .curly tokens

/-! ### Parameters -/

/-- The tokens of bounds. A colon without bounds is dropped. -/
def keptBounds (tokens : List Token) : List Token := if tokens.tail.isEmpty then [] else tokens

/-- Parses the bounds of a lifetime. -/
def outlived (stops : List Token → Bool) : TokenReader (List Token) :=
  given (startWith ":") do
    return (← spelled ":") ++ together (← phrases stops "+" lifetime)

/-- Parses a colon and bounds, if they follow. -/
def named (stops : List Token → Bool) : TokenReader (List Token) :=
  given (startWith ":") do
    return (← spelled ":") ++
      together (← phrases stops "+" (Prod.snd <$> inner.bound .parameter))

/-- Whether a generic parameter ends. -/
def parameterStops (tokens : List Token) : Bool :=
  tokens.isEmpty || startWithAny [",", ">"] tokens

/-- Parses a generic parameter. `unnamed` is whether it may be `_`. -/
def parameter (unnamed : Bool) : TokenReader (List Token) := do
  let notes ← written inner.outerAnnotations
  let tokens ← ahead
  if startWithLifetime tokens then
    return notes ++ (← lifetime) ++ keptBounds (← outlived parameterStops)
  else if startWith "const" tokens then
    let label ← do pure ((← spelled "const") ++ [.word (← name)])
    let type ← do pure ((← spelled ":") ++ (← inner.typeTokens .sum))
    let default ← given (startWith "=") do return (← spelled "=") ++ (← inner.constant)
    return notes ++ label ++ type ++ default
  else if unnamed && startWith "_" tokens then return notes ++ (← spelled "_")
  else
    let label ← name
    let bounds ← inner.named fun tokens => parameterStops tokens || startWith "=" tokens
    let default ← given (startWith "=") do
      return (← spelled "=") ++ (← inner.typeTokens .sum)
    return notes ++ [.word label] ++ keptBounds bounds ++ default

/-- Parses generic parameters in angle brackets. -/
def angleParameters (unnamed : Bool) : TokenReader (List Token) := do
  return (← spelled "<") ++
    together (← phrases (startWith ">") "," (inner.parameter unnamed)) ++ (← spelled ">")

/-- Parses the generic parameters of a declaration, if it has any. -/
def parameters : TokenReader Unit := do
  let _ ← given (startWith "<") (inner.angleParameters true)

/-- Parses a `for` binder, if one follows. -/
def binder : TokenReader (List Token) :=
  given (startWith "for") do return (← spelled "for") ++ (← inner.angleParameters false)

/-- Whether generic parameters follow, and not a qualified path. -/
def startWithParameters (tokens : List Token) : Bool :=
  let second := beyond tokens
  let third := beyond second
  startWith "<" tokens &&
    (startWithAny [">", "#", "const"] second ||
      (startWithLifetime second || startWithName second) &&
        (startWithAny [">", ",", "="] third || startWithColon third))

/-! ### Bounds -/

/-- Parses the `const` of a trait bound, which may stand in brackets. -/
def constancy : TokenReader (List Token) := do
  let tokens ← ahead
  if startWithOpening .square tokens then bracketed .square (spelled "const")
  else perhaps "const"

/-- Parses a trait bound. A relaxed bound (`?`) has no binder. -/
def property (place : BoundPlace) : TokenReader (List Token) := do
  let quantifier ← inner.binder
  let constant ← constancy
  guard (constant.isEmpty || place != .object)
  let modifier ← perhaps "?"
  let quantified ← if quantifier.isEmpty && !modifier.isEmpty then inner.binder else pure []
  guard (modifier.isEmpty || (quantifier ++ quantified).isEmpty)
  let path ← inner.path false
  let tokens ←
    if isOpen path && startWithRound (← ahead) then do
      pure (← inner.roundArguments path).1.tokens
    else pure path.tokens
  return quantifier ++ constant ++ modifier ++ tokens

/-- The tokens of generic arguments. Lifetimes are moved to the front. -/
def argumentTokens (arguments : List (Argument × List Token)) : List Token :=
  let (lifetimes, others) := arguments.partition fun a => a.1.sort = .lifetime
  let gap := match lifetimes.getLast?, others with
    | some (_, []), _ :: _ => [.mark ',' false]
    | _, _ => []
  (lifetimes.flatMap fun a => a.1.tokens ++ a.2) ++ gap ++ others.flatMap fun a => a.1.tokens ++ a.2

/-- Parses the captures of an opaque type. -/
def captures : TokenReader (List Token) := do
  let keyword ← spelled "use"
  let left ← spelled "<"
  let captured ← phrases (startWith ">") "," do
    if startWithLifetime (← ahead) then return (⟨.lifetime, ← lifetime⟩ : Argument)
    else if startWith "Self" (← ahead) then return ⟨.type, ← spelled "Self"⟩
    else return ⟨.type, [.word (← name)]⟩
  return keyword ++ left ++ argumentTokens captured ++ (← spelled ">")

/-- Parses a bound, and returns whether it is a trait bound. -/
def someBound (place : BoundPlace) : TokenReader (Bool × List Token) := do
  let tokens ← ahead
  if startWithLifetime tokens then return (false, ← lifetime)
  else if startWith "use" tokens then
    guard (place = .hidden)
    return (false, ← captures)
  else if startWithOpening .round tokens then
    return (true, ← bracketed .round (inner.property place))
  else return (true, ← inner.property place)

/-- Whether a bound can begin with the tokens. -/
def startWithBound (place : BoundPlace) (tokens : List Token) : Bool :=
  startWithWord tokens || startWithLifetime tokens || startWithOpening .round tokens ||
    startWithAny ["::", "?"] tokens || place != .object && startWithOpening .square tokens

/-- Parses further bounds, each after a `+`; a trailing `+` may follow. -/
def furtherBounds (place : BoundPlace) : TokenReader (List (Bool × List Token)) := do
  let joined (tokens : List Token) : Bool :=
    startWith "+" tokens && startWithBound place (beyond tokens)
  let bounds ← rounds (fun tokens => !joined tokens) do
    let plus ← spelled "+"
    let (isProperty, tokens) ← inner.someBound place
    return (isProperty, plus ++ tokens)
  return bounds ++ [(false, ← perhaps "+")]

/-- Parses bounds with at least one trait bound. -/
def bounds (sum : Bool) (place : BoundPlace) : TokenReader (List Token) := do
  let first ← inner.someBound place
  let others ← if sum then inner.furtherBounds place else pure []
  guard ((first :: others).any Prod.fst)
  return (first :: others).flatMap Prod.snd

/-! ### Where clauses -/

/-- Whether a predicate, or the bounds of one, ends. -/
def conditionStops (tokens : List Token) : Bool :=
  tokens.isEmpty || startWithOpening .curly tokens || startWithAny [",", ";", "="] tokens ||
    startWithColon tokens

/-- Parses a predicate of a where clause. -/
def condition : TokenReader Unit := do
  let tokens ← ahead
  if startWithLifetime tokens && startWith ":" tokens.tail then
    let _ ← lifetime
    let _ ← outlived fun tokens => conditionStops tokens || startWith ":" tokens
  else
    let _ ← inner.binder
    inner.someType
    guard (startWith ":" (← ahead))
    let _ ← inner.named conditionStops

/-- Parses a where clause, if one follows. -/
def conditions : TokenReader Unit := do
  if startWith "where" (← ahead) then
    pass "where"
    guard !(startWithParameters (← ahead))
    let _ ← phrases conditionStops "," inner.condition

/-! ### Generic arguments -/

/-- Whether the type may be the name of an associated type: a single unqualified segment. -/
def mayBeConditioned : TypeExpr → Bool
  | .path false ⟨[name], tokens⟩ => name.arguments != .round && !startWith "::" tokens
  | _ => false

/-- Parses the rest of an associated type or constant: `=` and its value, or bounds. -/
def association : TokenReader (List Token) := do
  let tokens ← ahead
  if startWith "=" tokens then
    let sign ← spelled "="
    let value ← if startWithConstant (← ahead) then inner.constant else inner.typeTokens .sum
    return sign ++ value
  else inner.named (startWithAny [",", ">"])

/-- Parses a generic argument. -/
def argument : TokenReader Argument := do
  let tokens ← ahead
  if startWithLifetime tokens && !startWith "+" tokens.tail then return ⟨.lifetime, ← lifetime⟩
  else if startWithConstant tokens then return ⟨.other, ← inner.constant⟩
  else
    let type ← inner.type .sum
    let association ← if mayBeConditioned type then inner.association else pure []
    return ⟨if association.isEmpty then .type else .other, type.tokens ++ association⟩

/-- Parses generic arguments in angle brackets, with an optional `::` in front. -/
def angleArguments : TokenReader (List Argument × List Token) := do
  let separator ← perhaps "::"
  let left ← spelled "<"
  let arguments ← phrases (startWith ">") "," inner.argument
  let right ← spelled ">"
  return (arguments.map Prod.fst, separator ++ left ++ argumentTokens arguments ++ right)

end Phrases

end RecordQuery.Declaration

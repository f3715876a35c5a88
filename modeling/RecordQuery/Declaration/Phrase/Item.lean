import RecordQuery.Declaration.Phrase.Definition
import RecordQuery.Declaration.Phrase.Record

/-!
# Items

Declarations in blocks, which are parsed to skip them: definitions, functions, types, traits and
implementations. `Phrases.anyItem` decides by the first keywords.
-/

namespace RecordQuery.Declaration

open TokenReader
open Token (startWith startWithAny startWithOpening startWithName startWithString beyond)

namespace Phrases

variable (inner : Phrases)

/-! ### Traits and implementations -/

/-- Parses items in braces, after inner annotations. -/
def members (r : TokenReader Unit) : TokenReader Unit :=
  enclosed .curly do
    inner.innerAnnotations
    roundsToEnd r

/-- Parses an item of a trait. -/
def propertyMember : TokenReader Unit := do
  let _ ← inner.outerAnnotations
  let isVisible ← visibility
  let isDefault := startWith "default" (← ahead)
  let _ ← perhaps "default"
  let tokens ← ahead
  if startWithFunction false tokens then inner.function false
  else if startWith "const" tokens then inner.constantItem
  else if startWith "type" tokens then inner.aliasItem .afterValue
  else
    guard (!isVisible && !isDefault && startWithMacro tokens)
    macroItem false

/-- Parses a trait after its qualifiers, or a trait alias. -/
def propertyItem (mayBeAlias : Bool) : TokenReader Unit := do
  pass "trait"
  let _ ← name
  inner.parameters
  if mayBeAlias && startWith "=" (← ahead) then
    pass "="
    let _ ← phrases (startWithAny ["where", ";"]) "+" (inner.bound .object)
    inner.conditions
    pass ";"
  else
    let _ ← inner.named fun tokens => startWith "where" tokens || startWithOpening .curly tokens
    inner.conditions
    inner.members inner.propertyMember

/-- Parses an item of an implementation. -/
def implementationMember : TokenReader Unit := do
  let _ ← inner.outerAnnotations
  let isVisible ← visibility
  let tokens ← ahead
  let isDefault := startWith "default" tokens && !startWith "!" tokens.tail
  if isDefault then pass "default"
  let tokens ← ahead
  if startWithFunction false tokens then inner.function false
  else if startWith "const" tokens then inner.constantItem
  else if startWith "type" tokens then inner.aliasItem .afterValue
  else
    guard (!isVisible && !isDefault && startWithMacro tokens)
    macroItem false

/-- Parses an implementation. Only a trait may be negated. -/
def implementationItem : TokenReader Unit := do
  let _ ← perhaps "default"
  let _ ← perhaps "unsafe"
  pass "impl"
  if startWithParameters (← ahead) then inner.parameters
  let tokens ← ahead
  if startWith "const" tokens || startWith "?" tokens && startWith "const" tokens.tail then
    let _ ← perhaps "?"
    pass "const"
  let tokens ← ahead
  let isNegative := startWith "!" tokens && !startWithOpening .curly tokens.tail
  if isNegative then pass "!"
  inner.someType
  if startWith "for" (← ahead) then
    pass "for"
    inner.someType
  else guard !isNegative
  inner.conditions
  inner.members inner.implementationMember

/-! ### Foreign blocks -/

/-- Parses an item of a foreign block. -/
def foreignMember : TokenReader Unit := do
  let _ ← inner.outerAnnotations
  let isVisible ← visibility
  let tokens ← ahead
  if startWithFunction true tokens then inner.function true
  else if startWith "static" tokens ||
      startWithAny ["unsafe", "safe"] tokens && startWith "static" tokens.tail then
    let _ ← given (startWithAny ["unsafe", "safe"]) (oneOf ["unsafe", "safe"])
    pass "static"
    let _ ← perhaps "mut"
    let _ ← name
    pass ":"
    inner.someType
    inner.valueIfAny
    pass ";"
  else if startWith "type" tokens then inner.aliasItem .either
  else
    guard (!isVisible && startWithMacro tokens)
    macroItem false

/-- Parses a foreign block. -/
def foreignItem : TokenReader Unit := do
  let _ ← perhaps "unsafe"
  pass "extern"
  let _ ← given startWithString (satisfy fun _ => true)
  inner.members inner.foreignMember

/-- Parses a module. -/
def moduleItem : TokenReader Unit := do
  let _ ← perhaps "unsafe"
  pass "mod"
  if startWith "try" (← ahead) then pass "try"
  else
    let _ ← name
  if startWith ";" (← ahead) then pass ";" else inner.members inner.item

/-! ### Dispatch -/

/-- Parses a declaration after `unsafe`. -/
def unsafeItem (isVisible : Bool) : TokenReader Unit := do
  let rest := (← ahead).tail
  if startWith "trait" rest || startWith "auto" rest && startWith "trait" rest.tail then
    pass "unsafe"
    let _ ← perhaps "auto"
    inner.propertyItem false
  else if startWith "impl" rest then inner.implementationItem
  else if startWith "extern" rest then
    guard !isVisible
    inner.foreignItem
  else inner.moduleItem

/-- Parses a declaration after its annotations. -/
def itemRest : TokenReader Unit := do
  let isVisible ← visibility
  let tokens ← ahead
  let second := beyond tokens
  if startWithFunction false tokens then inner.function false
  else if startWith "extern" tokens then
    if startWith "crate" second then externItem
    else
      guard !isVisible
      inner.foreignItem
  else if startWith "use" tokens then inner.importItem
  else if startWith "static" tokens then inner.staticItem
  else if startWith "const" tokens then inner.constantItem
  else if startWith "unsafe" tokens then inner.unsafeItem isVisible
  else if startWith "mod" tokens then inner.moduleItem
  else if startWith "type" tokens then inner.aliasItem .beforeValue
  else if startWithAny ["struct", "enum"] tokens ||
      startWith "union" tokens && startWithName second then
    let _ ← inner.declaredType
  else if startWith "trait" tokens then inner.propertyItem true
  else if startWith "auto" tokens && startWith "trait" second then
    pass "auto"
    inner.propertyItem false
  else if startWith "impl" tokens || startWith "default" tokens && !startWith "!" second then
    inner.implementationItem
  else if startWith "macro" tokens then macroDeclaration
  else
    guard (!isVisible && startWithMacro tokens)
    macroItem true

/-- Parses a declaration. -/
def anyItem : TokenReader Unit := do
  let _ ← inner.outerAnnotations
  inner.itemRest

end Phrases

end RecordQuery.Declaration

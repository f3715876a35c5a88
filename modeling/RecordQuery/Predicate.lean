import RecordQuery.Schema

/-!
# Predicates

A `Predicate` is a filter bound to a field: the field has been resolved, and the text has been
coerced to the kind of the field (`Predicate.bind?`). A filter does not bind if its field does not
resolve, its comparator needs an order that the kind does not have, or its text cannot be coerced
(`Operand.coerce?`).

Texts and characters are compared in lower case. `Predicate.holds` is false for an absent value or
one that does not compare, except that `not` holds of it; null is compared with absence.
-/

namespace RecordQuery

/-! ### Operands -/

/-- The value of a filter, coerced to a kind. -/
inductive Operand where
  /-- A lower-cased text. -/
  | text (t : Text)
  | number (n : Number)
  /-- A lower-cased character. -/
  | char (c : Char)
  | bool (b : Bool)
  | ordinal (n : UInt32)
  /-- The operand of a null filter. -/
  | null
  deriving DecidableEq

namespace Operand

/-- Reads a boolean, up to the case of `A` to `Z`. -/
def bool? (t : Text) : Option Bool :=
  if t.sameLetters "true".toList then some true
  else if t.sameLetters "false".toList then some false
  else none

/-- Reads a variant by its ordinal, or else by its name up to the case of `A` to `Z`. -/
def ordinal? (variants : List Text) (t : Text) : Option UInt32 :=
  (Text.word32? t).or <|
    -- a numeral of 32 bits is an ordinal, whether or not a variant has it
    (variants.findIdx? fun v => v.sameLetters t).bind fun place =>
      if place < UInt32.size then some (UInt32.ofNat place) else none

/-- Reads text as a value of the kind. -/
def read? (t : Text) : Kind → Option Operand
  | .text => some (.text t.lower)
  | .number => (Number.read? t).map .number
  | .char =>
    match t with
    | [c] => some (.char (Text.foldChar c))
    | _ => none
  | .bool => (bool? t).map .bool
  | .enum variants => (ordinal? variants t).map .ordinal

/-- Coerces the value of a filter to the kind of a field. -/
def coerce? (value : FilterValue) (kind : Kind) : Option Operand :=
  match value with
  | .null => some .null
  | .text t => read? t kind

/-- The operand as a value. -/
def toValue : Operand → Value
  | .text t => .text t
  | .number n => .number n
  | .char c => .char c
  | .bool b => .bool b
  | .ordinal n => .ordinal n
  | .null => .absent

end Operand

/-! ### Rendered values -/

/-- The value of a field as text. A variant is its name, if its ordinal has one. -/
def Value.render (kind : Kind) : Value → Text
  | .text t => t
  | .number n => n.toText
  | .char c => [c]
  | .bool b => if b then "true".toList else "false".toList
  | .ordinal n =>
    match kind with
    | .enum variants => variants[n.toNat]?.getD (Text.ofNat n.toNat)
    | _ => Text.ofNat n.toNat
  | .absent => []

/-! ### Predicates -/

/-- A filter that is bound to a field. -/
structure Predicate (ρ : Type) where
  /-- The name of the field in the filter. -/
  field : Text
  kind : Kind
  read : ρ → Value
  comparator : Comparator
  operand : Operand

namespace Predicate

variable {ρ : Type}

/-- The operand of a filter for the kind. The text of a `like` filter is not coerced. -/
def operand? (f : Filter) (kind : Kind) : Option Operand :=
  match f.value, f.comparator with
  | .text t, .like => some (.text t.lower)
  | value, _ => Operand.coerce? value kind

/-- Binds a filter to its field. -/
def bind? (resolve : Resolver ρ) (f : Filter) : Option (Predicate ρ) :=
  (resolve f.field).bind fun d =>
    if d.supports f.comparator then
      (operand? f d.kind).map fun operand => ⟨f.field, d.kind, d.read, f.comparator, operand⟩
    else none

/-- Whether the comparator admits the outcome of a comparison. Only `not` admits no outcome. -/
def admits (c : Comparator) : Option Ordering → Bool
  -- a value that does not compare is neither equal nor less nor greater
  | none => c = .not
  | some o =>
    match c with
    | .equals | .like => o = .eq
    | .not => o ≠ .eq
    | .greaterThan => o = .gt
    | .greaterThanEqual => o ≠ .lt
    | .lessThan => o = .lt
    | .lessThanEqual => o ≠ .gt

/-- Compares a value with an operand, texts and characters in lower case. -/
def compare? : Value → Operand → Option Ordering
  | .text s, .text t => some (Text.order s.lower t)
  | .char c, .char d => some (compare (Text.foldChar c).toNat d.toNat)
  -- numbers, booleans and ordinals have no case
  | v, o => v.compare? o.toValue

/-- Whether the rendered value contains the text of the operand. -/
def contains (kind : Kind) (v : Value) : Operand → Bool
  | .text needle => Text.includes needle (v.render kind).lower
  | _ => false

/-- A null filter: the value is absent, or it is not. -/
def holdsNull (c : Comparator) (v : Value) : Bool :=
  match c with
  | .equals | .like => v.isAbsent
  | .not => !v.isAbsent
  | _ => false

/-- Whether the comparator holds between a value of the kind and the operand. -/
def holdsValue (kind : Kind) (c : Comparator) (v : Value) (o : Operand) : Bool :=
  -- a null filter looks at absence only; any other filter takes an absent value for different
  if o = .null then holdsNull c v
  else if v.isAbsent then c = .not
  else if c = .like then contains kind v o
  else admits c (compare? v o)

/-- Whether the predicate holds for a record. -/
def holds (p : Predicate ρ) (record : ρ) : Bool :=
  holdsValue p.kind p.comparator (p.read record) p.operand

end Predicate

end RecordQuery

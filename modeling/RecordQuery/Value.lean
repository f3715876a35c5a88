import RecordQuery.Number.Basic

/-!
# Values

A `Value` is read from a field of a record: a text, a number, a character, the ordinal of a variant,
a boolean, or `absent`. `Value.compare?` orders the values of one kind and puts `absent` before
all others; values of different kinds do not compare.
-/

namespace RecordQuery

/-- The value of a field of a record. -/
inductive Value where
  | text (t : Text)
  | number (n : Number)
  | char (c : Char)
  /-- The ordinal of a variant. -/
  | ordinal (n : UInt32)
  | bool (b : Bool)
  /-- The value of an optional field that holds nothing. -/
  | absent
  deriving DecidableEq

namespace Value

/-- Whether the value is `absent`. -/
def isAbsent : Value → Bool
  | .absent => true
  | _ => false

@[simp] theorem isAbsent_iff (v : Value) : v.isAbsent = true ↔ v = .absent := by
  cases v <;> simp [isAbsent]

/-- Compares two values; `none` if they are of different kinds or one of them is `nan`. -/
def compare? : Value → Value → Option Ordering
  | .text s, .text t => some (Text.order s t)
  | .number m, .number n => m.compare? n
  | .char c, .char d => some (compare c.toNat d.toNat)
  | .ordinal m, .ordinal n => some (compare m.toNat n.toNat)
  | .bool a, .bool b => some (compare a.toNat b.toNat)
  -- absence is compared with values of every kind
  | .absent, .absent => some .eq
  | .absent, _ => some .lt
  | _, .absent => some .gt
  | _, _ => none

/-- Whether two values have the same constructors and the same content. `nan` is not the same as
itself, and the two zeros are the same. -/
def same : Value → Value → Bool
  | .text s, .text t => s == t
  | .number m, .number n => m.same n
  | .char c, .char d => c == d
  | .ordinal m, .ordinal n => m == n
  | .bool a, .bool b => a == b
  | .absent, .absent => true
  | _, _ => false

end Value

end RecordQuery

import RecordQuery.Number.Integer

/-!
# Binary floating point

A finite float is a significand times a power of two. `Binary64.nearest` rounds a quotient
of natural numbers to a precision, ties to even; beyond the largest number the result is infinite,
below the smallest it is zero. `Binary64.read?` reads decimal text with one rounding.
`Binary64.compare?` compares exactly: both significands are multiplied out to the smaller exponent.
`nan` does not compare, and the two zeros are equal.
-/

namespace RecordQuery

/-- A float of 64 bits. -/
inductive Binary64 where
  | nan
  | infinite (negative : Bool)
  /-- The significand times two to the power of the exponent. -/
  | finite (negative : Bool) (significand : Nat) (exponent : Int)
  deriving DecidableEq, Repr

namespace Binary64

/-! ### Rounding -/

/-- A floating-point format: the bits of the significand, the least and the greatest exponent. -/
structure Precision where
  bits : Nat
  minExponent : Int
  maxExponent : Int

/-- The format of 64 bits. -/
def Precision.double : Precision := ⟨53, -1074, 971⟩

/-- The format of 32 bits. All its numbers are numbers of 64 bits. -/
def Precision.single : Precision := ⟨24, -149, 104⟩

/-- Zero, with a sign. -/
def zero (negative : Bool) : Binary64 := .finite negative 0 Precision.double.minExponent

/-- The natural number nearest to a quotient, ties to even. -/
def roundHalfEven (num den : Nat) : Nat :=
  let whole := num / den
  let rest := 2 * (num % den)
  if rest < den then whole
  else if den < rest then whole + 1
  -- halfway: to the even neighbour
  else whole + whole % 2

/-- The quotient `num / (den * 2 ^ exponent)` as a numerator and a denominator. -/
def scaleDown (num den : Nat) (exponent : Int) : Nat × Nat :=
  if 0 ≤ exponent then (num, den * Nat.pow 2 exponent.toNat)
  else (num * Nat.pow 2 (-exponent).toNat, den)

/-- The greatest `e` for which `2 ^ e` is at most the quotient. -/
def floorLog2 (num den : Nat) : Int :=
  let guess : Int := (num.log2 : Int) - den.log2
  -- the guess is right, or greater by one
  let scaled := scaleDown num den guess
  if scaled.1 < scaled.2 then guess - 1 else guess

/-- A nonzero significand with all the bits of the format, by zeros at its end. The value is the
same. -/
def widen (negative : Bool) (significand : Nat) (exponent : Int) : Binary64 :=
  let shift := min (Precision.double.bits - 1 - significand.log2)
    (exponent - Precision.double.minExponent).toNat
  .finite negative (significand * Nat.pow 2 shift) (exponent - shift)

/-- The number of the precision that is nearest to the quotient. -/
def nearest (p : Precision) (negative : Bool) (num den : Nat) : Binary64 :=
  if num = 0 then zero negative
  else
    -- at the least exponent the significand may have fewer bits
    let exponent := max (floorLog2 num den - (p.bits - 1)) p.minExponent
    let scaled := scaleDown num den exponent
    let significand := roundHalfEven scaled.1 scaled.2
    -- rounding up may give a significand with one bit more than the format has
    let carried := significand = Nat.pow 2 p.bits
    let exponent := if carried then exponent + 1 else exponent
    let significand := if carried then Nat.pow 2 (p.bits - 1) else significand
    if p.maxExponent < exponent then .infinite negative
    else if significand = 0 then zero negative
    else widen negative significand exponent

/-- The float nearest to an integer. -/
def ofInt (n : Int) : Binary64 := nearest .double (n < 0) n.natAbs 1

/-- The float nearest to `digits * 10 ^ exponent`. With more than 400 places before or behind the
point it is out of range and not computed. -/
def ofDecimal (p : Precision) (negative : Bool) (digits : Nat) (exponent : Int) : Binary64 :=
  if digits = 0 then zero negative
  else
    let places := (Text.ofNat digits).length + exponent
    if 400 < places then .infinite negative
    else if places < -400 then zero negative
    else if 0 ≤ exponent then nearest p negative (digits * Nat.pow 10 exponent.toNat) 1
    else nearest p negative digits (Nat.pow 10 (-exponent).toNat)

/-! ### Reading -/

/-- Reads the exponent behind the digits, if there is one. -/
def power? : Text → Option Int
  | [] => some 0
  | c :: t => if c = 'e' ∨ c = 'E' then Text.signed? t else none

/-- Reads digits with at most one point and an exponent. -/
def unsigned? (p : Precision) (negative : Bool) (t : Text) : Option Binary64 :=
  let whole := t.takeWhile Char.isDigit
  let rest := t.dropWhile Char.isDigit
  let (places, rest) := match rest with
    | '.' :: rest => (rest.takeWhile Char.isDigit, rest.dropWhile Char.isDigit)
    | _ => ([], rest)
  -- the point only moves the exponent
  let digits := whole ++ places
  if digits.isEmpty then none
  else (power? rest).map fun power =>
    ofDecimal p negative (Nat.ofDigitChars 10 digits 0) (power - places.length)

/-- Reads an unsigned number, `inf`, `infinity` or `nan`. -/
def magnitude? (p : Precision) (negative : Bool) (t : Text) : Option Binary64 :=
  if t.sameLetters "inf".toList || t.sameLetters "infinity".toList then some (.infinite negative)
  else if t.sameLetters "nan".toList then some .nan
  else unsigned? p negative t

/-- Reads an optional sign and a number, rounded once to the precision. -/
def read? (p : Precision) : Text → Option Binary64
  | '-' :: t => magnitude? p true t
  | '+' :: t => magnitude? p false t
  | t => magnitude? p false t

/-! ### Order -/

/-- Whether the float is neither infinite nor `nan`. -/
def isFinite : Binary64 → Bool
  | .finite .. => true
  | _ => false

/-- The significand as a multiple of `2 ^ unit`, where `unit` is at most the exponent. -/
def inUnits (negative : Bool) (significand : Nat) (exponent unit : Int) : Int :=
  let n : Int := (significand * Nat.pow 2 (exponent - unit).toNat : Nat)
  if negative then -n else n

/-- Compares two numbers by value; `none` if one of them is `nan`. -/
def compare? : Binary64 → Binary64 → Option Ordering
  | .nan, _ => none
  | _, .nan => none
  | .infinite true, .infinite true => some .eq
  | .infinite false, .infinite false => some .eq
  | .infinite true, _ => some .lt
  | .infinite false, _ => some .gt
  | _, .infinite true => some .gt
  | _, .infinite false => some .lt
  | .finite n s e, .finite n' s' e' =>
    some (compare (inUnits n s e (min e e')) (inUnits n' s' e' (min e e')))

@[simp] theorem compare?_nan_left (x : Binary64) : compare? .nan x = none := by
  cases x <;> rfl

@[simp] theorem compare?_nan_right (x : Binary64) : compare? x .nan = none := by
  cases x <;> rfl

end Binary64

end RecordQuery

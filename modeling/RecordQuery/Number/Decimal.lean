import RecordQuery.Number.Binary64

/-!
# Shortest decimal text

`Binary64.toText` is the decimal text with the fewest significant digits that reads back as the same
number. The decimals that read back lie between the midpoints to the neighbouring floats, with the
midpoints if the significand is even (`Binary64.Readable`). `Binary64.shortest` tries one
digit, two digits and so on, each time the two decimals next to the number (`Binary64.decimalAt?`):
the nearer one that reads back, and the greater if both are equally near.

The digits are written without an exponent (`Binary64.positional`). An integer has no point, and a
negative zero keeps its sign.
-/

namespace RecordQuery.Binary64

/-! ### The number and its neighbours -/

/-- A positive number and the decimals that read back as it, in quarters of a decimal unit: the
number is `units * 10 ^ exponent`, and these decimals lie between `low / 4` and `high / 4` units. -/
structure Readable where
  units : Nat
  low : Nat
  high : Nat
  /-- Whether the two ends read back. -/
  closed : Bool
  exponent : Int

/-- The decimals that read back as `significand * 2 ^ exponent`. Below a power of two the distance
to the neighbour is half as large, except at the least exponent. -/
def readable (significand : Nat) (exponent : Int) : Readable :=
  -- `2 ^ (-n)` is `5 ^ n * 10 ^ (-n)`, so five to the `n` decimal units
  let unit := if 0 ≤ exponent then Nat.pow 2 exponent.toNat else Nat.pow 5 (-exponent).toNat
  let units := significand * unit
  let dense := significand = Nat.pow 2 (Precision.double.bits - 1) ∧
    Precision.double.minExponent < exponent
  { units := units
    low := 4 * units - (if dense then unit else 2 * unit)
    high := 4 * units + 2 * unit
    closed := significand % 2 = 0
    exponent := min exponent 0 }

/-- Whether `n` units read back as the number. -/
def Readable.admits (r : Readable) (n : Nat) : Bool :=
  if r.closed then r.low ≤ 4 * n && 4 * n ≤ r.high else r.low < 4 * n && 4 * n < r.high

/-! ### The fewest digits -/

/-- The decimal with so many significant digits that reads back as the number: the nearer of the two
next to it, and the greater if both are equally near. -/
def decimalAt? (r : Readable) (digits : Nat) : Option (Nat × Int) :=
  let dropped := (Text.ofNat r.units).length - digits
  let step := Nat.pow 10 dropped
  let below := r.units / step
  let above := below + 1
  let exponent := r.exponent + dropped
  match r.admits (below * step), r.admits (above * step) with
  | true, true =>
    if 2 * (r.units - below * step) < step then some (below, exponent)
    else some (above, exponent)
  | true, false => some (below, exponent)
  | false, true => some (above, exponent)
  | false, false => none

/-- The decimal with the fewest digits that reads back as the number, as digits and an exponent.
Seventeen digits are always enough. -/
def shortest (r : Readable) : Nat × Int :=
  -- the alternative, all digits of the number, is not reached
  ((List.range 17).findSome? fun n => decimalAt? r (n + 1)).getD (r.units, r.exponent)

/-! ### Layout -/

/-- The text without the zeros at its end. -/
def dropTrailingZeros (t : Text) : Text := (t.reverse.dropWhile (· == '0')).reverse

/-- The text of `digits * 10 ^ exponent` without an exponent. -/
def positional (digits : Nat) (exponent : Int) : Text :=
  let text := Text.ofNat digits
  if 0 ≤ exponent then text ++ List.replicate exponent.toNat '0'
  else
    let places := (-exponent).toNat
    -- at least one digit stands in front of the point
    let padded := List.replicate (places + 1 - text.length) '0' ++ text
    let whole := padded.take (padded.length - places)
    let rest := dropTrailingZeros (padded.drop (padded.length - places))
    if rest.isEmpty then whole else whole ++ '.' :: rest

/-- The decimal text of a finite number without its sign. -/
def magnitude (significand : Nat) (exponent : Int) : Text :=
  if significand = 0 then ['0']
  else
    let decimal := shortest (readable significand exponent)
    positional decimal.1 decimal.2

/-- The decimal text of a float. -/
def toText : Binary64 → Text
  | .nan => "NaN".toList
  | .infinite negative => if negative then "-inf".toList else "inf".toList
  | .finite negative significand exponent =>
    if negative then '-' :: magnitude significand exponent else magnitude significand exponent

end RecordQuery.Binary64

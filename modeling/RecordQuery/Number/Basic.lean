import RecordQuery.Number.Decimal
import RecordQuery.Text.Blank

/-!
# Numbers

A `Number` is a signed or an unsigned integer of 64 bits, or a float. Integers compare exactly,
signed and unsigned ones alike (`Number.compare?_whole`). If one of two numbers is a float, both are
compared as floats, and `nan` does not compare.

`Number.read?` reads trimmed text as the first of the three that it parses as; `inf` and `nan` are
not read.
-/

namespace RecordQuery

/-- A number of a field or of a filter. -/
inductive Number where
  | signed (n : Int64)
  | unsigned (n : UInt64)
  | float (x : Binary64)
  deriving DecidableEq

namespace Number

/-- The value of an integer. -/
def toInt? : Number → Option Int
  | .signed n => some n.toInt
  | .unsigned n => some n.toNat
  | .float _ => none

/-- An integer is in the range of `Int64` or of `UInt64`. -/
theorem bounds_of_toInt? {n : Number} {i : Int} (h : n.toInt? = some i) :
    Int64.minValue.toInt ≤ i ∧ i < UInt64.size := by
  cases n with
  | float x => exact absurd h (by simp [toInt?])
  | signed w =>
    obtain rfl := Option.some.inj h
    have hgreatest := w.toInt_le
    rw [Int64.toInt_maxValue] at hgreatest
    exact ⟨w.minValue_le_toInt, by rw [UInt64.size]; omega⟩
  | unsigned w =>
    obtain rfl := Option.some.inj h
    have hgreatest := w.toNat_lt
    rw [Int64.toInt_minValue, UInt64.size]
    exact ⟨by omega, by omega⟩

/-- The nearest float. -/
def toFloat : Number → Binary64
  | .signed n => .ofInt n.toInt
  | .unsigned n => .ofInt n.toNat
  | .float x => x

/-! ### Order -/

/-- Compares two numbers by value; `none` if one of them is `nan`. -/
def compare? (a b : Number) : Option Ordering :=
  match a, b with
  | .signed m, .signed n => some (compare m.toInt n.toInt)
  | .unsigned m, .unsigned n => some (compare m.toNat n.toNat)
  | .signed m, .unsigned n =>
    some (if m.toInt < 0 then .lt else compare m.toInt.toNat n.toNat)
  | .unsigned m, .signed n =>
    some (if n.toInt < 0 then .gt else compare m.toNat n.toInt.toNat)
  -- an integer is rounded in order to be compared with a float
  | _, _ => a.toFloat.compare? b.toFloat

theorem compare_natCast (m n : Nat) : compare (m : Int) (n : Int) = compare m n := by
  simp only [compare, compareOfLessAndEq, Int.ofNat_lt, Int.natCast_inj]

/-- Integers compare by their values. -/
theorem compare?_whole {a b : Number} {m n : Int} (ha : a.toInt? = some m)
    (hb : b.toInt? = some n) : a.compare? b = some (compare m n) := by
  cases a with
  | float x => simp [toInt?] at ha
  | signed i =>
    cases b with
    | float y => simp [toInt?] at hb
    | signed j => simp_all [toInt?, compare?]
    | unsigned j =>
      obtain rfl : i.toInt = m := by simpa [toInt?] using ha
      obtain rfl : (j.toNat : Int) = n := by simpa [toInt?] using hb
      -- a negative number is below every unsigned one; otherwise both are compared as naturals
      simp only [compare?]
      split
      · next h =>
        have : i.toInt < (j.toNat : Int) := by omega
        simp [compare, compareOfLessAndEq, this]
      · next h => rw [← compare_natCast, Int.toNat_of_nonneg (by omega)]
  | unsigned i =>
    cases b with
    | float y => simp [toInt?] at hb
    | unsigned j =>
      obtain rfl : (i.toNat : Int) = m := by simpa [toInt?] using ha
      obtain rfl : (j.toNat : Int) = n := by simpa [toInt?] using hb
      simp only [compare?, compare_natCast]
    | signed j =>
      obtain rfl : (i.toNat : Int) = m := by simpa [toInt?] using ha
      obtain rfl : j.toInt = n := by simpa [toInt?] using hb
      simp only [compare?]
      split
      · next h =>
        have hlt : ¬ (i.toNat : Int) < j.toInt := by omega
        have hne : ¬ (i.toNat : Int) = j.toInt := by omega
        simp [compare, compareOfLessAndEq, hlt, hne]
      · next h => rw [← compare_natCast, Int.toNat_of_nonneg (by omega)]

/-- Whether two numbers have the same constructor and the same value. -/
def same (a b : Number) : Bool :=
  match a, b with
  | .signed m, .signed n => m == n
  | .unsigned m, .unsigned n => m == n
  | .float x, .float y => x.compare? y == some .eq
  | _, _ => false

/-! ### Text -/

/-- The decimal text of the number. -/
def toText : Number → Text
  | .signed n => Text.ofInt n.toInt
  | .unsigned n => Text.ofNat n.toNat
  | .float x => x.toText

/-- Reads trimmed text as a signed word, else as an unsigned word, else as a finite float. -/
def read? (t : Text) : Option Number :=
  let t := t.trim
  ((Text.int64? t).map .signed).or <|
    ((Text.word64? t).map .unsigned).or <|
      ((Binary64.read? .double t).filter Binary64.isFinite).map .float

end Number

end RecordQuery

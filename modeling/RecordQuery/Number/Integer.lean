import RecordQuery.Text.Basic

/-!
# Numerals

`Text.ofNat` and `Text.ofInt` write decimal digits without leading zeros, after a minus sign for
negative numbers. `Text.unsigned?` and `Text.signed?` read one or more ASCII digits after an
optional sign, and `Text.word64?`, `Text.int64?` and `Text.word32?` are `none` out of their range.
An unsigned number has no minus sign, not even `-0`.

Reading is inverse to writing: `Text.natural?_ofNat`, `Text.word64?_ofNat`, `Text.int64?_ofInt`.
-/

namespace RecordQuery.Text

/-! ### Writing -/

/-- The decimal digits of a natural number. -/
def ofNat (n : Nat) : Text := Nat.toDigits 10 n

/-- The decimal text of an integer. -/
def ofInt : Int → Text
  | .ofNat n => ofNat n
  | .negSucc n => '-' :: ofNat (n + 1)

theorem ofNat_ne_nil (n : Nat) : ofNat n ≠ [] := Nat.toDigits_ne_nil

/-- All characters are digits. -/
theorem isDigit_of_mem_ofNat {n : Nat} {c : Char} (h : c ∈ ofNat n) : c.isDigit = true :=
  Nat.isDigit_of_mem_toDigits (by decide) (by decide) h

/-! ### Reading -/

/-- Reads one or more digits. -/
def natural? (t : Text) : Option Nat :=
  if !t.isEmpty && t.all Char.isDigit then some (Nat.ofDigitChars 10 t 0) else none

/-- Reads digits after an optional plus sign. -/
def unsigned? : Text → Option Nat
  | '+' :: t => natural? t
  | t => natural? t

/-- Reads digits after an optional sign. -/
def signed? : Text → Option Int
  | '-' :: t => (natural? t).map fun n => -(n : Int)
  -- a plus sign is left to `unsigned?`
  | t => (unsigned? t).map fun n => (n : Int)

/-- Reads an unsigned word of 64 bits. -/
def word64? (t : Text) : Option UInt64 :=
  (unsigned? t).bind fun n => if n < UInt64.size then some (UInt64.ofNat n) else none

/-- Reads an unsigned word of 32 bits. -/
def word32? (t : Text) : Option UInt32 :=
  (unsigned? t).bind fun n => if n < UInt32.size then some (UInt32.ofNat n) else none

/-- Reads a signed word of 64 bits. -/
def int64? (t : Text) : Option Int64 :=
  (signed? t).bind fun n =>
    if Int64.minValue.toInt ≤ n ∧ n ≤ Int64.maxValue.toInt then some (Int64.ofInt n) else none

/-! ### Reading what is written -/

@[simp] theorem natural?_ofNat (n : Nat) : natural? (ofNat n) = some n := by
  have hall : (ofNat n).all Char.isDigit = true :=
    List.all_eq_true.2 fun _ h => isDigit_of_mem_ofNat h
  have hne : (ofNat n).isEmpty = false := by simp [ofNat_ne_nil]
  simp only [natural?, hall, hne, Bool.not_false, Bool.and_self, if_true]
  exact congrArg some Nat.ofDigitChars_ten_toDigits

theorem unsigned?_ofNat (n : Nat) : unsigned? (ofNat n) = some n := by
  unfold unsigned?
  split
  · next t h =>
    exact absurd (isDigit_of_mem_ofNat (n := n) (h ▸ List.mem_cons_self ..)) (by decide)
  · exact natural?_ofNat n

theorem signed?_ofInt (n : Int) : signed? (ofInt n) = some n := by
  cases n with
  | ofNat n =>
    unfold signed?
    split
    · next t h =>
      exact absurd (isDigit_of_mem_ofNat (n := n) (h ▸ List.mem_cons_self ..)) (by decide)
    · simp [ofInt, unsigned?_ofNat]
  | negSucc n => simp [ofInt, signed?, Int.negSucc_eq]

theorem word64?_ofNat (n : UInt64) : word64? (ofNat n.toNat) = some n := by
  simp [word64?, unsigned?_ofNat, UInt64.toNat_lt n]

theorem int64?_ofInt (n : Int64) : int64? (ofInt n.toInt) = some n := by
  simp only [int64?, signed?_ofInt, Option.bind_some, n.minValue_le_toInt, n.toInt_le, true_and,
    if_true, Int64.ofInt_toInt]

end RecordQuery.Text

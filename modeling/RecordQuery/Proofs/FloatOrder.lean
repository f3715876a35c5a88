import Mathlib.Algebra.Order.Field.Power
import Mathlib.Algebra.Order.Ring.Rat
import Mathlib.Tactic.FieldSimp
import Mathlib.Tactic.Ring
import RecordQuery.Proofs.StableSort

/-!
# The order of binary64 numbers

Integers are compared exactly with each other, and through the nearest binary64 number with floats.
Here the two comparisons are related.

* `Binary64.place` embeds the numbers other than NaN into the extended rationals, and
  `Binary64.compare?` compares places (`Binary64.compares_compare?`). It is `none` exactly for NaN
  (`Binary64.isSome_compare?_iff`).
* The binary64 number nearest to a 64-bit integer is that integer rounded to 53 binary digits
  (`Binary64.rounded`, `Binary64.place_ofInt`).
* Rounding is monotone (`Binary64.rounded_mono`), so the places of integers are in the order of the
  integers (`Number.place_mono`), though not strictly.
-/

namespace RecordQuery

namespace Binary64

/-! ### Places -/

/-- The value of a sign, a significand and an exponent. -/
def value (negative : Bool) (significand : Nat) (exponent : Int) : ℚ :=
  (if negative then -1 else 1) * (significand * 2 ^ exponent)

/-- **The place of a number** in the extended rationals. NaN has no place of its own. -/
def place : Binary64 → WithBot (WithTop ℚ)
  | .nan => ⊥
  | .infinite true => ⊥
  | .infinite false => ((⊤ : WithTop ℚ) : WithBot (WithTop ℚ))
  | .finite negative significand exponent =>
    ((value negative significand exponent : WithTop ℚ) : WithBot (WithTop ℚ))

/-- The value as a multiple of the unit is `inUnits`. -/
theorem inUnits_mul {negative : Bool} {significand : Nat} {exponent unit : Int}
    (h : unit ≤ exponent) :
    (inUnits negative significand exponent unit : ℚ) * 2 ^ unit =
      value negative significand exponent := by
  have htwo : (2 : ℚ) ≠ 0 := two_ne_zero
  -- the significand takes over the difference of the exponents
  have hsplit : (2 : ℚ) ^ exponent = 2 ^ (exponent - unit).toNat * 2 ^ unit := by
    rw [← zpow_natCast, Int.toNat_of_nonneg (by omega), ← zpow_add₀ htwo, Int.sub_add_cancel]
  rw [value, hsplit]
  cases negative <;> simp [inUnits] <;> ring

/-- The order of the values is the order of `inUnits`. -/
theorem compares_inUnits (n n' : Bool) (s s' : Nat) (e e' : Int) :
    (compare (inUnits n s e (min e e')) (inUnits n' s' e' (min e e'))).Compares
      (value n s e) (value n' s' e') := by
  -- both values are integers in units of the smaller power of two, and the unit is positive
  have hunit : StrictMono fun units : ℤ => (units : ℚ) * 2 ^ min e e' := by
    intro a b hab
    exact mul_lt_mul_of_pos_right (Int.cast_lt.2 hab) (zpow_pos two_pos _)
  rw [← inUnits_mul (min_le_left e e'), ← inUnits_mul (min_le_right e e')]
  exact hunit.compares.2 (compares_compare _ _)

/-- **`compare?` compares places.** -/
theorem compares_compare? {x y : Binary64} {o : Ordering} (h : x.compare? y = some o) :
    o.Compares x.place y.place := by
  -- the place of a finite value is between those of the two infinities
  cases x with
  | nan => simp at h
  | infinite a =>
    cases y with
    | nan => simp at h
    | infinite b =>
      cases a <;> cases b <;> obtain rfl := Option.some.inj h
      · exact rfl
      · exact WithBot.bot_lt_coe _
      · exact WithBot.bot_lt_coe _
      · exact rfl
    | finite n s e =>
      cases a <;> obtain rfl := Option.some.inj h
      · exact WithBot.coe_lt_coe.2 (WithTop.coe_lt_top _)
      · exact WithBot.bot_lt_coe _
  | finite n s e =>
    cases y with
    | nan => simp at h
    | infinite b =>
      cases b <;> obtain rfl := Option.some.inj h
      · exact WithBot.coe_lt_coe.2 (WithTop.coe_lt_top _)
      · exact WithBot.bot_lt_coe _
    | finite n' s' e' =>
      obtain rfl := Option.some.inj h
      have hcoe : StrictMono fun q : ℚ => ((q : WithTop ℚ) : WithBot (WithTop ℚ)) :=
        WithBot.coe_strictMono.comp WithTop.coe_strictMono
      exact hcoe.compares.2 (compares_inUnits n n' s s' e e')

/-- Only NaN does not compare. -/
theorem isSome_compare?_iff {x y : Binary64} :
    (x.compare? y).isSome = true ↔ x ≠ .nan ∧ y ≠ .nan := by
  cases x with
  | nan => simp
  | infinite a =>
    cases y with
    | infinite b => cases a <;> cases b <;> simp [compare?]
    | _ => cases a <;> simp [compare?]
  | finite n s e =>
    cases y with
    | infinite b => cases b <;> simp [compare?]
    | _ => simp [compare?]

/-- Swapping the arguments of `compare?` reverses the outcome. -/
theorem compare?_swap (x y : Binary64) : y.compare? x = (x.compare? y).map Ordering.swap := by
  cases h : x.compare? y with
  | none =>
    -- one of the two is NaN, in either order
    have hnot := mt isSome_compare?_iff.2 (by rw [h]; exact Bool.false_ne_true)
    have hnot' := mt isSome_compare?_iff.1 (mt And.symm hnot)
    rw [Bool.not_eq_true, Option.isSome_eq_false_iff, Option.isNone_iff_eq_none] at hnot'
    exact hnot'
  | some o =>
    have hboth := isSome_compare?_iff.1 (by rw [h]; rfl : (x.compare? y).isSome = true)
    obtain ⟨o', h'⟩ := Option.isSome_iff_exists.1 (isSome_compare?_iff.2 hboth.symm)
    rw [h', Option.map_some, (compares_compare? h').inj (compares_compare? h).swap]

/-! ### Rounding integers -/

section Rounding

variable {m n d k : Nat}

/-- Rounding a quotient gives one of the two integers around it. -/
theorem roundHalfEven_mem (n d : Nat) :
    n / d ≤ roundHalfEven n d ∧ roundHalfEven n d ≤ n / d + 1 := by
  unfold roundHalfEven
  dsimp only
  split
  · omega
  · split <;> omega

theorem roundHalfEven_mono (h : m ≤ n) : roundHalfEven m d ≤ roundHalfEven n d := by
  have hdiv : m / d ≤ n / d := Nat.div_le_div_right h
  rcases Nat.lt_or_ge (m / d) (n / d) with hlt | hge
  · have hm := (roundHalfEven_mem m d).2
    have hn := (roundHalfEven_mem n d).1
    omega
  · -- between the same two integers, the greater remainder is rounded up if the smaller one is
    have hwhole : m / d = n / d := le_antisymm hdiv hge
    have hrest : m % d ≤ n % d := by
      have hm := Nat.div_add_mod m d
      have hn := Nat.div_add_mod n d
      rw [hwhole] at hm
      omega
    unfold roundHalfEven
    dsimp only
    rw [hwhole]
    split
    · split
      · exact le_rfl
      · split <;> omega
    · split
      · rw [if_neg (by omega), if_pos (by omega)]
      · rw [if_neg (by omega)]
        split <;> omega

/-- Rounding an integer quotient is exact. -/
theorem roundHalfEven_mul (hd : 0 < d) : roundHalfEven (k * d) d = k := by
  unfold roundHalfEven
  dsimp only
  rw [Nat.mul_mod_left, Nat.mul_div_cancel k hd, if_pos (by omega)]

/-- Rounds a natural number to 53 binary digits, ties to even. -/
def rounded (n : Nat) : Nat := roundHalfEven n (2 ^ (n.log2 - 52)) * 2 ^ (n.log2 - 52)

@[simp] theorem rounded_zero : rounded 0 = 0 := rfl

/-- A number of at most 53 digits is not changed. -/
theorem rounded_of_log2_le (h : n.log2 ≤ 52) : rounded n = n := by
  have hone : roundHalfEven n 1 = n := by
    have hmul := roundHalfEven_mul (k := n) Nat.one_pos
    rwa [Nat.mul_one] at hmul
  rw [rounded, Nat.sub_eq_zero_of_le h, Nat.pow_zero, hone, Nat.mul_one]

/-- A power of two that is a multiple of the last digit is not changed. -/
theorem roundHalfEven_two_pow (h : d ≤ k) :
    roundHalfEven (2 ^ k) (2 ^ d) * 2 ^ d = 2 ^ k := by
  have hsplit : 2 ^ k = 2 ^ (k - d) * 2 ^ d := by rw [← Nat.pow_add, Nat.sub_add_cancel h]
  rw [hsplit, roundHalfEven_mul (Nat.two_pow_pos d)]

/-- Rounding stays between two powers of two. -/
theorem rounded_mem (h : n ≠ 0) : 2 ^ n.log2 ≤ rounded n ∧ rounded n ≤ 2 ^ (n.log2 + 1) := by
  have hlow : 2 ^ n.log2 ≤ n := Nat.log2_self_le h
  have hhigh : n ≤ 2 ^ (n.log2 + 1) := Nat.lt_log2_self.le
  constructor
  · rw [← roundHalfEven_two_pow (Nat.sub_le n.log2 52)]
    exact Nat.mul_le_mul_right _ (roundHalfEven_mono hlow)
  · rw [← roundHalfEven_two_pow (show n.log2 - 52 ≤ n.log2 + 1 by omega)]
    exact Nat.mul_le_mul_right _ (roundHalfEven_mono hhigh)

/-- **Rounding is monotone.** -/
theorem rounded_mono (h : m ≤ n) : rounded m ≤ rounded n := by
  rcases Nat.eq_zero_or_pos m with rfl | hm
  · exact Nat.zero_le _
  · have hn : n ≠ 0 := by omega
    have hlog : m.log2 ≤ n.log2 := (Nat.le_log2 hn).2 ((Nat.log2_self_le hm.ne').trans h)
    rcases Nat.lt_or_ge m.log2 n.log2 with hlt | hge
    · -- a power of two lies between them
      calc rounded m ≤ 2 ^ (m.log2 + 1) := (rounded_mem hm.ne').2
        _ ≤ 2 ^ n.log2 := Nat.pow_le_pow_right two_pos hlt
        _ ≤ rounded n := (rounded_mem hn).1
    · -- both are rounded at the same digit
      rw [rounded, rounded, le_antisymm hlog hge]
      exact Nat.mul_le_mul_right _ (roundHalfEven_mono h)

/-- Rounds an integer to 53 binary digits. -/
def roundedInt (i : Int) : Int := i.sign * rounded i.natAbs

theorem roundedInt_mono {i j : Int} (h : i ≤ j) : roundedInt i ≤ roundedInt j := by
  rcases lt_trichotomy i 0 with hi | rfl | hi
  · rcases lt_trichotomy j 0 with hj | rfl | hj
    · -- below zero, `natAbs` reverses the order, and the sign reverses it back
      have hle := rounded_mono (show j.natAbs ≤ i.natAbs by omega)
      rw [roundedInt, roundedInt, Int.sign_eq_neg_one_of_neg hi, Int.sign_eq_neg_one_of_neg hj]
      omega
    · rw [roundedInt, roundedInt, Int.sign_eq_neg_one_of_neg hi]
      simp
    · rw [roundedInt, roundedInt, Int.sign_eq_neg_one_of_neg hi, Int.sign_eq_one_of_pos hj]
      omega
  · rcases h.eq_or_lt with rfl | hj
    · exact le_rfl
    · rw [roundedInt, roundedInt, Int.sign_eq_one_of_pos hj]
      simp
  · have hle := rounded_mono (show i.natAbs ≤ j.natAbs by omega)
    rw [roundedInt, roundedInt, Int.sign_eq_one_of_pos hi, Int.sign_eq_one_of_pos (by omega)]
    omega

end Rounding

/-! ### The binary64 number nearest to an integer -/

theorem floorLog2_one {n : Nat} (h : n ≠ 0) : floorLog2 n 1 = n.log2 := by
  have hlow : 2 ^ n.log2 ≤ n := Nat.log2_self_le h
  have hone : Nat.log2 1 = 0 := by decide
  have hpow : Nat.pow 2 n.log2 = 2 ^ n.log2 := rfl
  simp only [floorLog2, scaleDown, hone, Nat.cast_zero, sub_zero, Nat.cast_nonneg, if_true,
    Int.toNat_natCast, Nat.one_mul, hpow]
  rw [if_neg (by omega)]

/-- The significand of an integer at the exponent at which it has 53 binary digits. -/
theorem roundHalfEven_scaleDown (n : Nat) :
    (roundHalfEven (scaleDown n 1 (n.log2 - 52)).1 (scaleDown n 1 (n.log2 - 52)).2 : ℚ) *
      2 ^ ((n.log2 : ℤ) - 52) = rounded n := by
  have hpow (k : Nat) : Nat.pow 2 k = 2 ^ k := rfl
  rcases Nat.lt_or_ge n.log2 52 with hlt | hge
  · -- the significand gains digits and is not rounded
    have hneg : ¬ (0 : ℤ) ≤ (n.log2 : ℤ) - 52 := by omega
    have hexponent : (n.log2 : ℤ) - 52 = -((52 - n.log2 : ℕ) : ℤ) := by omega
    have hdigits : (-((n.log2 : ℤ) - 52)).toNat = 52 - n.log2 := by omega
    have hround := roundHalfEven_mul (k := n * 2 ^ (52 - n.log2)) Nat.one_pos
    rw [Nat.mul_one] at hround
    rw [scaleDown, if_neg hneg, hdigits, hpow, hround, rounded_of_log2_le hlt.le, hexponent,
      zpow_neg, zpow_natCast]
    push_cast
    exact mul_inv_cancel_right₀ (pow_ne_zero _ two_ne_zero) _
  · have hexponent : (n.log2 : ℤ) - 52 = ((n.log2 - 52 : ℕ) : ℤ) := by omega
    rw [hexponent, scaleDown, if_pos (Int.natCast_nonneg _), Int.toNat_natCast, Nat.one_mul, hpow,
      rounded, zpow_natCast]
    push_cast
    rfl

/-- Trailing zeros of a significand do not change the value. -/
theorem exists_widen (negative : Bool) (s : Nat) (e : Int) : ∃ (s' : Nat) (e' : Int),
    widen negative s e = .finite negative s' e' ∧ (s' : ℚ) * 2 ^ e' = s * 2 ^ e := by
  refine ⟨_, _, rfl, ?_⟩
  have hpow (k : Nat) : Nat.pow 2 k = 2 ^ k := rfl
  rw [hpow, zpow_sub₀ two_ne_zero, zpow_natCast]
  push_cast
  field_simp

/-- **The nearest binary64 number** to a 64-bit integer has the value of the rounded integer. -/
theorem exists_nearest (negative : Bool) {n : Nat} (h : n < 2 ^ 64) : ∃ (s : Nat) (e : Int),
    nearest .double negative n 1 = .finite negative s e ∧ (s : ℚ) * 2 ^ e = rounded n := by
  by_cases hn : n = 0
  · subst hn
    exact ⟨0, _, rfl, by simp⟩
  · have hlog : n.log2 < 64 := (Nat.log2_lt hn).2 h
    have hexponent : max (floorLog2 n 1 - (Precision.double.bits - 1)) Precision.double.minExponent
        = (n.log2 : ℤ) - 52 := by
      rw [floorLog2_one hn]
      simp only [Precision.double]
      omega
    have hsignificand := roundHalfEven_scaleDown n
    rw [nearest, if_neg hn, hexponent]
    dsimp only
    -- from here on only the value of the significand matters
    generalize roundHalfEven (scaleDown n 1 (n.log2 - 52)).1 (scaleDown n 1 (n.log2 - 52)).2 = s
      at hsignificand ⊢
    have hpos : s ≠ 0 := by
      rintro rfl
      have hlow := (rounded_mem hn).1
      rw [Nat.cast_zero, zero_mul] at hsignificand
      have hzero : rounded n = 0 := Nat.cast_eq_zero.1 hsignificand.symm
      have := Nat.two_pow_pos n.log2
      omega
    split
    · next hcarried =>
      -- one digit more is one digit less at the next exponent
      obtain ⟨s', e', hwiden, hvalue⟩ :=
        exists_widen negative (Nat.pow 2 (Precision.double.bits - 1)) ((n.log2 : ℤ) - 52 + 1)
      refine ⟨s', e', ?_, ?_⟩
      · rw [if_neg (by simp only [Precision.double]; omega), if_neg (by decide), hwiden]
      · rw [hvalue, ← hsignificand, hcarried, zpow_add_one₀ two_ne_zero]
        simp only [Precision.double]
        norm_num
        ring
    · -- the exponent is in the range of the format, because the number has 64 bits
      obtain ⟨s', e', hwiden, hvalue⟩ := exists_widen negative s ((n.log2 : ℤ) - 52)
      refine ⟨s', e', ?_, hvalue.trans hsignificand⟩
      rw [if_neg (by simp only [Precision.double]; omega), hwiden]

/-- **The place of a 64-bit integer** is the rounded integer. -/
theorem place_ofInt {i : Int} (h : i.natAbs < 2 ^ 64) :
    (ofInt i).place = (((roundedInt i : ℚ) : WithTop ℚ) : WithBot (WithTop ℚ)) := by
  obtain ⟨s, e, hnearest, hvalue⟩ := exists_nearest (decide (i < 0)) h
  rw [ofInt, hnearest, place, value, hvalue, roundedInt]
  rcases lt_trichotomy i 0 with hi | rfl | hi
  · simp [hi, Int.sign_eq_neg_one_of_neg hi]
  · simp
  · simp [not_lt_of_gt hi, Int.sign_eq_one_of_pos hi]

theorem ofInt_ne_nan {i : Int} (h : i.natAbs < 2 ^ 64) : ofInt i ≠ .nan := by
  obtain ⟨s, e, hnearest, -⟩ := exists_nearest (decide (i < 0)) h
  rw [ofInt, hnearest]
  simp

theorem place_ofInt_mono {i j : Int} (hi : i.natAbs < 2 ^ 64) (hj : j.natAbs < 2 ^ 64)
    (h : i ≤ j) : (ofInt i).place ≤ (ofInt j).place := by
  rw [place_ofInt hi, place_ofInt hj, WithBot.coe_le_coe, WithTop.coe_le_coe]
  exact Int.cast_le.2 (roundedInt_mono h)

/-- Two integers with one place: the greater one has 54 binary digits. -/
example : ofInt 9007199254740993 = ofInt 9007199254740992 := by decide +kernel

end Binary64

/-! ### Numbers -/

namespace Number

/-- The place of the number as a binary64 number. -/
def place (n : Number) : WithBot (WithTop ℚ) := n.toFloat.place

variable {m n : Number} {i j : Int} {o : Ordering}

/-- Integers have 64 bits, signed or unsigned. -/
theorem natAbs_lt_of_toInt? (h : n.toInt? = some i) : i.natAbs < 2 ^ 64 := by
  obtain ⟨hleast, hgreatest⟩ := bounds_of_toInt? h
  rw [Int64.toInt_minValue] at hleast
  rw [UInt64.size] at hgreatest
  omega

/-- One of two numbers is a float, or both are integers. -/
theorem float_or_whole (m n : Number) : (m.toInt? = none ∨ n.toInt? = none) ∨
    ∃ i j, m.toInt? = some i ∧ n.toInt? = some j := by
  cases m.toInt? with
  | none => exact .inl (.inl rfl)
  | some i =>
    cases n.toInt? with
    | none => exact .inl (.inr rfl)
    | some j => exact .inr ⟨i, j, rfl, rfl⟩

theorem toFloat_of_toInt? (h : n.toInt? = some i) : n.toFloat = .ofInt i := by
  cases n with
  | signed w =>
    obtain rfl := Option.some.inj h
    rfl
  | unsigned w =>
    obtain rfl := Option.some.inj h
    rfl
  | float x => exact absurd h (by simp [toInt?])

/-- **The places of integers are in the order of the integers.** -/
theorem place_mono (hm : m.toInt? = some i) (hn : n.toInt? = some j) (h : i ≤ j) :
    m.place ≤ n.place := by
  rw [place, place, toFloat_of_toInt? hm, toFloat_of_toInt? hn]
  exact Binary64.place_ofInt_mono (natAbs_lt_of_toInt? hm) (natAbs_lt_of_toInt? hn) h

/-- If one of two numbers is a float, both are compared as floats. -/
theorem compare?_of_float (h : m.toInt? = none ∨ n.toInt? = none) :
    m.compare? n = m.toFloat.compare? n.toFloat := by
  cases m <;> cases n <;> simp [toInt?] at h <;> rfl

/-- **Comparing with a float is comparing places.** -/
theorem compares_of_float (hfloat : m.toInt? = none ∨ n.toInt? = none)
    (h : m.compare? n = some o) : o.Compares m.place n.place := by
  rw [compare?_of_float hfloat] at h
  exact Binary64.compares_compare? h

/-- Only NaN does not compare. -/
theorem isSome_compare?_iff :
    (m.compare? n).isSome = true ↔ m.toFloat ≠ .nan ∧ n.toFloat ≠ .nan := by
  rcases float_or_whole m n with hfloat | ⟨i, j, hi, hj⟩
  · rw [compare?_of_float hfloat, Binary64.isSome_compare?_iff]
  · rw [compare?_whole hi hj, toFloat_of_toInt? hi, toFloat_of_toInt? hj]
    exact iff_of_true rfl ⟨Binary64.ofInt_ne_nan (natAbs_lt_of_toInt? hi),
      Binary64.ofInt_ne_nan (natAbs_lt_of_toInt? hj)⟩

end Number

end RecordQuery

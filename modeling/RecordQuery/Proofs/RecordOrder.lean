import RecordQuery.Proofs.FloatOrder

/-!
# The order of records

`compareByKeys` compares records key by key, and two values that do not compare count as equal
(`Value.order`). So a value can be equal to two values that differ: NaN and values of another kind
are equal to every value, and a float is equal to all integers that are rounded to it
(`Value.Blurs`).

* `Value.order` is reversed when its arguments are swapped (`Value.order_swap`).
* By one key, the comparison is transitive except over a value that blurs two others
  (`Value.blurs_of_order`). The hard case, two integers and a float, rests on the monotonicity of
  rounding (`Number.exists_of_order`).
* By several keys, three records form a cycle only if, at the first key that tells any of them
  apart, a value blurs the other two, and the later keys close the cycle (`circular_of_cycle`).
  Without such a cycle the comparison is a preorder, and with one it is not
  (`compareByKeys_preorder`).
-/

namespace RecordQuery

variable {ρ : Type}

/-! ### Numbers -/

namespace Number

variable {l m n : Number} {o o' : Ordering}

theorem compare?_swap (m n : Number) : n.compare? m = (m.compare? n).map Ordering.swap := by
  rcases float_or_whole m n with hfloat | ⟨i, j, hi, hj⟩
  · rw [compare?_of_float hfloat, compare?_of_float hfloat.symm, Binary64.compare?_swap]
  · rw [compare?_whole hi hj, compare?_whole hj hi, Option.map_some,
      ← Std.OrientedOrd.eq_swap]

/-- A number that compares as not greater has no greater place. -/
theorem place_le (h : m.compare? n = some o) (ho : o ≠ .gt) : m.place ≤ n.place := by
  rcases float_or_whole m n with hfloat | ⟨i, j, hi, hj⟩
  · exact (compares_of_float hfloat h).ne_gt.1 ho
  · rw [compare?_whole hi hj, Option.some.injEq] at h
    exact place_mono hi hj (compare_le_iff_le.1 (h ▸ ho))

/-- Numbers with one place are told apart only if both are integers. -/
theorem exists_whole_of_place_eq (h : m.compare? n = some o) (ho : o ≠ .eq)
    (hplace : m.place = n.place) : ∃ i j, m.toInt? = some i ∧ n.toInt? = some j := by
  rcases float_or_whole m n with hfloat | ⟨i, j, hi, hj⟩
  · exact absurd ((compares_of_float hfloat h).eq_eq.2 hplace) ho
  · exact ⟨i, j, hi, hj⟩

/-- **Three numbers out of order** are two integers and, between them, a float that is the nearest
one to both. -/
theorem exists_of_order (hlm : l.compare? m = some o) (hmn : m.compare? n = some o')
    (hln : l.compare? n = some .gt) (ho : o ≠ .gt) (ho' : o' ≠ .gt) :
    ∃ x i j, m = .float x ∧ l.toInt? = some i ∧ n.toInt? = some j ∧
      m.compare? l = some .eq ∧ m.compare? n = some .eq := by
  have hnl : n.compare? l = some .lt := by rw [compare?_swap, hln]; rfl
  -- the places form a cycle, so they are equal
  have hfirst := place_le hlm ho
  have hsecond := place_le hmn ho'
  have hback := place_le hnl (by decide)
  have hl : l.place = m.place := le_antisymm hfirst (hsecond.trans hback)
  have hn : m.place = n.place := le_antisymm hsecond (hback.trans hfirst)
  obtain ⟨i, j, hi, hj⟩ := exists_whole_of_place_eq hln (by decide) (hl.trans hn)
  have hij : j < i := by
    rw [compare?_whole hi hj, Option.some.injEq] at hln
    exact compare_gt_iff_gt.1 hln
  have hm : m.toInt? = none := by
    -- the middle one is no integer, because integers compare exactly
    by_contra hwhole
    obtain ⟨k, hk⟩ := Option.ne_none_iff_exists'.1 hwhole
    rw [compare?_whole hi hk, Option.some.injEq] at hlm
    rw [compare?_whole hk hj, Option.some.injEq] at hmn
    have hik : i ≤ k := compare_le_iff_le.1 (hlm ▸ ho)
    have hkj : k ≤ j := compare_le_iff_le.1 (hmn ▸ ho')
    omega
  cases m with
  | signed w => exact absurd hm (by simp [toInt?])
  | unsigned w => exact absurd hm (by simp [toInt?])
  | float x =>
    refine ⟨x, i, j, rfl, hi, hj, ?_, ?_⟩
    · rw [compare?_swap, hlm, (compares_of_float (.inr hm) hlm).eq_eq.2 hl]
      rfl
    · rw [hmn, (compares_of_float (.inl hm) hmn).eq_eq.2 hn]

end Number

/-! ### Values -/

theorem Text.order_swap (s t : Text) : Text.order t s = (Text.order s t).swap :=
  (compares_order t s).inj (compares_order s t).swap

namespace Value

/-- Compares two values; values that do not compare are equal. -/
def order (v w : Value) : Ordering := (v.compare? w).getD .eq

theorem compare?_swap (v w : Value) : w.compare? v = (v.compare? w).map Ordering.swap := by
  cases v with
  | text s =>
    cases w with
    | text t => exact congrArg some (Text.order_swap s t)
    | _ => rfl
  | number m =>
    cases w with
    | number n => exact Number.compare?_swap m n
    | _ => rfl
  | char c =>
    cases w with
    | char d => exact congrArg some (Nat.compare_swap c.toNat d.toNat).symm
    | _ => rfl
  | ordinal m =>
    cases w with
    | ordinal n => exact congrArg some (Nat.compare_swap m.toNat n.toNat).symm
    | _ => rfl
  | bool a =>
    cases w with
    | bool b => exact congrArg some (Nat.compare_swap a.toNat b.toNat).symm
    | _ => rfl
  | absent => cases w <;> rfl

/-- **`order` is reversed when its arguments are swapped.** -/
theorem order_swap (v w : Value) : w.order v = (v.order w).swap := by
  rw [order, order, compare?_swap]
  cases v.compare? w <;> rfl

theorem order_eq_gt_iff {v w : Value} : v.order w = .gt ↔ v.compare? w = some .gt := by
  rw [order]
  cases v.compare? w <;> simp

/-- Values of one kind compare by their places. -/
theorem order_compares {kind : Kind} {v w : Value} (hv : kind.covers v = true)
    (hw : kind.covers w = true) : (v.order w).Compares v.rank w.rank := by
  obtain ⟨o, ho, hplaces⟩ := exists_compare?_of_covers hv hw
  rw [order, ho]
  exact hplaces

/-- Only the absent value is not greater than it. -/
theorem eq_absent_of_order {v : Value} (h : v.order .absent ≠ .gt) : v = .absent := by
  cases v with
  | absent => rfl
  | _ => exact absurd rfl h

/-- The kind of the values with which a present value compares; NaN has none. -/
def comparand? : Value → Option Kind
  | .text _ => some .text
  | .number n => if n.toFloat = .nan then none else some .number
  | .char _ => some .char
  | .ordinal _ => some (.enum [])
  | .bool _ => some .bool
  | .absent => none

/-- **The values that compare.** -/
theorem isSome_compare?_iff {v w : Value} (hv : v ≠ .absent) (hw : w ≠ .absent) :
    (v.compare? w).isSome = true ↔ ∃ kind, v.comparand? = some kind ∧ w.comparand? = some kind := by
  cases v with
  | absent => exact absurd rfl hv
  | number m =>
    cases w with
    | absent => exact absurd rfl hw
    | number n =>
      rw [compare?, Number.isSome_compare?_iff]
      simp [comparand?]
    | _ => simp [compare?, comparand?]
  | _ =>
    cases w with
    | absent => exact absurd rfl hw
    | _ => simp [compare?, comparand?]

/-- A value that compares, and not with numbers, is of the kind. -/
theorem covers_of_comparand? {v : Value} {kind : Kind} (h : v.comparand? = some kind)
    (hkind : kind ≠ .number) : kind.covers v = true := by
  cases v with
  | number n =>
    simp only [comparand?] at h
    split at h
    · exact absurd h (by simp)
    · exact absurd (Option.some.inj h).symm hkind
  | absent => exact absurd h (by simp [comparand?])
  | _ =>
    obtain rfl := Option.some.inj h
    rfl

theorem exists_number_of_comparand? {v : Value} (h : v.comparand? = some .number) :
    ∃ n, v = .number n := by
  cases v with
  | number n => exact ⟨n, rfl⟩
  | _ => simp [comparand?] at h

/-! ### Blurring -/

/-- Whether the first value is a float, and the nearest one to the second value, an integer. -/
def isNearestTo : Value → Value → Bool
  | .number (.float x), .number n => n.toInt?.isSome && x.compare? n.toFloat == some .eq
  | _, _ => false

/-- **A value blurs two others** that compare as different, if it does not compare with either of
them (as NaN, or a value of another kind), or if it is a float to which both are rounded. -/
def Blurs (v u w : Value) : Prop :=
  (u.compare? w = some .lt ∨ u.compare? w = some .gt) ∧
    (v.compare? u = none ∧ v.compare? w = none ∨
      v.isNearestTo u = true ∧ v.isNearestTo w = true)

instance (v u w : Value) : Decidable (Blurs v u w) :=
  inferInstanceAs (Decidable (_ ∧ _))

/-- No value blurs two others. -/
def Clear (values : List Value) : Prop :=
  ∀ v ∈ values, ∀ u ∈ values, ∀ w ∈ values, ¬ Blurs v u w

instance (values : List Value) : Decidable (Clear values) :=
  inferInstanceAs (Decidable (∀ v ∈ values, ∀ u ∈ values, ∀ w ∈ values, ¬ Blurs v u w))

theorem compare?_of_isNearestTo {v u : Value} (h : v.isNearestTo u = true) :
    v.compare? u = some .eq := by
  unfold isNearestTo at h
  split at h
  · next x n =>
    rw [Bool.and_eq_true, beq_iff_eq] at h
    rw [compare?, Number.compare?_of_float (.inl rfl)]
    exact h.2
  · exact absurd h (by simp)

theorem isNearestTo_of_compare? {x : Binary64} {n : Number} {i : Int} (hi : n.toInt? = some i)
    (h : (Number.float x).compare? n = some .eq) :
    (Value.number (.float x)).isNearestTo (.number n) = true := by
  rw [Number.compare?_of_float (.inl rfl)] at h
  rw [isNearestTo, hi, show x.compare? n.toFloat = some .eq from h]
  rfl

/-- The condition is symmetric in the two others. -/
theorem Blurs.symm {v u w : Value} (h : Blurs v u w) : Blurs v w u := by
  refine ⟨?_, h.2.imp And.symm And.symm⟩
  rw [compare?_swap]
  rcases h.1 with hlt | hgt
  · exact .inr (by rw [hlt]; rfl)
  · exact .inl (by rw [hgt]; rfl)

/-- A value that blurs two others is equal to both by `order`. -/
theorem Blurs.order_eq {v u w : Value} (h : Blurs v u w) : v.order u = .eq ∧ v.order w = .eq := by
  rcases h.2 with ⟨hu, hw⟩ | ⟨hu, hw⟩
  · rw [order, order, hu, hw]
    exact ⟨rfl, rfl⟩
  · rw [order, order, compare?_of_isNearestTo hu, compare?_of_isNearestTo hw]
    exact ⟨rfl, rfl⟩

/-- **Three values are out of order only if the middle one blurs the others.** -/
theorem blurs_of_order {u v w : Value} (huv : u.order v ≠ .gt) (hvw : v.order w ≠ .gt)
    (huw : u.order w = .gt) : Blurs v u w := by
  have hgt : u.compare? w = some .gt := order_eq_gt_iff.1 huw
  refine ⟨.inr hgt, ?_⟩
  -- none of them is absent
  have hw : w ≠ .absent := by
    rintro rfl
    obtain rfl := eq_absent_of_order hvw
    exact huv huw
  have hv : v ≠ .absent := by
    rintro rfl
    obtain rfl := eq_absent_of_order huv
    cases w <;> exact absurd hgt (by simp [compare?])
  have hu : u ≠ .absent := by
    rintro rfl
    cases w <;> exact absurd hgt (by simp [compare?])
  obtain ⟨kind, hcu, hcw⟩ := (isSome_compare?_iff hu hw).1 (by rw [hgt]; rfl)
  by_cases hcv : v.comparand? = some kind
  · right
    by_cases hkind : kind = .number
    · subst hkind
      obtain ⟨o, ho⟩ := Option.isSome_iff_exists.1 ((isSome_compare?_iff hu hv).2 ⟨_, hcu, hcv⟩)
      obtain ⟨o', ho'⟩ := Option.isSome_iff_exists.1 ((isSome_compare?_iff hv hw).2 ⟨_, hcv, hcw⟩)
      rw [order, ho, Option.getD_some] at huv
      rw [order, ho', Option.getD_some] at hvw
      obtain ⟨l, rfl⟩ := exists_number_of_comparand? hcu
      obtain ⟨m, rfl⟩ := exists_number_of_comparand? hcv
      obtain ⟨n, rfl⟩ := exists_number_of_comparand? hcw
      obtain ⟨x, i, j, rfl, hi, hj, hl, hn⟩ := Number.exists_of_order ho ho' hgt huv hvw
      exact ⟨isNearestTo_of_compare? hi hl, isNearestTo_of_compare? hj hn⟩
    · -- values of every other kind compare by their places
      exfalso
      have hku := covers_of_comparand? hcu hkind
      have hkv := covers_of_comparand? hcv hkind
      have hkw := covers_of_comparand? hcw hkind
      have hle := (order_compares hku hkv).ne_gt.1 huv
      have hle' := (order_compares hkv hkw).ne_gt.1 hvw
      exact absurd (hle.trans hle') (not_le_of_gt ((order_compares hku hkw).eq_gt.1 huw))
  · left
    -- the middle value compares with nothing of the kind of the others
    have hnone (y : Value) (hy : y ≠ .absent) (hcy : y.comparand? = some kind) :
        v.compare? y = none := by
      rw [← Option.isNone_iff_eq_none, ← Option.isSome_eq_false_iff, ← Bool.not_eq_true,
        isSome_compare?_iff hv hy]
      rintro ⟨other, hother, hother'⟩
      obtain rfl : kind = other := Option.some.inj (hcy.symm.trans hother')
      exact hcv hother
    exact ⟨hnone u hu hcu, hnone w hw hcw⟩

end Value

/-! ### One key -/

namespace SortKey

/-- Compares two records by one key; values that do not compare are equal. -/
def order (key : SortKey ρ) (a b : ρ) : Ordering :=
  key.direction.apply ((key.read a).order (key.read b))

variable {key : SortKey ρ} {a b c : ρ}

theorem order_swap (key : SortKey ρ) (a b : ρ) : key.order b a = (key.order a b).swap := by
  rw [order, order, Value.order_swap]
  cases key.direction <;> rfl

/-- A record whose value blurs those of two others is equal to both. -/
theorem order_eq_of_blurs (h : Value.Blurs (key.read b) (key.read a) (key.read c)) :
    key.order b a = .eq ∧ key.order b c = .eq := by
  rw [order, order, h.order_eq.1, h.order_eq.2]
  cases key.direction <;> exact ⟨rfl, rfl⟩

/-- **Three records are out of order by one key** only if the value of the middle one blurs those of
the others. -/
theorem blurs_of_order (hab : key.order a b ≠ .gt) (hbc : key.order b c ≠ .gt)
    (hca : key.order c a = .lt) : Value.Blurs (key.read b) (key.read a) (key.read c) := by
  unfold order at hab hbc hca
  cases hd : key.direction with
  | ascending =>
    rw [hd] at hab hbc hca
    refine Value.blurs_of_order hab hbc ?_
    rw [Value.order_swap, show (key.read c).order (key.read a) = .lt from hca]
    rfl
  | descending =>
    -- the comparison is reversed
    rw [hd, Direction.apply, ← Value.order_swap] at hab hbc
    rw [hd, Direction.apply, Ordering.swap_eq_lt] at hca
    exact (Value.blurs_of_order hbc hab hca).symm

/-- In a cycle by one key, a record before the next one is blurred with it by the third. -/
theorem eq_of_cycle (hab : key.order a b = .lt) (hbc : key.order b c ≠ .gt)
    (hca : key.order c a ≠ .gt) :
    Value.Blurs (key.read c) (key.read a) (key.read b) ∧
      key.order b c = .eq ∧ key.order c a = .eq := by
  have hblurs := blurs_of_order hbc hca hab
  obtain ⟨hcb, hca'⟩ := order_eq_of_blurs hblurs
  refine ⟨hblurs.symm, ?_, hca'⟩
  rw [order_swap, hcb]
  rfl

end SortKey

/-! ### Several keys -/

theorem compareByKeys_cons_eq (key : SortKey ρ) (keys : List (SortKey ρ)) (a b : ρ) :
    compareByKeys (key :: keys) a b = (key.order a b).then (compareByKeys keys a b) := by
  rw [compareByKeys_cons, SortKey.order, Value.order, SortKey.compare?]
  -- values that do not compare are equal in both directions
  cases (key.read a).compare? (key.read b) with
  | none => cases key.direction <;> rfl
  | some o => rfl

theorem compareByKeys_swap (keys : List (SortKey ρ)) (a b : ρ) :
    compareByKeys keys b a = (compareByKeys keys a b).swap := by
  induction keys with
  | nil => rfl
  | cons key keys ih =>
    rw [compareByKeys_cons_eq, compareByKeys_cons_eq, key.order_swap, ih, Ordering.swap_then]

/-- A record that is not after another one is before it by the first key, or equal to it by this key
and not after it by the others. -/
theorem compareByKeys_cons_ne_gt {key : SortKey ρ} {keys : List (SortKey ρ)} {a b : ρ} :
    compareByKeys (key :: keys) a b ≠ .gt ↔
      key.order a b = .lt ∨ key.order a b = .eq ∧ compareByKeys keys a b ≠ .gt := by
  rw [compareByKeys_cons_eq]
  cases key.order a b <;> simp

/-- **Three records form a cycle.** By the first key that tells any of them apart, the first record
is before the second, and the value of the third blurs theirs; by the later keys, the second is not
after the third, nor the third after the first. -/
def Circular : List (SortKey ρ) → ρ → ρ → ρ → Prop
  | [], _, _, _ => False
  | key :: keys, a, b, c =>
    key.order a b = .lt ∧ Value.Blurs (key.read c) (key.read a) (key.read b) ∧
        compareByKeys keys b c ≠ .gt ∧ compareByKeys keys c a ≠ .gt ∨
      key.order a b = .eq ∧ key.order b c = .eq ∧ key.order c a = .eq ∧ Circular keys a b c

/-- In such a cycle the first record is before the second, the second not after the third, and the
third not after the first. -/
theorem Circular.cycle {keys : List (SortKey ρ)} {a b c : ρ} (h : Circular keys a b c) :
    compareByKeys keys a b = .lt ∧ compareByKeys keys b c ≠ .gt ∧
      compareByKeys keys c a ≠ .gt := by
  induction keys with
  | nil => exact h.elim
  | cons key keys ih =>
    simp only [compareByKeys_cons_eq]
    rcases h with ⟨hab, hblurs, hbc, hca⟩ | ⟨hab, hbc, hca, hrest⟩
    · obtain ⟨hca', hcb⟩ := SortKey.order_eq_of_blurs hblurs
      have hbc' : key.order b c = .eq := by rw [key.order_swap, hcb]; rfl
      rw [hab, hbc', hca']
      exact ⟨rfl, hbc, hca⟩
    · rw [hab, hbc, hca]
      exact ih hrest

/-- **Every cycle is circular**, from one of its records on. -/
theorem circular_of_cycle {keys : List (SortKey ρ)} {a b c : ρ}
    (hab : compareByKeys keys a b ≠ .gt) (hbc : compareByKeys keys b c ≠ .gt)
    (hca : compareByKeys keys c a ≠ .gt)
    (hlt : compareByKeys keys a b = .lt ∨ compareByKeys keys b c = .lt ∨
      compareByKeys keys c a = .lt) :
    Circular keys a b c ∨ Circular keys b c a ∨ Circular keys c a b := by
  induction keys with
  | nil => simp at hlt
  | cons key keys ih =>
    -- at a key that tells two records apart the cycle is found; otherwise by the later keys
    have hstep {x y z : ρ} (hxy : key.order x y = .lt) (hyz : key.order y z ≠ .gt)
        (hzx : key.order z x ≠ .gt) (hyz' : compareByKeys (key :: keys) y z ≠ .gt)
        (hzx' : compareByKeys (key :: keys) z x ≠ .gt) : Circular (key :: keys) x y z := by
      obtain ⟨hblurs, heq, heq'⟩ := SortKey.eq_of_cycle hxy hyz hzx
      rw [compareByKeys_cons_eq, heq, Ordering.eq_then] at hyz'
      rw [compareByKeys_cons_eq, heq', Ordering.eq_then] at hzx'
      exact .inl ⟨hxy, hblurs, hyz', hzx'⟩
    have hfirst {x y : ρ} (h : compareByKeys (key :: keys) x y ≠ .gt) : key.order x y ≠ .gt := by
      rcases compareByKeys_cons_ne_gt.1 h with h | ⟨h, -⟩ <;> rw [h] <;> decide
    rcases compareByKeys_cons_ne_gt.1 hab with hkab | ⟨hkab, hab'⟩
    · exact .inl (hstep hkab (hfirst hbc) (hfirst hca) hbc hca)
    · rcases compareByKeys_cons_ne_gt.1 hbc with hkbc | ⟨hkbc, hbc'⟩
      · exact .inr (.inl (hstep hkbc (hfirst hca) (hfirst hab) hca hab))
      · rcases compareByKeys_cons_ne_gt.1 hca with hkca | ⟨hkca, hca'⟩
        · exact .inr (.inr (hstep hkca (hfirst hab) (hfirst hbc) hab hbc))
        · -- the key tells none of them apart
          simp only [compareByKeys_cons_eq, hkab, hkbc, hkca, Ordering.eq_then] at hlt
          refine (ih hab' hbc' hca' hlt).imp ?_ (Or.imp ?_ ?_)
          · exact fun h => .inr ⟨hkab, hkbc, hkca, h⟩
          · exact fun h => .inr ⟨hkbc, hkca, hkab, h⟩
          · exact fun h => .inr ⟨hkca, hkab, hkbc, h⟩

/-! ### Preorders -/

/-- **Rows are compared transitively exactly if no three of them form a cycle.** -/
theorem transitiveOn_iff {keys : List (SortKey ρ)} {rows : List ρ} :
    TransitiveOn (compareByKeys keys) rows ↔
      ∀ a ∈ rows, ∀ b ∈ rows, ∀ c ∈ rows, ¬ Circular keys a b c := by
  constructor
  · intro h a ha b hb c hc hcircular
    obtain ⟨hab, hbc, hca⟩ := hcircular.cycle
    refine h b hb c hc a ha hbc hca ?_
    rw [compareByKeys_swap, hab]
    rfl
  · intro h a ha b hb c hc hab hbc hac
    have hca : compareByKeys keys c a = .lt := by rw [compareByKeys_swap, hac]; rfl
    have hca' : compareByKeys keys c a ≠ .gt := by rw [hca]; decide
    rcases circular_of_cycle hab hbc hca' (.inr (.inr hca)) with hcircular | hcircular | hcircular
    · exact h a ha b hb c hc hcircular
    · exact h b hb c hc a ha hcircular
    · exact h c hc a ha b hb hcircular

/-- A cycle has a key with a value that blurs two others. -/
theorem Circular.exists_blurs {keys : List (SortKey ρ)} {a b c : ρ} (h : Circular keys a b c) :
    ∃ key ∈ keys, Value.Blurs (key.read c) (key.read a) (key.read b) := by
  induction keys with
  | nil => exact h.elim
  | cons key keys ih =>
    rcases h with ⟨-, hblurs, -⟩ | ⟨-, -, -, hrest⟩
    · exact ⟨key, List.mem_cons_self .., hblurs⟩
    · obtain ⟨other, hother, hblurs⟩ := ih hrest
      exact ⟨other, List.mem_cons_of_mem key hother, hblurs⟩

/-- Rows are compared transitively if no key has a value on them that blurs two others. -/
theorem transitiveOn_of_clear {keys : List (SortKey ρ)} {rows : List ρ}
    (h : ∀ key ∈ keys, Value.Clear (rows.map key.read)) :
    TransitiveOn (compareByKeys keys) rows := by
  refine transitiveOn_iff.2 fun a ha b hb c hc hcircular => ?_
  obtain ⟨key, hkey, hblurs⟩ := hcircular.exists_blurs
  exact h key hkey _ (List.mem_map_of_mem hc) _ (List.mem_map_of_mem ha) _
    (List.mem_map_of_mem hb) hblurs

/-- **Comparing records is a preorder up to values that blur others.** For all keys and records, a
record is equal to itself, and the comparison is reversed when its arguments are swapped. It is
transitive on the rows if and only if no three of them form a cycle, and so whenever no key has a
value on them that blurs two others. -/
theorem compareByKeys_preorder (keys : List (SortKey ρ)) :
    (∀ a, compareByKeys keys a a = .eq) ∧
    (∀ a b, compareByKeys keys b a = (compareByKeys keys a b).swap) ∧
    (∀ rows, TransitiveOn (compareByKeys keys) rows ↔
      ∀ a ∈ rows, ∀ b ∈ rows, ∀ c ∈ rows, ¬ Circular keys a b c) ∧
    (∀ rows, (∀ key ∈ keys, Value.Clear (rows.map key.read)) →
      TransitiveOn (compareByKeys keys) rows) := by
  refine ⟨fun a => ?_, compareByKeys_swap keys, fun _ => transitiveOn_iff,
    fun _ => transitiveOn_of_clear⟩
  -- only `eq` is its own reverse
  have hself := compareByKeys_swap keys a a
  revert hself
  cases compareByKeys keys a a <;> decide

/-- Signed and unsigned integers, floats around them and an absent value are compared as a preorder:
none of them blurs two others. -/
theorem compareByKeys_preorder_on_mixed_numbers :
    let key : SortKey Value := ⟨id, .descending⟩
    let rows : List Value := [
      .number (.unsigned 18446744073709551615), .absent, .number (.float (.finite false 3 (-1))),
      .number (.signed 1), .number (.float (.infinite false)), .number (.signed 9007199254740993)]
    Value.Clear (rows.map key.read) ∧ TransitiveOn (compareByKeys [key]) rows := by
  intro key rows
  have hclear : Value.Clear (rows.map key.read) := by decide +kernel
  exact ⟨hclear, (compareByKeys_preorder [key]).2.2.2 rows (List.forall_mem_singleton.2 hclear)⟩

/-- Two integers and a float to which both are rounded form a cycle, as do two numbers and NaN. -/
theorem whole_numbers_in_a_circle :
    let key : SortKey Value := ⟨id, .ascending⟩
    let greater : Value := .number (.signed 9007199254740993)
    let float : Value := .number (.float (.ofInt 9007199254740992))
    let less : Value := .number (.signed 9007199254740992)
    let nan : Value := .number (.float .nan)
    (compareByKeys [key] greater float ≠ .gt ∧ compareByKeys [key] float less ≠ .gt ∧
      compareByKeys [key] greater less = .gt) ∧
    (compareByKeys [key] greater nan ≠ .gt ∧ compareByKeys [key] nan less ≠ .gt) := by
  decide +kernel

end RecordQuery

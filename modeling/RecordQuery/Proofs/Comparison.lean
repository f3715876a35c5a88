import Mathlib.Data.List.Defs
import RecordQuery.Execution

/-!
# The comparators on one field

Whether a filter binds, and of which records it then holds, is decided in several layers: the kind
of the field restricts the comparators and reads the operand, `null` is answered before values are
compared, texts and characters are folded, and some values do not compare. `comparators_coherent`
states that the seven comparators fit together whatever the layers decide.

Except for `like` and for the operand `null`, all layers result in an `Option Ordering`,
`Predicate.outcome?`, and the comparator only tests it (`Predicate.holdsValue_eq_admits`). The laws
between comparators are laws of `Predicate.admits`, by cases on the four outcomes.
-/

namespace RecordQuery

variable {ρ : Type}

namespace Predicate

/-! ### Binding -/

/-- The predicate of a comparator on a field and a value, if it binds. -/
def comparing? (resolve : Resolver ρ) (field : Text) (value : FilterValue) (c : Comparator) :
    Option (Predicate ρ) :=
  bind? resolve ⟨field, c, value⟩

section Binding

variable {resolve : Resolver ρ} {field : Text} {value : FilterValue} {c : Comparator}
  {p : Predicate ρ}

/-- Only ordinal comparators need an ordered kind. -/
theorem supports_iff {f : Field ρ} :
    f.supports c = true ↔ (c.isOrdinal = true → f.kind.isOrdered = true) := by
  rw [Field.supports]
  cases c.isOrdinal <;> simp

/-- **Binding succeeds** if the field resolves, supports the comparator, and the value is an operand
for it. -/
theorem comparing?_eq_some_iff :
    comparing? resolve field value c = some p ↔
      ∃ f o, resolve field = some f ∧ (c.isOrdinal = true → f.kind.isOrdered = true) ∧
        operand? ⟨field, c, value⟩ f.kind = some o ∧ p = ⟨field, f.kind, f.read, c, o⟩ := by
  rw [comparing?, bind?, Option.bind_eq_some_iff]
  constructor
  · rintro ⟨f, hf, h⟩
    split at h
    · next hsupports =>
      obtain ⟨o, ho, hp⟩ := Option.map_eq_some_iff.1 h
      exact ⟨f, o, hf, supports_iff.1 hsupports, ho, hp.symm⟩
    · exact absurd h (by simp)
  · rintro ⟨f, o, hf, hsupports, ho, rfl⟩
    exact ⟨f, hf, by rw [if_pos (supports_iff.2 hsupports), ho, Option.map_some]⟩

theorem isSome_comparing?_iff :
    (comparing? resolve field value c).isSome = true ↔
      ∃ f, resolve field = some f ∧ (c.isOrdinal = true → f.kind.isOrdered = true) ∧
        (operand? ⟨field, c, value⟩ f.kind).isSome = true := by
  simp only [Option.isSome_iff_exists, comparing?_eq_some_iff]
  constructor
  · rintro ⟨p, f, o, hf, hsupports, ho, -⟩
    exact ⟨f, hf, hsupports, o, ho⟩
  · rintro ⟨f, hf, hsupports, o, ho⟩
    exact ⟨_, f, o, hf, hsupports, ho, rfl⟩

/-- The operand of every comparator other than `like` is coerced to the kind. -/
theorem operand?_of_ne_like (hc : c ≠ .like) (kind : Kind) :
    operand? ⟨field, c, value⟩ kind = Operand.coerce? value kind := by
  cases value with
  | null => rfl
  | text t =>
    cases c with
    | like => exact absurd rfl hc
    | _ => rfl

theorem isSome_operand?_like (kind : Kind) :
    (operand? ⟨field, .like, value⟩ kind).isSome = true := by
  cases value <;> rfl

/-- With a text, `like` binds on every field that resolves. -/
theorem isSome_comparing?_like_iff : (comparing? resolve field value .like).isSome = true ↔
    (resolve field).isSome = true := by
  rw [isSome_comparing?_iff, Option.isSome_iff_exists]
  constructor
  · rintro ⟨f, hf, -, -⟩
    exact ⟨f, hf⟩
  · rintro ⟨f, hf⟩
    exact ⟨f, hf, fun hordinal => absurd hordinal (by decide), isSome_operand?_like f.kind⟩

/-- Binding `not` succeeds exactly if binding `equals` does. -/
theorem isSome_comparing?_not_iff : (comparing? resolve field value .not).isSome = true ↔
    (comparing? resolve field value .equals).isSome = true := by
  rw [isSome_comparing?_iff, isSome_comparing?_iff]
  simp only [operand?_of_ne_like (show Comparator.not ≠ .like by decide),
    operand?_of_ne_like (show Comparator.equals ≠ .like by decide)]
  rfl

/-- An ordinal comparator binds exactly if `equals` does and the kind is ordered. -/
theorem isSome_comparing?_ordinal_iff (hc : c.isOrdinal = true) :
    (comparing? resolve field value c).isSome = true ↔
      (comparing? resolve field value .equals).isSome = true ∧
        ∃ f, resolve field = some f ∧ f.kind.isOrdered = true := by
  have hlike : c ≠ .like := by
    rintro rfl
    exact absurd hc (by decide)
  rw [isSome_comparing?_iff, isSome_comparing?_iff]
  simp only [operand?_of_ne_like hlike,
    operand?_of_ne_like (show Comparator.equals ≠ .like by decide)]
  constructor
  · rintro ⟨f, hf, hordered, ho⟩
    exact ⟨⟨f, hf, fun hordinal => absurd hordinal (by decide), ho⟩, f, hf, hordered hc⟩
  · rintro ⟨⟨f, hf, -, ho⟩, g, hg, hordered⟩
    obtain rfl : f = g := Option.some.inj (hf.symm.trans hg)
    exact ⟨f, hf, fun _ => hordered, ho⟩

end Binding

/-! ### Outcomes -/

/-- The comparison of a value with an operand, `none` if the value is absent or does not compare. -/
def outcome? (v : Value) (o : Operand) : Option Ordering :=
  if v.isAbsent then none else compare? v o

/-- **Comparators test the outcome.** An absent value has none, like one that does not compare. -/
theorem holdsValue_eq_admits {c : Comparator} {o : Operand} (hc : c ≠ .like) (ho : o ≠ .null)
    (kind : Kind) (v : Value) : holdsValue kind c v o = admits c (outcome? v o) := by
  rw [holdsValue, if_neg ho, if_neg hc, outcome?]
  split <;> rfl

/-- Folding does not change whether values compare. -/
theorem isSome_outcome?_iff {v : Value} {o : Operand} (ho : o ≠ .null) :
    (outcome? v o).isSome = true ↔ v ≠ .absent ∧ (v.compare? o.toValue).isSome = true := by
  cases o with
  | null => exact absurd rfl ho
  | _ => cases v <;> simp [outcome?, Value.isAbsent, compare?, Value.compare?, Operand.toValue]

section Admits

variable (outcome : Option Ordering)

theorem admits_not : admits .not outcome = !admits .equals outcome := by
  rcases outcome with _ | _ | _ | _ <;> rfl

theorem admits_greaterThanEqual : admits .greaterThanEqual outcome =
    (admits .greaterThan outcome || admits .equals outcome) := by
  rcases outcome with _ | _ | _ | _ <;> rfl

theorem admits_lessThanEqual : admits .lessThanEqual outcome =
    (admits .lessThan outcome || admits .equals outcome) := by
  rcases outcome with _ | _ | _ | _ <;> rfl

/-- Exactly one of the three admits an ordering, and none of them admits `none`. -/
theorem countP_admits : [.lessThan, .equals, .greaterThan].countP (admits · outcome) =
    if outcome.isSome then 1 else 0 := by
  rcases outcome with _ | _ | _ | _ <;> rfl

end Admits

/-- **Comparators that test one outcome are coherent.** -/
theorem coherent_of_admits {answer : Comparator → Bool} {outcome : Option Ordering}
    (h : ∀ c ≠ .like, answer c = admits c outcome) :
    (answer .greaterThanEqual = true ↔ answer .greaterThan = true ∨ answer .equals = true) ∧
    (answer .lessThanEqual = true ↔ answer .lessThan = true ∨ answer .equals = true) ∧
    [.lessThan, .equals, .greaterThan].countP answer ≤ 1 ∧
    ([.lessThan, .equals, .greaterThan].countP answer = 1 ↔ outcome.isSome = true) := by
  have hcount : [.lessThan, .equals, .greaterThan].countP answer =
      if outcome.isSome then 1 else 0 := by
    rw [← countP_admits]
    refine List.countP_congr fun c hc => ?_
    rw [h c (by rintro rfl; exact absurd hc (by decide))]
  rw [h _ (by decide), h _ (by decide), h _ (by decide), h _ (by decide), h _ (by decide),
    admits_greaterThanEqual, admits_lessThanEqual, Bool.or_eq_true, Bool.or_eq_true, hcount]
  refine ⟨Iff.rfl, Iff.rfl, ?_, ?_⟩
  · split <;> decide
  · split <;> simp_all

/-! ### Operands and null -/

/-- A text is never read as `null`. -/
theorem ne_null_of_read? {t : Text} {kind : Kind} {o : Operand}
    (h : Operand.read? t kind = some o) : o ≠ .null := by
  rintro rfl
  cases kind with
  | char => rcases t with _ | ⟨c, _ | ⟨d, t⟩⟩ <;> simp [Operand.read?] at h
  | _ => simp [Operand.read?] at h

theorem holdsNull_not (v : Value) : holdsNull .not v = !holdsNull .equals v := rfl

theorem holdsNull_ordinal {c : Comparator} (hc : c.isOrdinal = true) (v : Value) :
    holdsNull c v = false := by
  cases c with
  | equals | like | not => exact absurd hc (by decide)
  | _ => rfl

/-! ### Predicates -/

theorem holdsValue_not (kind : Kind) (v : Value) (o : Operand) :
    holdsValue kind .not v o = !holdsValue kind .equals v o := by
  by_cases ho : o = .null
  · -- `null` is answered before values are compared
    rw [holdsValue, holdsValue, if_pos ho, if_pos ho, holdsNull_not]
  · rw [holdsValue_eq_admits (by decide) ho, holdsValue_eq_admits (by decide) ho, admits_not]

section Holding

variable {resolve : Resolver ρ} {field : Text} {value : FilterValue}

/-- The predicate of `not` is the negation of the one of `equals`. -/
theorem holds_not {p q : Predicate ρ} (hp : comparing? resolve field value .equals = some p)
    (hq : comparing? resolve field value .not = some q) (record : ρ) :
    q.holds record = !p.holds record := by
  obtain ⟨f, o, hf, -, ho, rfl⟩ := comparing?_eq_some_iff.1 hp
  obtain ⟨g, o', hg, -, ho', rfl⟩ := comparing?_eq_some_iff.1 hq
  -- both resolve the same field and read the same operand
  obtain rfl : f = g := Option.some.inj (hf.symm.trans hg)
  rw [operand?_of_ne_like (by decide)] at ho ho'
  obtain rfl : o = o' := Option.some.inj (ho.symm.trans ho')
  exact holdsValue_not f.kind (f.read record) o

/-- On an ordered field every comparator binds with a text that the kind reads, and all of them but
`like` test one outcome. -/
theorem exists_comparing?_text {t : Text} {f : Field ρ} {o : Operand}
    (hf : resolve field = some f) (hordered : f.kind.isOrdered = true)
    (ho : Operand.read? t f.kind = some o) :
    ∃ p : Comparator → Predicate ρ, (∀ c, comparing? resolve field (.text t) c = some (p c)) ∧
      ∀ c ≠ .like, ∀ record, (p c).holds record = admits c (outcome? (f.read record) o) := by
  refine ⟨fun c => ⟨field, f.kind, f.read, c, if c = .like then .text t.lower else o⟩,
    fun c => ?_, fun c hc record => ?_⟩
  · -- each of them is the predicate of its comparator
    refine comparing?_eq_some_iff.2 ⟨f, _, hf, fun _ => hordered, ?_, rfl⟩
    by_cases hc : c = .like
    · rw [hc, if_pos rfl]
      rfl
    · rw [operand?_of_ne_like hc, if_neg hc]
      exact ho
  · change holdsValue f.kind c (f.read record) (if c = .like then .text t.lower else o) = _
    rw [if_neg hc, holdsValue_eq_admits hc (ne_null_of_read? ho)]

theorem rows_apply_of_comparing? {τ : Type → Type} [Target τ] [LawfulTarget τ] {c : Comparator}
    {p : Predicate ρ} (h : comparing? resolve field value c = some p) (t : τ ρ) :
    Target.rows (Filter.apply resolve ⟨field, c, value⟩ t) = (Target.rows t).filter p.holds := by
  rw [comparing?] at h
  rw [Filter.apply, h]
  exact LawfulTarget.rows_keep ..

end Holding

/-! ### Coherence -/

/-- **The laws of the comparators** on one field and one value. -/
structure Coherent (resolve : Resolver ρ) (field : Text) (value : FilterValue) : Prop where
  /-- Binding `not` succeeds exactly if binding `equals` does. -/
  not_applies_iff : (comparing? resolve field value .not).isSome = true ↔
    (comparing? resolve field value .equals).isSome = true
  /-- Binding `like` succeeds on every field that resolves. -/
  like_applies_iff : (comparing? resolve field value .like).isSome = true ↔
    (resolve field).isSome = true
  /-- An ordinal comparator binds exactly if `equals` does and the kind is ordered. -/
  ordinal_applies_iff : ∀ c, c.isOrdinal = true →
    ((comparing? resolve field value c).isSome = true ↔
      (comparing? resolve field value .equals).isSome = true ∧
        ∃ f, resolve field = some f ∧ f.kind.isOrdered = true)
  /-- The predicate of `not` is the negation of the one of `equals`. -/
  not_iff : ∀ p q, comparing? resolve field value .equals = some p →
    comparing? resolve field value .not = some q →
    ∀ record, q.holds record = true ↔ ¬ p.holds record = true
  /-- On every lawful target, the rows that are equal and those that are not partition the rows. -/
  partition : (comparing? resolve field value .equals).isSome = true →
    ∀ (τ : Type → Type) [Target τ] [LawfulTarget τ] (t : τ ρ),
      (Target.rows (Filter.apply resolve ⟨field, .equals, value⟩ t) ++
        Target.rows (Filter.apply resolve ⟨field, .not, value⟩ t)).Perm (Target.rows t) ∧
      List.Disjoint (Target.rows (Filter.apply resolve ⟨field, .equals, value⟩ t))
        (Target.rows (Filter.apply resolve ⟨field, .not, value⟩ t))
  /-- A text that an ordered kind reads is less than, equal to, or greater than the value of a
  record if that is present and compares, and none of the three otherwise. -/
  text_ordered : ∀ t f o, value = .text t → resolve field = some f → f.kind.isOrdered = true →
    Operand.coerce? value f.kind = some o →
    ∃ p : Comparator → Predicate ρ, (∀ c, comparing? resolve field value c = some (p c)) ∧
      ∀ record,
        ((p .greaterThanEqual).holds record = true ↔
          (p .greaterThan).holds record = true ∨ (p .equals).holds record = true) ∧
        ((p .lessThanEqual).holds record = true ↔
          (p .lessThan).holds record = true ∨ (p .equals).holds record = true) ∧
        [.lessThan, .equals, .greaterThan].countP (fun c => (p c).holds record) ≤ 1 ∧
        ([.lessThan, .equals, .greaterThan].countP (fun c => (p c).holds record) = 1 ↔
          f.read record ≠ .absent ∧ ((f.read record).compare? o.toValue).isSome = true)
  /-- No ordinal comparator holds with `null`. -/
  null_ordinal : value = .null → ∀ c, c.isOrdinal = true →
    ∀ p, comparing? resolve field value c = some p → ∀ record, p.holds record = false

/-- **The comparators are coherent** on every field and for every value, whatever values the records
hold: of the kind or not, values that do not compare, and absent ones. -/
theorem comparators_coherent (resolve : Resolver ρ) (field : Text) (value : FilterValue) :
    Coherent resolve field value where
  not_applies_iff := isSome_comparing?_not_iff
  like_applies_iff := isSome_comparing?_like_iff
  ordinal_applies_iff _ hc := isSome_comparing?_ordinal_iff hc
  not_iff p q hp hq record := by
    rw [holds_not hp hq, Bool.not_eq_true', Bool.not_eq_true]
  partition happlies τ _ _ t := by
    obtain ⟨p, hp⟩ := Option.isSome_iff_exists.1 happlies
    obtain ⟨q, hq⟩ := Option.isSome_iff_exists.1 (isSome_comparing?_not_iff.2 happlies)
    have hnot : q.holds = fun record => !p.holds record := funext (holds_not hp hq)
    rw [rows_apply_of_comparing? hp, rows_apply_of_comparing? hq, hnot]
    refine ⟨List.filter_append_perm p.holds (Target.rows t), fun record hequal hdifferent => ?_⟩
    -- a row in both would be equal and not equal
    have hholds := (List.mem_filter.1 hequal).2
    have hfails := (List.mem_filter.1 hdifferent).2
    rw [hholds] at hfails
    exact absurd hfails (by decide)
  text_ordered t f o hvalue hf hordered ho := by
    subst hvalue
    obtain ⟨p, hp, hreads⟩ := exists_comparing?_text hf hordered ho
    refine ⟨p, hp, fun record => ?_⟩
    -- the value is present and compares exactly if there is an outcome
    rw [← isSome_outcome?_iff (ne_null_of_read? ho)]
    exact coherent_of_admits fun c hc => hreads c hc record
  null_ordinal hvalue c hc p hp record := by
    subst hvalue
    obtain ⟨f, o, -, -, ho, rfl⟩ := comparing?_eq_some_iff.1 hp
    -- `null` is an operand of every kind
    obtain rfl : Operand.null = o := Option.some.inj ho
    exact holdsNull_ordinal hc (f.read record)

/-- The text `B` on a character field: one of the three comparators holds of the character `c`, and
none of them of a boolean or an absent value. -/
theorem comparators_coherent_on_characters :
    let resolve := (Schema.empty.field "grade".toList .char (id : Value → Value)).resolve
    ∃ p : Comparator → Predicate Value,
      (∀ c, comparing? resolve "Grade".toList (.text "B".toList) c = some (p c)) ∧
      let count (record : Value) :=
        [.lessThan, .equals, .greaterThan].countP fun c => (p c).holds record
      count (.char 'c') = 1 ∧ count (.bool true) = 0 ∧ count .absent = 0 := by
  intro resolve
  obtain ⟨p, hp, h⟩ := (comparators_coherent resolve "Grade".toList (.text "B".toList)).text_ordered
    "B".toList ⟨"grade".toList, .char, false, id⟩ (.char 'b') rfl rfl rfl rfl
  refine ⟨p, hp, (h (.char 'c')).2.2.2.2 (by decide), ?_, ?_⟩
  · have hnot := mt (h (.bool true)).2.2.2.1 (by decide)
    exact Nat.lt_one_iff.1 (Nat.lt_of_le_of_ne (h (.bool true)).2.2.1 hnot)
  · have hnot := mt (h .absent).2.2.2.1 (by decide)
    exact Nat.lt_one_iff.1 (Nat.lt_of_le_of_ne (h .absent).2.2.1 hnot)

end Predicate

end RecordQuery

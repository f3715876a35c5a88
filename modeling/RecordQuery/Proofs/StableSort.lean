import Mathlib.Data.List.Lex
import Mathlib.Order.Compare
import Mathlib.Order.WithBot
import RecordQuery.Proofs.TargetRows

/-!
# Sorts are stable

A sort compares rows by the values in its columns, which need not compare. This file is about
columns whose values do (`Field.Uniform`): values of one kind, integers in a number column, and
absent values anywhere.

* Such values have ranks in one linear order, with absent values first (`Value.rank`), and
  `Value.compare?` compares ranks (`Value.exists_compare?_of_covers`).
* `compareByKeys` compares the lists of the ranks lexicographically (`compares_compareByKeys`), and
  a descending sort reverses the outcome (`compareByKeys_direction`).
* Where rows are compared by ranks, the contract of `SortMethod` requires the rows in the order of
  their ranks, with equal rows in their given order (`IsStableSort.stablySorted`). No other list of
  the rows has this property (`StablySorted.unique`).

So a sort of any lawful target is the stable sort by the ranks of its rows (`sort_stablySorted`).
Equal rows keep their order in both directions, so a descending sort is not the reverse of an
ascending one.
-/

namespace RecordQuery

variable {ρ κ : Type}

/-! ### Directions -/

section Directions

variable [LinearOrder κ]

/-- The order of a direction. -/
def Direction.le : Direction → κ → κ → Prop
  | .ascending, x, y => x ≤ y
  | .descending, x, y => y ≤ x

variable {d : Direction} {x y z : κ}

theorem Direction.le_trans (hxy : d.le x y) (hyz : d.le y z) : d.le x z := by
  cases d with
  | ascending => exact LE.le.trans hxy hyz
  | descending => exact LE.le.trans hyz hxy

theorem Direction.le_antisymm (hxy : d.le x y) (hyx : d.le y x) : x = y := by
  cases d with
  | ascending => exact LE.le.antisymm hxy hyx
  | descending => exact LE.le.antisymm hyx hxy

end Directions

/-! ### Stable sorts -/

/-- **A stable sort** of rows by their place in a linear order. -/
structure StablySorted [LinearOrder κ] (d : Direction) (place : ρ → κ) (rows sorted : List ρ) :
    Prop where
  /-- The sorted rows are a permutation of the rows. -/
  perm : sorted.Perm rows
  /-- The places are in order. -/
  ordered : sorted.Pairwise fun a b => d.le (place a) (place b)
  /-- Rows with the same place keep their order. -/
  stable : ∀ k, (sorted.filter fun row => place row = k) = rows.filter fun row => place row = k

/-- Comparing rows by `order` is comparing their places in the direction `d`. -/
def ComparesPlaces [LinearOrder κ] (d : Direction) (place : ρ → κ) (order : ρ → ρ → Ordering)
    (rows : List ρ) : Prop :=
  ∀ a ∈ rows, ∀ b ∈ rows, (d.apply (order a b)).Compares (place a) (place b)

section Places

variable [LinearOrder κ] {d : Direction} {place : ρ → κ} {order : ρ → ρ → Ordering}
  {rows sorted : List ρ}

namespace ComparesPlaces

theorem ne_gt_iff (h : ComparesPlaces d place order rows) {a b : ρ} (ha : a ∈ rows)
    (hb : b ∈ rows) : order a b ≠ .gt ↔ d.le (place a) (place b) := by
  have hplaces := h a ha b hb
  cases d with
  | ascending => exact hplaces.ne_gt
  | descending =>
    rw [Direction.le, ← hplaces.ne_lt]
    exact not_congr Ordering.swap_eq_lt.symm

theorem eq_iff (h : ComparesPlaces d place order rows) {a b : ρ} (ha : a ∈ rows) (hb : b ∈ rows) :
    order a b = .eq ↔ place a = place b := by
  have hplaces := h a ha b hb
  cases d with
  | ascending => exact hplaces.eq_eq
  | descending =>
    rw [← hplaces.eq_eq, Direction.apply, Ordering.swap_eq_eq]

/-- Comparing by places is a total preorder. -/
theorem totalOn (h : ComparesPlaces d place order rows) : TotalOn order rows where
  swap a ha b hb := by
    have hturned := (h b hb a ha).inj (h a ha b hb).swap
    cases d with
    | ascending => exact hturned
    | descending => exact Ordering.swap_inj.1 hturned
  trans a ha b hb c hc hab hbc := by
    rw [h.ne_gt_iff ha hb] at hab
    rw [h.ne_gt_iff hb hc] at hbc
    rw [h.ne_gt_iff ha hc]
    exact Direction.le_trans hab hbc

end ComparesPlaces

/-- **A stable sort by places** is what the contract requires if `order` compares places. -/
theorem IsStableSort.stablySorted (h : IsStableSort order rows sorted)
    (hplaces : ComparesPlaces d place order rows) : StablySorted d place rows sorted := by
  refine ⟨h.perm, ?_, fun k => ?_⟩
  · refine (h.ordered hplaces.totalOn).imp_of_mem fun ha hb hab => ?_
    exact (hplaces.ne_gt_iff (h.perm.mem_iff.1 ha) (h.perm.mem_iff.1 hb)).1 hab
  · by_cases hk : ∃ a ∈ rows, place a = k
    · obtain ⟨a, ha, rfl⟩ := hk
      have hclass (b : ρ) (hb : b ∈ rows) :
          decide (place b = place a) = decide (order a b = .eq) :=
        decide_eq_decide.2 (eq_comm.trans (hplaces.eq_iff ha hb).symm)
      calc (sorted.filter fun b => place b = place a)
        _ = sorted.filter fun b => order a b = .eq :=
          List.filter_congr fun b hb => hclass b (h.perm.mem_iff.1 hb)
        _ = rows.filter fun b => order a b = .eq := h.stable hplaces.totalOn a ha
        _ = rows.filter fun b => place b = place a :=
          List.filter_congr fun b hb => (hclass b hb).symm
    · -- no row has this place
      have hnone : ∀ a ∈ rows, place a ≠ k := fun a ha heq => hk ⟨a, ha, heq⟩
      rw [List.filter_eq_nil_iff.2 fun a ha => by simpa using hnone a (h.perm.mem_iff.1 ha)]
      exact (List.filter_eq_nil_iff.2 fun a ha => by simpa using hnone a ha).symm

end Places

/-- **The stable sort by places is unique.** -/
theorem StablySorted.unique [LinearOrder κ] {d : Direction} {place : ρ → κ}
    {rows sorted other : List ρ} (h : StablySorted d place rows sorted)
    (h' : StablySorted d place rows other) : sorted = other := by
  refine eq_of_filter_eq (fun a b => place b = place a) (fun a _ => rfl) ?_
    (h'.perm.trans h.perm.symm) h.ordered h'.ordered fun a _ => ?_
  · exact fun a _ b _ hab hba => (Direction.le_antisymm hab hba).symm
  · exact (h.stable (place a)).trans (h'.stable (place a)).symm

/-! ### Ranks of values -/

/-- Whether the value is absent, or of the kind and, if a number, an integer. -/
def Kind.covers : Kind → Value → Bool
  | _, .absent => true
  | .text, .text _ => true
  | .number, .number n => n.toInt?.isSome
  | .char, .char _ => true
  | .bool, .bool _ => true
  | .enum _, .ordinal _ => true
  | _, _ => false

/-- **The rank of a value** among the values of its kind. Absent values come first. Texts have the
list of their code points, integers their value, signed or unsigned, characters their code point,
and ordinals and booleans their number. Floats have no rank of their own. -/
def Value.rank : Value → WithBot (List ℤ)
  | .absent => ⊥
  | .text t => (t.map fun c => (c.toNat : ℤ) : List ℤ)
  | .number n => ([n.toInt?.getD 0] : List ℤ)
  | .char c => ([(c.toNat : ℤ)] : List ℤ)
  | .ordinal n => ([(n.toNat : ℤ)] : List ℤ)
  | .bool b => ([(b.toNat : ℤ)] : List ℤ)

section Compares

variable [LinearOrder κ]

theorem compares_compare (x y : κ) : (compare x y).Compares x y := by
  cases h : compare x y with
  | lt => exact compare_lt_iff_lt.1 h
  | eq => exact compare_eq_iff_eq.1 h
  | gt => exact compare_gt_iff_gt.1 h

/-- The heads of two lists decide first. -/
theorem compares_cons {o rest : Ordering} {x y : κ} {xs ys : List κ} (h : o.Compares x y)
    (hrest : rest.Compares xs ys) : (o.then rest).Compares (x :: xs) (y :: ys) := by
  cases o with
  | lt => exact List.cons_lt_cons_iff.2 (.inl h)
  | gt => exact List.cons_lt_cons_iff.2 (.inl h)
  | eq =>
    obtain rfl : x = y := h
    cases rest with
    | lt => exact List.cons_lt_cons_iff.2 (.inr ⟨rfl, hrest⟩)
    | eq => exact congrArg (x :: ·) hrest
    | gt => exact List.cons_lt_cons_iff.2 (.inr ⟨rfl, hrest⟩)

theorem compares_singleton {o : Ordering} {x y : κ} (h : o.Compares x y) :
    o.Compares [x] [y] := by
  have hnil : Ordering.eq.Compares ([] : List κ) [] := rfl
  have hlist := compares_cons h hnil
  rwa [Ordering.then_eq] at hlist

theorem compares_coe {o : Ordering} {x y : κ} (h : o.Compares x y) :
    o.Compares (x : WithBot κ) (y : WithBot κ) := by
  cases o with
  | lt => exact WithBot.coe_lt_coe.2 h
  | eq => exact congrArg _ h
  | gt => exact WithBot.coe_lt_coe.2 h

end Compares

theorem compares_natCast (m n : ℕ) : (compare m n).Compares (m : ℤ) (n : ℤ) := by
  rw [← Number.compare_natCast]
  exact compares_compare (m : ℤ) (n : ℤ)

/-- Values with a number as their code are compared by it. -/
theorem compares_code (m n : ℕ) : (compare m n).Compares
    (([(m : ℤ)] : List ℤ) : WithBot (List ℤ)) (([(n : ℤ)] : List ℤ) : WithBot (List ℤ)) :=
  compares_coe (compares_singleton (compares_natCast m n))

/-- Texts compare as the lists of their code points. -/
theorem Text.compares_order (s t : Text) : (Text.order s t).Compares
    (s.map fun c => (c.toNat : ℤ)) (t.map fun c => (c.toNat : ℤ)) := by
  induction s generalizing t with
  | nil =>
    cases t with
    | nil => exact rfl
    | cons d t => exact List.nil_lt_cons ..
  | cons c s ih =>
    cases t with
    | nil => exact List.nil_lt_cons ..
    | cons d t => exact compares_cons (compares_natCast c.toNat d.toNat) (ih t)

/-- **Values of one kind compare by their ranks**, and always do. -/
theorem Value.exists_compare?_of_covers {kind : Kind} {v w : Value} (hv : kind.covers v = true)
    (hw : kind.covers w = true) : ∃ o, v.compare? w = some o ∧ o.Compares v.rank w.rank := by
  cases v with
  | absent =>
    cases w with
    | absent => exact ⟨.eq, rfl, rfl⟩
    | _ => exact ⟨.lt, rfl, WithBot.bot_lt_coe _⟩
  | text s =>
    cases w with
    | absent => exact ⟨.gt, rfl, WithBot.bot_lt_coe _⟩
    | text t => exact ⟨_, rfl, compares_coe (Text.compares_order s t)⟩
    | _ => cases kind <;> simp [Kind.covers] at hv hw
  | number m =>
    cases w with
    | absent => exact ⟨.gt, rfl, WithBot.bot_lt_coe _⟩
    | number n =>
      have hkind : kind = .number := by cases kind <;> simp [Kind.covers] at hv ⊢
      subst hkind
      -- both are integers, and signed and unsigned ones compare by value
      obtain ⟨i, hi⟩ := Option.isSome_iff_exists.1 hv
      obtain ⟨j, hj⟩ := Option.isSome_iff_exists.1 hw
      refine ⟨compare i j, Number.compare?_whole hi hj, ?_⟩
      rw [rank, rank, hi, hj]
      exact compares_coe (compares_singleton (compares_compare i j))
    | _ => cases kind <;> simp [Kind.covers] at hv hw
  | char c =>
    cases w with
    | absent => exact ⟨.gt, rfl, WithBot.bot_lt_coe _⟩
    | char d => exact ⟨_, rfl, compares_code c.toNat d.toNat⟩
    | _ => cases kind <;> simp [Kind.covers] at hv hw
  | ordinal m =>
    cases w with
    | absent => exact ⟨.gt, rfl, WithBot.bot_lt_coe _⟩
    | ordinal n => exact ⟨_, rfl, compares_code m.toNat n.toNat⟩
    | _ => cases kind <;> simp [Kind.covers] at hv hw
  | bool a =>
    cases w with
    | absent => exact ⟨.gt, rfl, WithBot.bot_lt_coe _⟩
    | bool b => exact ⟨_, rfl, compares_code a.toNat b.toNat⟩
    | _ => cases kind <;> simp [Kind.covers] at hv hw

/-! ### Ranks of rows -/

/-- The values in the column are absent or of the kind of the field, and integers if they are
numbers. -/
def Field.Uniform (f : Field ρ) (rows : List ρ) : Prop :=
  ∃ kind : Kind, ∀ row ∈ rows, kind.covers (f.read row) = true

theorem Field.Uniform.mono {f : Field ρ} {rows others : List ρ} (h : f.Uniform rows)
    (hsub : ∀ row ∈ others, row ∈ rows) : f.Uniform others := by
  obtain ⟨kind, hkind⟩ := h
  exact ⟨kind, fun row hrow => hkind row (hsub row hrow)⟩

/-- The rank of a row: the ranks of its values in the columns. -/
def rowRank (fields : List (Field ρ)) (row : ρ) : List (WithBot (List ℤ)) :=
  fields.map fun f => (f.read row).rank

/-- **Rows compare by their ranks**, if the columns are uniform. -/
theorem compares_compareByKeys {fields : List (Field ρ)} {rows : List ρ}
    (h : ∀ f ∈ fields, f.Uniform rows) {a b : ρ} (ha : a ∈ rows) (hb : b ∈ rows) :
    (compareByKeys (fields.map fun f => ⟨f.read, .ascending⟩) a b).Compares
      (rowRank fields a) (rowRank fields b) := by
  induction fields with
  | nil => exact rfl
  | cons f fields ih =>
    obtain ⟨kind, hkind⟩ := h f (List.mem_cons_self ..)
    obtain ⟨o, ho, hplaces⟩ := Value.exists_compare?_of_covers (hkind a ha) (hkind b hb)
    have hfirst : SortKey.compare? (⟨f.read, .ascending⟩ : SortKey ρ) a b = some o := by
      rw [SortKey.compare?, ho]
      rfl
    -- the first field decides unless its values are equal, as in the order of lists
    rw [List.map_cons, compareByKeys_cons, hfirst]
    exact compares_cons hplaces (ih fun g hg => h g (List.mem_cons_of_mem f hg))

/-- Applying the direction to each key is applying it to the outcome. -/
theorem compareByKeys_direction (d : Direction) (fields : List (Field ρ)) (a b : ρ) :
    compareByKeys (fields.map fun f => ⟨f.read, d⟩) a b =
      d.apply (compareByKeys (fields.map fun f => ⟨f.read, .ascending⟩) a b) := by
  cases d with
  | ascending => rfl
  | descending =>
    induction fields with
    | nil => rfl
    | cons f fields ih =>
      rw [List.map_cons, List.map_cons, compareByKeys_cons, compareByKeys_cons, ih,
        SortKey.compare?, SortKey.compare?]
      -- values that do not compare are equal in both directions
      cases (f.read a).compare? (f.read b) with
      | none => rfl
      | some o => cases o <;> rfl

/-- Comparing rows with `compareByKeys` is comparing their ranks in the direction of the sort. -/
theorem comparesPlaces_compareByKeys {fields : List (Field ρ)} {rows : List ρ}
    (h : ∀ f ∈ fields, f.Uniform rows) (d : Direction) :
    ComparesPlaces d (rowRank fields) (compareByKeys (fields.map fun f => ⟨f.read, d⟩)) rows := by
  intro a ha b hb
  have hplaces := compares_compareByKeys h ha hb
  rw [compareByKeys_direction]
  cases d with
  | ascending => exact hplaces
  | descending =>
    rw [Direction.apply, Direction.apply, Ordering.swap_swap]
    exact hplaces

/-! ### Sorts of targets -/

/-- The fields of the columns that resolve, in order. -/
def Sorting.fields (resolve : Resolver ρ) (s : Sorting) : List (Field ρ) :=
  s.columns.filterMap resolve

theorem Sorting.keys_eq (resolve : Resolver ρ) (s : Sorting) :
    s.keys resolve =
      (s.fields resolve).map fun f => ⟨f.read, Direction.ofDescending s.descending⟩ := by
  rw [keys, fields, List.map_filterMap]

/-- Without a column that resolves, a sort is the identity. -/
theorem Sorting.apply_of_fields_eq_nil {τ : Type → Type} [Target τ] {resolve : Resolver ρ}
    {s : Sorting} (h : s.fields resolve = []) (t : τ ρ) : s.apply resolve t = t := by
  rw [apply, s.keys_eq, h]
  rfl

/-- A sort depends on its fields and its direction only. -/
theorem Sorting.apply_congr {τ : Type → Type} [Target τ] {resolve : Resolver ρ}
    {s other : Sorting} (hfields : other.fields resolve = s.fields resolve)
    (hdirection : other.descending = s.descending) (t : τ ρ) :
    other.apply resolve t = s.apply resolve t := by
  rw [apply, apply, s.keys_eq, other.keys_eq, hfields, hdirection]

/-- **A sort of a lawful target is a stable sort by ranks**, if its fields are uniform. -/
theorem Sorting.stablySorted_apply {τ : Type → Type} [Target τ] [LawfulTarget τ]
    {resolve : Resolver ρ} {s : Sorting} {t : τ ρ}
    (h : ∀ f ∈ s.fields resolve, f.Uniform (Target.rows t)) :
    StablySorted (Direction.ofDescending s.descending) (rowRank (s.fields resolve))
      (Target.rows t) (Target.rows (s.apply resolve t)) := by
  refine (s.isStableSort_apply resolve t).stablySorted ?_
  rw [s.keys_eq]
  exact comparesPlaces_compareByKeys h _

/-- **A sort is the stable sort by the ranks of its rows**, on every lawful target, if its fields
are uniform. Columns that do not resolve have no influence: sorts with the same fields and direction
agree, and a sort without fields is the identity. -/
theorem sort_stablySorted {τ : Type → Type} [Target τ] [LawfulTarget τ] (resolve : Resolver ρ)
    (s : Sorting) (t : τ ρ) (h : ∀ f ∈ s.fields resolve, f.Uniform (Target.rows t)) :
    StablySorted (Direction.ofDescending s.descending) (rowRank (s.fields resolve))
      (Target.rows t) (Target.rows ((Operation.sort s).apply resolve t)) ∧
    (∀ other : Sorting, other.descending = s.descending →
      other.fields resolve = s.fields resolve →
      (Operation.sort other).apply resolve t = (Operation.sort s).apply resolve t) ∧
    ((∀ column ∈ s.columns, resolve column = none) → (Operation.sort s).apply resolve t = t) := by
  refine ⟨?_, ?_, ?_⟩
  · exact Sorting.stablySorted_apply h
  · intro other hdirection hfields
    exact Sorting.apply_congr hfields hdirection t
  · intro hunknown
    exact Sorting.apply_of_fields_eq_nil (List.filterMap_eq_nil_iff.2 hunknown) t

/-- A descending sort of signed and unsigned integers, one of them above the maximum of `Int64`,
with absent values last. Two rows with the same number differ in the second column, two others are
equal and keep their order, and a third column does not resolve. -/
theorem sort_stablySorted_downwards :
    let schema : Schema (Value × Value × Nat) :=
      (Schema.empty.optionalField "size".toList .number fun row => row.1).optionalField
        "grade".toList .char fun row => row.2.1
    let resolve := schema.resolve
    let s : Sorting := ⟨["size".toList, "color".toList, "grade".toList], true, by decide,
      by decide +kernel⟩
    let rows : List (Value × Value × Nat) := [
      (.absent, .char 'b', 0),
      (.number (.signed 7), .absent, 1),
      (.number (.unsigned 7), .char 'a', 2),
      (.number (.unsigned 9223372036854775808), .char 'a', 3),
      (.number (.signed (-1)), .char 'é', 4),
      (.number (.signed 7), .char 'a', 5)]
    let sorted := (Operation.sort s).apply resolve rows
    sorted.map (fun row => row.2.2) = [3, 2, 5, 1, 4, 0] ∧
      StablySorted .descending (rowRank (s.fields resolve)) rows sorted := by
  intro schema resolve s rows sorted
  have huniform : ∀ f ∈ s.fields resolve, f.Uniform rows := by
    have hfields : s.fields resolve = [⟨"size".toList, .number, true, fun row => row.1⟩,
      ⟨"grade".toList, .char, true, fun row => row.2.1⟩] := by rfl
    rw [hfields]
    refine List.forall_mem_cons.2 ⟨⟨.number, by decide⟩, List.forall_mem_singleton.2 ?_⟩
    exact ⟨.char, by decide⟩
  exact ⟨by decide +kernel, (sort_stablySorted resolve s rows huniform).1⟩

end RecordQuery

import RecordQuery.Value

/-!
# Order of records

A `SortKey` reads a value of a record and has a `Direction`. `compareByKeys` compares two records
by a list of keys: the first key whose values compare as different decides, and where
`Value.compare?` is `none` the next key does.

Rows are sorted by a `SortMethod`, of which no more is known than `IsStableSort`. This contract
fixes the result only if the comparison is a total preorder of the rows (`TotalOn`), and
`compareByKeys` is none on some rows: values that are not comparable count as equal.
-/

namespace RecordQuery

/-- The direction of a sort. -/
inductive Direction where
  | ascending
  | descending
  deriving DecidableEq

/-- The direction that a descending flag stands for. -/
def Direction.ofDescending (descending : Bool) : Direction :=
  if descending then .descending else .ascending

/-- Applies the direction to an ordering. -/
def Direction.apply : Direction → Ordering → Ordering
  | .ascending, o => o
  | .descending, o => o.swap

/-! ### Sort keys -/

/-- A way to read a value of a record, and the direction in which it is ordered. -/
structure SortKey (ρ : Type) where
  read : ρ → Value
  direction : Direction

variable {ρ : Type}

/-- Compares two records by one key, if their values can be compared. -/
def SortKey.compare? (key : SortKey ρ) (a b : ρ) : Option Ordering :=
  ((key.read a).compare? (key.read b)).map key.direction.apply

/-- Compares two records by the first key that tells them apart. -/
def compareByKeys : List (SortKey ρ) → ρ → ρ → Ordering
  | [], _, _ => .eq
  | key :: keys, a, b =>
    match key.compare? a b with
    -- values that are not comparable count as equal
    | none => compareByKeys keys a b
    | some .eq => compareByKeys keys a b
    | some o => o

@[simp] theorem compareByKeys_nil (a b : ρ) : compareByKeys [] a b = .eq := rfl

theorem compareByKeys_cons (key : SortKey ρ) (keys : List (SortKey ρ)) (a b : ρ) :
    compareByKeys (key :: keys) a b =
      ((key.compare? a b).getD .eq).then (compareByKeys keys a b) := by
  rw [compareByKeys]
  cases key.compare? a b with
  | none => rfl
  | some o => cases o <;> rfl

/-! ### Stable sorts -/

/-- Transitivity of "not greater" on the rows. -/
def TransitiveOn (order : ρ → ρ → Ordering) (rows : List ρ) : Prop :=
  ∀ a ∈ rows, ∀ b ∈ rows, ∀ c ∈ rows, order a b ≠ .gt → order b c ≠ .gt → order a c ≠ .gt

/-- The comparison `order` is a total preorder of the rows: `order b a` is `order a b` reversed, and
`order` is transitive. -/
structure TotalOn (order : ρ → ρ → Ordering) (rows : List ρ) : Prop where
  swap : ∀ a ∈ rows, ∀ b ∈ rows, order b a = (order a b).swap
  trans : TransitiveOn order rows

theorem TotalOn.mono {order : ρ → ρ → Ordering} {rows others : List ρ} (h : TotalOn order rows)
    (hsub : ∀ a ∈ others, a ∈ rows) : TotalOn order others where
  swap a ha b hb := h.swap a (hsub a ha) b (hsub b hb)
  trans a ha b hb c hc := h.trans a (hsub a ha) b (hsub b hb) c (hsub c hc)

/-- A row is equal to itself. -/
theorem TotalOn.self {order : ρ → ρ → Ordering} {rows : List ρ} (h : TotalOn order rows) {a : ρ}
    (ha : a ∈ rows) : order a a = .eq := by
  have hself := h.swap a ha a ha
  revert hself
  cases order a a <;> decide

/-- **The contract of a stable sort.** `sorted` is a permutation of `rows`. If `order` is a total
preorder of the rows, `sorted` is in order, and rows that compare as equal keep their order. For
any other `order` no permutation is excluded. -/
structure IsStableSort (order : ρ → ρ → Ordering) (rows sorted : List ρ) : Prop where
  perm : sorted.Perm rows
  ordered : TotalOn order rows → sorted.Pairwise fun a b => order a b ≠ .gt
  stable : TotalOn order rows → ∀ a ∈ rows,
    (sorted.filter fun b => order a b = .eq) = rows.filter fun b => order a b = .eq

/-- The contract for indices is the contract for the rows that they index. -/
theorem IsStableSort.map {ι : Type} {order : ρ → ρ → Ordering} {read : ι → ρ}
    {places sorted : List ι} (h : IsStableSort (fun i j => order (read i) (read j)) places sorted) :
    IsStableSort order (places.map read) (sorted.map read) := by
  -- the two comparisons agree, so one is a total preorder where the other one is
  have htotal (hrows : TotalOn order (places.map read)) :
      TotalOn (fun i j => order (read i) (read j)) places :=
    ⟨fun i hi j hj => hrows.swap _ (List.mem_map_of_mem hi) _ (List.mem_map_of_mem hj),
      fun i hi j hj k hk => hrows.trans _ (List.mem_map_of_mem hi) _ (List.mem_map_of_mem hj) _
        (List.mem_map_of_mem hk)⟩
  refine ⟨h.perm.map read, fun hrows => ?_, fun hrows a ha => ?_⟩
  · exact List.pairwise_map.2 (h.ordered (htotal hrows))
  · obtain ⟨i, hi, rfl⟩ := List.mem_map.1 ha
    rw [List.filter_map, List.filter_map]
    exact congrArg (List.map read) (h.stable (htotal hrows) i hi)

/-- A method of sorting, one for each type of rows. Where its contract does not fix the result, this
may depend on the type. A method that gives up on an `order` that is not a total preorder is not
among them. -/
class SortMethod where
  sort {ρ : Type} (order : ρ → ρ → Ordering) (rows : List ρ) : List ρ
  isStableSort {ρ : Type} (order : ρ → ρ → Ordering) (rows : List ρ) :
    IsStableSort order rows (sort order rows)

end RecordQuery

import RecordQuery.Order

/-!
# Targets

A `Target` is a collection of rows that can be filtered, sorted, skipped and taken. `Target.rows`
is the list of its rows, and `LawfulTarget` says what the operations do to this list: `keep`,
`skip` and `take` are `List.filter`, `List.drop` and `List.take`, and `sort` satisfies the contract
`IsStableSort`.

Two targets are here. A list of rows is sorted by the `SortMethod`. A `Selection` leaves the rows
in an array and holds their indices, and the `SortMethod` sorts the indices. So the two are sorted
alike where `IsStableSort` fixes the result.
-/

namespace RecordQuery

/-! ### Targets and their laws -/

/-- A collection of rows to which operations can be applied. -/
class Target (τ : Type → Type) where
  /-- The rows of the target. -/
  rows {ρ : Type} : τ ρ → List ρ
  /-- Keeps the rows for which `test` is true. -/
  keep {ρ : Type} (test : ρ → Bool) : τ ρ → τ ρ
  /-- Sorts the rows by `order`; rows that are equal by it keep their order. -/
  sort {ρ : Type} (order : ρ → ρ → Ordering) : τ ρ → τ ρ
  /-- Drops the first `count` rows, all of them if there are fewer. -/
  skip {ρ : Type} (count : Nat) : τ ρ → τ ρ
  /-- Keeps at most the first `count` rows. -/
  take {ρ : Type} (count : Nat) : τ ρ → τ ρ

/-- The operations of a target are those of lists on its rows, and its sort is stable. -/
class LawfulTarget (τ : Type → Type) [Target τ] : Prop where
  rows_keep {ρ : Type} (test : ρ → Bool) (t : τ ρ) :
    Target.rows (Target.keep test t) = (Target.rows t).filter test
  rows_sort {ρ : Type} (order : ρ → ρ → Ordering) (t : τ ρ) :
    IsStableSort order (Target.rows t) (Target.rows (Target.sort order t))
  rows_skip {ρ : Type} (count : Nat) (t : τ ρ) :
    Target.rows (Target.skip count t) = (Target.rows t).drop count
  rows_take {ρ : Type} (count : Nat) (t : τ ρ) :
    Target.rows (Target.take count t) = (Target.rows t).take count

/-! ### Lists of rows -/

instance [SortMethod] : Target List where
  rows t := t
  keep test t := t.filter test
  sort order t := SortMethod.sort order t
  skip count t := t.drop count
  take count t := t.take count

instance [SortMethod] : LawfulTarget List where
  rows_keep _ _ := rfl
  rows_sort order t := SortMethod.isStableSort order t
  rows_skip _ _ := rfl
  rows_take _ _ := rfl

@[simp] theorem Target.rows_list [SortMethod] {ρ : Type} (t : List ρ) : Target.rows t = t := rfl

/-! ### Selections -/

/-- Rows of an array, given by their indices. -/
structure Selection (ρ : Type) where
  store : Array ρ
  places : List (Fin store.size)

namespace Selection

variable {ρ : Type}

/-- All rows of an array, in the order of the array. -/
def all (store : Array ρ) : Selection ρ := ⟨store, List.finRange store.size⟩

/-- The rows of a selection. -/
def rows (s : Selection ρ) : List ρ := s.places.map fun i => s.store[i]

end Selection

instance [SortMethod] : Target Selection where
  rows := Selection.rows
  keep test s := ⟨s.store, s.places.filter fun i => test s.store[i]⟩
  -- this sort is that of another type than in a list of rows, so it may be another sort
  sort order s := ⟨s.store, SortMethod.sort (fun i j => order s.store[i] s.store[j]) s.places⟩
  skip count s := ⟨s.store, s.places.drop count⟩
  take count s := ⟨s.store, s.places.take count⟩

instance [SortMethod] : LawfulTarget Selection where
  rows_keep test s := by
    simp only [Target.rows, Target.keep, Selection.rows, List.filter_map]
    rfl
  rows_sort order s :=
    (SortMethod.isStableSort (fun i j => order s.store[i] s.store[j]) s.places).map
  rows_skip count s := List.map_drop ..
  rows_take count s := List.map_take ..

end RecordQuery

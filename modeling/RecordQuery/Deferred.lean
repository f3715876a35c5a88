import RecordQuery.Target

/-!
# Deferred rows

A `Deferred` reads the rows of a `Source` one at a time, and only when it is pulled. Filters, skips
and takes are kept as a list of `Stage`s, and each row that is read is fed through them in order
(`Stage.feed`). Behind a take of zero no row can pass, and then nothing is read (`Deferred.step`).

A sort needs all rows: it drains the deferred rows and goes on with the sorted rows as its source,
from which reads are not counted.

`Deferred.drain` pulls all rows. They are the rows that are left in the source, put through the
stages as lists (`Deferred.rows_eq`), so `Deferred` is a lawful target.
-/

namespace RecordQuery

variable {ρ : Type}

/-! ### Sources -/

/-- Rows by index. -/
structure Source (ρ : Type) where
  size : Nat
  item : Fin size → ρ

namespace Source

/-- The rows of a list. -/
def ofList (rows : List ρ) : Source ρ := ⟨rows.length, rows.get⟩

/-- The rows from an index on. -/
def startingAt (s : Source ρ) (position : Nat) : List ρ :=
  if h : position < s.size then s.item ⟨position, h⟩ :: s.startingAt (position + 1) else []
termination_by s.size - position

/-- The integers from `start` up to and without `stop`. -/
def range (start stop : Int) : Source Int :=
  ⟨(stop - start).toNat, fun i => start + i.val⟩

theorem startingAt_of_lt (s : Source ρ) {position : Nat} (h : position < s.size) :
    s.startingAt position = s.item ⟨position, h⟩ :: s.startingAt (position + 1) := by
  rw [startingAt, dif_pos h]

theorem startingAt_of_not_lt (s : Source ρ) {position : Nat} (h : ¬ position < s.size) :
    s.startingAt position = [] := by
  rw [startingAt, dif_neg h]

/-- The rows of `ofList` are the rows of the list. -/
theorem startingAt_ofList (rows : List ρ) (position : Nat) :
    (ofList rows).startingAt position = rows.drop position := by
  by_cases h : position < rows.length
  · rw [startingAt_of_lt _ h, startingAt_ofList rows (position + 1), List.drop_eq_getElem_cons h]
    rfl
  · rw [startingAt_of_not_lt _ h, List.drop_eq_nil_of_le (by omega)]
termination_by rows.length - position

end Source

/-! ### Stages -/

/-- A filter, a skip or a take on the way of the rows. -/
inductive Stage (ρ : Type) where
  | keep (test : ρ → Bool)
  /-- The next `count` rows are dropped. -/
  | skip (count : Nat)
  /-- At most `count` more rows pass. -/
  | take (count : Nat)

namespace Stage

/-- Whether no row can pass: a take of zero. -/
def isClosed : Stage ρ → Bool
  | .take 0 => true
  | _ => false

/-- Feeds a row through the stages: the stages afterwards, and the row if it passes. -/
def feed : List (Stage ρ) → ρ → List (Stage ρ) × Option ρ
  | [], row => ([], some row)
  | .keep test :: stages, row =>
    if test row then ((feed stages row).map (.keep test :: ·) id) else (.keep test :: stages, none)
  -- a skip of zero is used up, and stays in its place
  | .skip 0 :: stages, row => (feed stages row).map (.skip 0 :: ·) id
  | .skip (n + 1) :: stages, _ => (.skip n :: stages, none)
  | .take 0 :: stages, _ => (.take 0 :: stages, none)
  | .take (n + 1) :: stages, row => (feed stages row).map (.take n :: ·) id

/-- The rows of a list that pass the stages. -/
def through : List (Stage ρ) → List ρ → List ρ
  | [], rows => rows
  | .keep test :: stages, rows => through stages (rows.filter test)
  | .skip n :: stages, rows => through stages (rows.drop n)
  | .take n :: stages, rows => through stages (rows.take n)

@[simp] theorem through_nil (stages : List (Stage ρ)) : through stages [] = [] := by
  induction stages with
  | nil => rfl
  | cons stage stages ih => cases stage <;> simp [through, ih]

theorem through_append (stages : List (Stage ρ)) (last : Stage ρ) (rows : List ρ) :
    through (stages ++ [last]) rows = through [last] (through stages rows) := by
  induction stages generalizing rows with
  | nil => rfl
  | cons stage stages ih => cases stage <;> exact ih _

/-- No row passes a closed stage. -/
theorem through_of_isClosed {stages : List (Stage ρ)} (h : stages.any isClosed = true)
    (rows : List ρ) : through stages rows = [] := by
  induction stages generalizing rows with
  | nil => simp at h
  | cons stage stages ih =>
    rw [List.any_cons, Bool.or_eq_true] at h
    rcases h with h | h
    · cases stage with
      | keep test => simp [isClosed] at h
      | skip n => simp [isClosed] at h
      | take n =>
        cases n with
        | zero => simp [through]
        | succ n => simp [isClosed] at h
    · cases stage <;> exact ih h _

/-- The first row is fed through the stages, the others through those that are left. -/
theorem through_cons (stages : List (Stage ρ)) (row : ρ) (rows : List ρ) :
    through stages (row :: rows) =
      (feed stages row).2.toList ++ through (feed stages row).1 rows := by
  induction stages generalizing rows with
  | nil => rfl
  | cons stage stages ih =>
    cases stage with
    | keep test =>
      by_cases ht : test row = true
      · simp [through, feed, ht, ih]
      · simp [through, feed, ht]
    | skip n => cases n <;> simp [through, feed, ih]
    | take n => cases n <;> simp [through, feed, ih]

end Stage

/-! ### Deferred rows -/

/-- Rows of a source that are read when they are pulled. -/
structure Deferred (ρ : Type) where
  source : Source ρ
  /-- The index of the next row in the source. -/
  position : Nat
  /-- The stages, the one nearest to the source first. -/
  stages : List (Stage ρ)
  /-- The number of rows read from the first source. -/
  reads : Nat
  /-- Whether the source holds rows that a sort has collected. -/
  buffered : Bool

namespace Deferred

/-- All rows of a source. -/
def ofSource (source : Source ρ) : Deferred ρ := ⟨source, 0, [], 0, false⟩

/-- The number of rows left in the source. -/
def left (d : Deferred ρ) : Nat := d.source.size - d.position

/-- Reads one row from the source and feeds it through the stages, unless the source is at its end
or a stage is closed. Gives the row if it passes. -/
def step (d : Deferred ρ) : Option (Option ρ × Deferred ρ) :=
  if d.stages.any Stage.isClosed then none
  else if h : d.position < d.source.size then
    let fed := Stage.feed d.stages (d.source.item ⟨d.position, h⟩)
    some (fed.2, { d with
      position := d.position + 1
      stages := fed.1
      -- rows that a sort has collected have been read before
      reads := if d.buffered then d.reads else d.reads + 1 })
  else none

theorem left_step {d next : Deferred ρ} {out : Option ρ} (h : d.step = some (out, next)) :
    next.left < d.left := by
  unfold step at h
  split at h
  · simp at h
  · split at h
    · next hlt =>
      simp only [Option.some.injEq, Prod.mk.injEq] at h
      obtain ⟨-, rfl⟩ := h
      simp only [left]
      omega
    · simp at h

/-- Pulls the next row. -/
def pull (d : Deferred ρ) : Option ρ × Deferred ρ :=
  match _h : d.step with
  | none => (none, d)
  | some (some row, next) => (some row, next)
  | some (none, next) => pull next
termination_by d.left
decreasing_by exact left_step _h

/-- Pulls all rows. -/
def drain (d : Deferred ρ) : List ρ × Deferred ρ :=
  match _h : d.step with
  | none => ([], d)
  | some (out, next) => (drain next).map (out.toList ++ ·) id
termination_by d.left
decreasing_by exact left_step _h

/-- The rows that are left, as a list. -/
def rows (d : Deferred ρ) : List ρ := d.drain.1

/-- A lower and an upper bound of the number of rows that are left, from the stages alone. -/
def sizeHint (d : Deferred ρ) : Nat × Nat :=
  d.stages.foldl (fun hint stage =>
    match stage with
    | .keep _ => (0, hint.2)
    | .skip n => (hint.1 - n, hint.2 - n)
    | .take n => (min n hint.1, min n hint.2)) (d.left, d.left)

/-- Adds a stage behind the others. -/
def push (d : Deferred ρ) (stage : Stage ρ) : Deferred ρ :=
  { d with stages := d.stages ++ [stage] }

/-- Drains the rows and goes on with the sorted rows as the source. -/
def sort [SortMethod] (order : ρ → ρ → Ordering) (d : Deferred ρ) : Deferred ρ :=
  -- the stages have been applied to the rows that are drained
  { source := .ofList (SortMethod.sort order d.drain.1)
    position := 0
    stages := []
    reads := d.drain.2.reads
    buffered := true }

/-! ### The rows that are left -/

/-- The rows that are left are those of the source, put through the stages. -/
theorem rows_eq (d : Deferred ρ) :
    d.rows = Stage.through d.stages (d.source.startingAt d.position) := by
  unfold rows
  -- by recursion on the rows that are left, as `drain` does; a step that gives no row is at a
  -- closed stage or at the end of the source
  rw [drain]
  split
  · next h =>
    unfold step at h
    split at h
    · next hclosed => rw [Stage.through_of_isClosed hclosed]
    · split at h
      · simp at h
      · next hend => rw [Source.startingAt_of_not_lt _ hend, Stage.through_nil]
  · next out next h =>
    have _smaller := left_step h
    have ih := rows_eq next
    unfold rows at ih
    unfold step at h
    split at h
    · simp at h
    · split at h
      · next hlt =>
        simp only [Option.some.injEq, Prod.mk.injEq] at h
        obtain ⟨rfl, rfl⟩ := h
        rw [Source.startingAt_of_lt _ hlt, Stage.through_cons, Prod.map_fst, ih]
      · simp at h
termination_by d.left
decreasing_by exact _smaller

theorem rows_push (d : Deferred ρ) (stage : Stage ρ) :
    (d.push stage).rows = Stage.through [stage] d.rows := by
  simp only [rows_eq, push, Stage.through_append]

/-- Deferred rows are sorted as their list is, for every `order`. -/
theorem rows_sort [SortMethod] (order : ρ → ρ → Ordering) (d : Deferred ρ) :
    (d.sort order).rows = SortMethod.sort order d.rows := by
  rw [rows_eq]
  exact (Source.startingAt_ofList _ 0).trans List.drop_zero

end Deferred

instance [SortMethod] : Target Deferred where
  rows := Deferred.rows
  keep test d := d.push (.keep test)
  sort := Deferred.sort
  skip count d := d.push (.skip count)
  take count d := d.push (.take count)

instance [SortMethod] : LawfulTarget Deferred where
  rows_keep test d := Deferred.rows_push d (.keep test)
  rows_sort order d := by
    change IsStableSort order d.rows (d.sort order).rows
    rw [Deferred.rows_sort]
    exact SortMethod.isStableSort order d.rows
  rows_skip count d := Deferred.rows_push d (.skip count)
  rows_take count d := Deferred.rows_push d (.take count)

end RecordQuery

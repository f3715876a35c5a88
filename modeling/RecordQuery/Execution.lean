import RecordQuery.Deferred
import RecordQuery.InsertionSort
import RecordQuery.Predicate
import RecordQuery.Query.Compile

/-!
# Running queries

`run` applies the operations of a query to a target in order. An operation that does not apply
leaves the target as it is: a filter for which `Predicate.bind?` is `none`, a sort none of whose
columns resolves, and `Limit.unbounded`. Columns that do not resolve are not among the keys of a
sort (`Sorting.keys`).

An operation other than a sort does to the rows of every lawful target what it does to a list of
rows (`rows_apply`).
-/

namespace RecordQuery

variable {ρ : Type}

/-! ### Operations on targets -/

/-- The keys of the columns that resolve. -/
def Sorting.keys (resolve : Resolver ρ) (s : Sorting) : List (SortKey ρ) :=
  s.columns.filterMap fun column =>
    (resolve column).map fun f => ⟨f.read, Direction.ofDescending s.descending⟩

/-- Sorts by the columns that resolve, if there are any. -/
def Sorting.apply {τ : Type → Type} [Target τ] (resolve : Resolver ρ) (s : Sorting) (t : τ ρ) :
    τ ρ :=
  let keys := s.keys resolve
  -- without keys a sort would not change the rows, but read all those of a `Deferred`
  if keys.isEmpty then t else Target.sort (compareByKeys keys) t

/-- Keeps the rows for which the filter holds, if it binds. -/
def Filter.apply {τ : Type → Type} [Target τ] (resolve : Resolver ρ) (f : Filter) (t : τ ρ) :
    τ ρ :=
  match Predicate.bind? resolve f with
  | some p => Target.keep p.holds t
  | none => t

/-- Applies one operation. -/
def Operation.apply {τ : Type → Type} [Target τ] (resolve : Resolver ρ) (op : Operation)
    (t : τ ρ) : τ ρ :=
  match op with
  | .sort s => s.apply resolve t
  | .skip count => Target.skip count.toNat t
  | .take (.count n) => Target.take n.toNat t
  | .take .unbounded => t
  | .page p => Target.take p.take.toNat (Target.skip p.skip.toNat t)
  | .filter f => f.apply resolve t

/-! ### Queries on targets -/

/-- Applies the operations in order. -/
def run {τ : Type → Type} [Target τ] (resolve : Resolver ρ) (operations : List Operation)
    (t : τ ρ) : τ ρ :=
  operations.foldl (fun t op => op.apply resolve t) t

@[simp] theorem run_nil {τ : Type → Type} [Target τ] (resolve : Resolver ρ) (t : τ ρ) :
    run resolve [] t = t := rfl

@[simp] theorem run_cons {τ : Type → Type} [Target τ] (resolve : Resolver ρ) (op : Operation)
    (operations : List Operation) (t : τ ρ) :
    run resolve (op :: operations) t = run resolve operations (op.apply resolve t) := rfl

theorem run_append {τ : Type → Type} [Target τ] (resolve : Resolver ρ)
    (first second : List Operation) (t : τ ρ) :
    run resolve (first ++ second) t = run resolve second (run resolve first t) :=
  List.foldl_append

/-- Compiles a query in the default dialect and runs it. -/
def answer {τ : Type → Type} [Target τ] (resolve : Resolver ρ) (query : Text) (t : τ ρ) :
    Except QueryError (τ ρ) :=
  (compile {} query).map fun operations => run resolve operations t

/-! ### Rows of the result -/

/-- One operation does to the rows of a lawful target what it does to a list of rows, unless it is a
sort that sorts the two differently. -/
theorem rows_apply [SortMethod] {τ : Type → Type} [Target τ] [LawfulTarget τ]
    (resolve : Resolver ρ) (op : Operation) (t : τ ρ)
    (hsort : ∀ s, op = .sort s →
      Target.rows (s.apply resolve t) = s.apply resolve (Target.rows t)) :
    Target.rows (op.apply resolve t) = op.apply resolve (Target.rows t) := by
  cases op with
  | sort s => exact hsort s rfl
  | skip count => exact LawfulTarget.rows_skip ..
  | take limit =>
    cases limit with
    | count n => exact LawfulTarget.rows_take ..
    | unbounded => rfl
  | page p =>
    exact (LawfulTarget.rows_take ..).trans (congrArg _ (LawfulTarget.rows_skip ..))
  | filter f =>
    simp only [Operation.apply, Filter.apply]
    split
    · exact LawfulTarget.rows_keep ..
    · rfl

end RecordQuery

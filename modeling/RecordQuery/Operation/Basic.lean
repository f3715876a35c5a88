import RecordQuery.Error
import RecordQuery.Text.Case

/-!
# Operations

A query is a list of operations that are applied in order: sort by columns, skip rows, take rows,
take one page, or filter by one field.

Operations are valid by construction. The columns of a `Sorting` are lower-cased, and there is at
least one (`Sorting.of?`). A `Page` is made from a page number and a page size of at least one
(`Page.of?`); it holds the number of rows to skip and to take, from which `Page.number` recovers the
page number. A `Filter` may be filled in directly; `Filter.of` makes the canonical one, whose field
and text are lower-cased.
-/

namespace RecordQuery

/-! ### Comparators -/

/-- The comparators of filters. -/
inductive Comparator where
  | equals
  /-- The rendered value contains the text of the filter. -/
  | like
  | greaterThan
  | greaterThanEqual
  | lessThan
  | lessThanEqual
  | not
  deriving DecidableEq

namespace Comparator

/-- All comparators. -/
def all : List Comparator :=
  [.equals, .like, .greaterThan, .greaterThanEqual, .lessThan, .lessThanEqual, .not]

/-- The token of the comparator in a query. -/
def token : Comparator → Text
  | .equals => "equals".toList
  | .like => "like".toList
  | .greaterThan => "greaterthan".toList
  | .greaterThanEqual => "greaterthanequal".toList
  | .lessThan => "lessthan".toList
  | .lessThanEqual => "lessthanequal".toList
  | .not => "not".toList

/-- The comparator with the token, up to the case of `A` to `Z`. -/
def ofToken? (t : Text) : Option Comparator := all.find? fun c => c.token.sameLetters t

/-- Whether the comparator needs a kind with an order. -/
def isOrdinal : Comparator → Bool
  | .greaterThan | .greaterThanEqual | .lessThan | .lessThanEqual => true
  | .equals | .like | .not => false

theorem mem_all (c : Comparator) : c ∈ all := by cases c <;> decide

@[simp] theorem ofToken?_token (c : Comparator) : ofToken? c.token = some c := by
  cases c <;> decide

end Comparator

/-! ### Filters -/

/-- The value of a filter: text or null. -/
inductive FilterValue where
  | text (t : Text)
  | null
  deriving DecidableEq

namespace FilterValue

/-- Whether the value is null. -/
def isNull : FilterValue → Bool
  | .null => true
  | .text _ => false

/-- Lower-cases the text. -/
def lower : FilterValue → FilterValue
  | .text t => .text t.lower
  | .null => .null

end FilterValue

/-- A filter on one field. -/
structure Filter where
  field : Text
  comparator : Comparator
  value : FilterValue
  deriving DecidableEq

/-- The canonical filter: the field and the text are lower-cased. -/
def Filter.of (field : Text) (comparator : Comparator) (value : FilterValue) : Filter where
  field := field.lower
  comparator := comparator
  value := value.lower

/-! ### Sorts -/

/-- A sort by one or more columns in one direction. -/
structure Sorting where
  columns : List Text
  descending : Bool
  columns_ne_nil : columns ≠ []
  lower_columns : ∀ c ∈ columns, c.lower = c
  deriving DecidableEq

/-- The sort by the lower-cased columns; an error without columns. -/
def Sorting.of? (columns : List Text) (descending : Bool) : Except QueryError Sorting :=
  if h : columns = [] then .error .noSortColumns
  else
    .ok {
      columns := columns.map Text.lower
      descending := descending
      columns_ne_nil := by simpa using h
      lower_columns := by
        intro c hc
        obtain ⟨d, -, rfl⟩ := List.mem_map.1 hc
        exact Text.lower_lower d }

/-- The columns of a sort make the same sort again. -/
theorem Sorting.of?_columns (s : Sorting) : Sorting.of? s.columns s.descending = .ok s := by
  have hmap : s.columns.map Text.lower = s.columns :=
    (List.map_congr_left s.lower_columns).trans (List.map_id' _)
  simp only [Sorting.of?, s.columns_ne_nil, dite_false, hmap]

/-- A sort that is made has the lower-cased columns and the direction. -/
theorem Sorting.eq_of_of? {columns : List Text} {descending : Bool} {s : Sorting}
    (h : Sorting.of? columns descending = .ok s) :
    s.columns = columns.map Text.lower ∧ s.descending = descending := by
  unfold Sorting.of? at h
  split at h
  · exact absurd h (by simp)
  · obtain rfl := Except.ok.inj h
    exact ⟨rfl, rfl⟩

/-! ### Pages -/

/-- The pages that `Page.of?` makes: there is at least one row and at most `Int64.maxValue` of them,
the rows to skip are a multiple of them, and the number is at most `Int64.maxValue`. -/
def Page.Valid (skip take : UInt64) : Prop :=
  0 < take.toNat ∧ take.toNat ≤ Int64.maxValue.toInt ∧ take.toNat ∣ skip.toNat ∧
    (skip.toNat / take.toNat + 1 : Nat) ≤ Int64.maxValue.toInt

/-- One page: the rows in front of it and the rows on it. -/
@[ext]
structure Page where
  skip : UInt64
  take : UInt64
  valid : Page.Valid skip take
  deriving DecidableEq

/-- The page number, counted from one. -/
def Page.number (p : Page) : Nat := p.skip.toNat / p.take.toNat + 1

theorem Page.valid_of {number size : Int64} (hs : 1 ≤ size.toInt) (hn : 1 ≤ number.toInt)
    (hskip : (number.toInt.toNat - 1) * size.toInt.toNat < UInt64.size) :
    Page.Valid (UInt64.ofNat ((number.toInt.toNat - 1) * size.toInt.toNat))
      (UInt64.ofNat size.toInt.toNat) := by
  have hsize := size.toInt_le
  have hnumber := number.toInt_le
  have hpos : 0 < size.toInt.toNat := by omega
  have htake : (UInt64.ofNat size.toInt.toNat).toNat = size.toInt.toNat :=
    UInt64.toNat_ofNat_of_lt' (by rw [Int64.toInt_maxValue] at hsize; rw [UInt64.size]; omega)
  have hrows : (UInt64.ofNat ((number.toInt.toNat - 1) * size.toInt.toNat)).toNat =
      (number.toInt.toNat - 1) * size.toInt.toNat :=
    UInt64.toNat_ofNat_of_lt' hskip
  refine ⟨?_, ?_, ?_, ?_⟩
  · rw [htake]; exact hpos
  · rw [htake]; omega
  · rw [htake, hrows]; exact Nat.dvd_mul_left ..
  · rw [htake, hrows, Nat.mul_div_cancel _ hpos]; omega

/-- The page with a number, counted from one, and a size. An error if one of them is below one, or
if the rows in front of the page are more than a word of 64 bits counts. -/
def Page.of? (number size : Int64) : Except QueryError Page :=
  -- the size is checked before the number
  if hs : 1 ≤ size.toInt then
    if hn : 1 ≤ number.toInt then
      -- an overflow is reported as a fault of the number
      if hskip : (number.toInt.toNat - 1) * size.toInt.toNat < UInt64.size then
        .ok ⟨_, _, Page.valid_of hs hn hskip⟩
      else .error (.pageNumber number)
    else .error (.pageNumber number)
  else .error (.pageSize size)

/-! ### Operations -/

/-- How many rows a take keeps. -/
inductive Limit where
  | count (n : UInt64)
  | unbounded
  deriving DecidableEq

/-- One operation of a query. -/
inductive Operation where
  | sort (s : Sorting)
  | skip (count : UInt64)
  | take (limit : Limit)
  | page (p : Page)
  | filter (f : Filter)
  deriving DecidableEq

end RecordQuery

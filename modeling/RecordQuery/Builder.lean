import RecordQuery.Operation.Basic
import RecordQuery.Number.Basic

/-!
# Building queries

A `Builder` collects operations in order, as an alternative to compiling a text. A step that would
add an invalid operation is an error, and the builder before it is still there.

The text of a filter is lower-cased. A text that contains a delimiter, or is `nullWord`, does not
compile back from the serialized query; null filters are `filterNull` and `filterNotNull`.
-/

namespace RecordQuery

/-- The operations in the order in which they were added. -/
structure Builder where
  operations : List Operation
  deriving DecidableEq

namespace Builder

/-- The builder without operations. -/
def empty : Builder := ⟨[]⟩

/-- Adds an operation. -/
def push (b : Builder) (op : Operation) : Builder := ⟨b.operations ++ [op]⟩

/-! ### Sorts and pages -/

/-- Adds an ascending sort, the first column first. -/
def sortAscending (b : Builder) (columns : List Text) : Except QueryError Builder :=
  (Sorting.of? columns false).map fun s => b.push (.sort s)

/-- Adds a descending sort, the first column first. -/
def sortDescending (b : Builder) (columns : List Text) : Except QueryError Builder :=
  (Sorting.of? columns true).map fun s => b.push (.sort s)

/-- Adds a skip. -/
def skip (b : Builder) (count : UInt64) : Builder := b.push (.skip count)

/-- Adds a take of at most `count` rows. -/
def take (b : Builder) (count : UInt64) : Builder := b.push (.take (.count count))

/-- Adds a take without a limit. -/
def takeAll (b : Builder) : Builder := b.push (.take .unbounded)

/-- Adds a page by its number, counted from one, and its size. -/
def page (b : Builder) (number size : Int64) : Except QueryError Builder :=
  (Page.of? number size).map fun p => b.push (.page p)

/-! ### Filters -/

/-- Adds a canonical filter. -/
def filter (b : Builder) (field : Text) (c : Comparator) (value : FilterValue) : Builder :=
  b.push (.filter (.of field c value))

/-- Adds the filter for rows in which the field is absent. -/
def filterNull (b : Builder) (field : Text) : Builder := b.filter field .equals .null

/-- Adds the filter for rows in which the field is not absent. -/
def filterNotNull (b : Builder) (field : Text) : Builder := b.filter field .not .null

/-- Adds a filter with a text. -/
def compareText (b : Builder) (c : Comparator) (field value : Text) : Builder :=
  b.filter field c (.text value)

/-- Adds a filter with the text of a number. -/
def compareNumber (b : Builder) (c : Comparator) (field : Text) (value : Number) : Builder :=
  b.filter field c (.text value.toText)

end Builder

end RecordQuery

import RecordQuery.Dialect
import RecordQuery.Operation.Basic

/-!
# Serialization

`Operation.render` is the segment of an operation in a dialect. `serialize` puts a separator in
front of, between and behind the segments, and lower-cases the text; without operations it is the
empty text. The default page size is not rendered.
-/

namespace RecordQuery

/-- The rendered value of a filter. -/
def FilterValue.render (d : Dialect) : FilterValue → Text
  | .text t => t
  | .null => d.nullWord

/-- The columns of a sort behind its marks. -/
def Sorting.render (d : Dialect) (s : Sorting) : Text :=
  d.sortMark ++ (if s.descending then d.descendingMark else []) ++
    [d.listDelimiter].intercalate s.columns

/-- The number of a page, and its size unless it is `defaultPageSize`. -/
def Page.render (d : Dialect) (p : Page) : Text :=
  d.pageMark ++ Text.ofNat p.number ++
    if p.take = d.defaultPageSize then [] else d.innerSeparator :: Text.ofNat p.take.toNat

/-- The count of a take, or `takeAll`. -/
def Limit.render (d : Dialect) : Limit → Text
  | .count n => d.takeMark ++ Text.ofNat n.toNat
  | .unbounded => d.takeMark ++ d.takeAll

/-- The parts of a filter. -/
def Filter.render (d : Dialect) (f : Filter) : Text :=
  f.field ++ d.innerSeparator :: f.comparator.token ++ d.innerSeparator :: f.value.render d

/-- The segment of an operation. The case of letters is kept. -/
def Operation.render (d : Dialect) : Operation → Text
  | .sort s => s.render d
  | .skip count => d.skipMark ++ Text.ofNat count.toNat
  | .take limit => limit.render d
  | .page p => p.render d
  | .filter f => f.render d

/-- The text of a query, lower-cased. -/
def serialize (d : Dialect) (operations : List Operation) : Text :=
  if operations.isEmpty then []
  else
    -- the whole text is lower-cased at once, the marks with the operations
    Text.lower (d.separator ::
      [d.separator].intercalate (operations.map (Operation.render d)) ++ [d.separator])

end RecordQuery

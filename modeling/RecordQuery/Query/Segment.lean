import RecordQuery.Dialect
import RecordQuery.Operation.Basic
import RecordQuery.Parser.Basic

/-!
# Segments

A segment is the text of one operation. The mark at its beginning, up to the case of `A` to `Z`,
selects the row of `Segment.table`: page, skip, take or sort; a segment without a mark is a filter.
A row that is selected by its mark is final.

A segment decodes to an operation, to nothing or to an error (`Segment.Reading`). It decodes to
nothing, and is dropped, if its row does not fit. Page zero and a sort without columns are errors.
-/

namespace RecordQuery.Segment

open RecordQuery.Parser

/-- What a segment decodes to: an operation, nothing, or an error. -/
abbrev Reading := Except QueryError (Option Operation)

/-- Whether the text begins with the mark, up to the case of `A` to `Z`. The test compares the first
`byteSize mark` bytes. -/
def beginsWith (mark text : Text) : Bool :=
  match Text.splitAtByte? (Text.byteSize mark) text with
  | some (head, _) => head.sameLetters mark
  | none => false

/-! ### Parts of a segment -/

/-- Reads the rest of the segment. -/
def remainder : Parser Text := recognize (many item)

/-- Reads up to the next inner separator. -/
def part (inner : Char) : Parser Text := recognize (many (satisfy (· != inner)))

/-- Reads the rest of the segment as its parts. -/
def parts (inner : Char) : Parser (List Text) :=
  bindWith (part inner) (fun _ => many (preceded (satisfy (· == inner)) (part inner)))
    fun first others => first :: others

/-! ### Decoding -/

/-- The default page size, at most `Int64.maxValue`. -/
def defaultSize (d : Dialect) : Int64 :=
  if d.defaultPageSize.toNat ≤ Int64.maxValue.toInt then Int64.ofInt d.defaultPageSize.toNat
  else Int64.maxValue

/-- A page from its number and its size. Text that is no number stands for page one or for the
default size. -/
def readPage (d : Dialect) (number : Text) (size : Option Text) : Reading :=
  let number := (Text.int64? number).getD 1
  let size := (size.bind Text.int64?).getD (defaultSize d)
  (Page.of? number size).map fun p => some (.page p)

/-- A page from its parts, of which there are one or two. -/
def readPageParts (d : Dialect) : List Text → Reading
  | [number] => readPage d number none
  | [number, size] => readPage d number (some size)
  | _ => .ok none

/-- A skip, if the text is a count. -/
def readSkip (count : Text) : Reading := .ok ((Text.word64? count).map .skip)

/-- A take; text that is no count is `Limit.unbounded`. -/
def readTake (limit : Text) : Reading :=
  .ok (some (.take (((Text.word64? limit).map .count).getD .unbounded)))

/-- A sort by the columns that are not empty. -/
def readSort (d : Dialect) (descending : Bool) (columns : Text) : Reading :=
  let columns := (columns.splitOn d.listDelimiter).filter fun c => !c.isEmpty
  (Sorting.of? columns descending).map fun s => some (.sort s)

/-- The value of a filter. Null is `nullWord`, up to the case of `A` to `Z`. -/
def readValue (d : Dialect) (value : Text) : FilterValue :=
  if value.sameLetters d.nullWord then .null else .text value

/-- A filter from its three parts; the field is not empty, and the comparator is a token. -/
def readFilter? (d : Dialect) : List Text → Option Operation
  | [field, comparator, value] =>
    if field.isEmpty then none
    else
      (Comparator.ofToken? comparator).map fun c => .filter (.of field c (readValue d value))
  | _ => none

/-! ### The segment table -/

/-- The row behind `pageMark`. -/
def page (d : Dialect) : Parser Reading :=
  map (readPageParts d)
    (preceded (literalIgnoringCase d.pageMark ()) (parts d.innerSeparator))

/-- The row behind `skipMark`. -/
def skip (d : Dialect) : Parser Reading :=
  map readSkip (preceded (literalIgnoringCase d.skipMark ()) remainder)

/-- The row behind `takeMark`. -/
def take (d : Dialect) : Parser Reading :=
  map readTake (preceded (literalIgnoringCase d.takeMark ()) remainder)

/-- The row behind `sortMark`, with or without `descendingMark`. -/
def sort (d : Dialect) : Parser Reading :=
  preceded (literalIgnoringCase d.sortMark ())
    (bindWith (optional (literalIgnoringCase d.descendingMark ())) (fun _ => remainder)
      fun descending columns => readSort d descending.isSome columns)

/-- The row without a mark. -/
def filter (d : Dialect) : Parser Reading :=
  map (fun ps => .ok (readFilter? d ps)) (parts d.innerSeparator)

/-- The table of the rows. The marks are tried in this order. -/
def table (d : Dialect) : Parser Reading :=
  let marked := guarded (beginsWith d.pageMark) (page d)
  let marked := orWhen marked (beginsWith d.skipMark) (skip d)
  let marked := orWhen marked (beginsWith d.takeMark) (take d)
  let marked := orWhen marked (beginsWith d.sortMark) (sort d)
  orWhen marked (fun _ => true) (filter d)

end RecordQuery.Segment

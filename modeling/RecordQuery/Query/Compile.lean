import RecordQuery.Query.Segment

/-!
# Queries

A query is a list of segments with separators around them; empty segments are dropped.
`Query.grammar` repeats two parsers, one for runs of separators and one for segments, and each
segment is decoded on its own (`Query.readSegment`). `compile` gives the operations of the segments
in order, or the first error (`Query.collect`).
-/

namespace RecordQuery

namespace Query

open RecordQuery.Parser

/-- Reads a run of separators. -/
def separators (d : Dialect) : Parser Segment.Reading :=
  map (fun _ => .ok none)
    (verify (recognize (many (satisfy (· == d.separator)))) fun run => !run.isEmpty)

/-- Decodes a segment with the segment table. A segment that the table does not match is dropped. -/
def readSegment (d : Dialect) (text : Text) : Segment.Reading :=
  match terminated (Segment.table d) atEnd text with
  | some parsed => parsed.value
  -- not reached: the table matches every text (`Segment.table_apply`)
  | none => .ok none

/-- Reads and decodes up to the next separator. -/
def segment (d : Dialect) : Parser Segment.Reading :=
  map (readSegment d)
    (verify (recognize (many (satisfy (· != d.separator)))) fun text => !text.isEmpty)

/-- Reads the segments of a query. -/
def grammar (d : Dialect) : Parser (List Segment.Reading) :=
  many (orElse (separators d) (segment d))

/-- The operations in order, or the first error. -/
def collect : List Segment.Reading → Except QueryError (List Operation)
  | [] => .ok []
  | .error e :: _ => .error e
  | .ok none :: readings => collect readings
  | .ok (some op) :: readings => (collect readings).map (op :: ·)

@[simp] theorem collect_nil : collect [] = .ok [] := rfl

end Query

/-- The operations of a query in the dialect. -/
def compile (d : Dialect) (query : Text) : Except QueryError (List Operation) :=
  Query.collect ((Query.grammar d query).map Parsed.value |>.getD [])

end RecordQuery

import RecordQuery.Number.Integer

/-!
# Errors

The errors of queries and of dialects, and their messages. A segment that cannot be decoded is not
an error, and neither is a filter that does not bind: both are dropped.
-/

namespace RecordQuery

/-- The marks in front of segments. -/
inductive Mark where
  | page
  | skip
  | take
  | sort
  | descending
  deriving DecidableEq

/-- The name of a mark in messages. -/
def Mark.name : Mark → String
  | .page => "page"
  | .skip => "skip"
  | .take => "take"
  | .sort => "sort"
  | .descending => "descending"

/-- Why a dialect is refused. -/
inductive DialectFault where
  | sharedDelimiter
  | emptyMark (mark : Mark)
  | separatorInMark (mark : Mark) (text : Text) (separator : Char)
  | pageSizeZero
  deriving DecidableEq

/-- The message for a fault. -/
def DialectFault.message : DialectFault → String
  | .sharedDelimiter => "separators and list delimiter must be distinct"
  | .emptyMark mark => mark.name ++ " prefix cannot be empty"
  | .separatorInMark mark text separator =>
    mark.name ++ " prefix '" ++ String.ofList text ++ "' contains the separator '" ++
      separator.toString ++ "'"
  | .pageSizeZero => "default page size must be at least 1"

/-- Why an operation cannot be built, or a dialect is refused. -/
inductive QueryError where
  /-- A page number below one, or a page behind more rows than a word of 64 bits counts. -/
  | pageNumber (number : Int64)
  /-- A page size below one. -/
  | pageSize (size : Int64)
  /-- A sort without columns. -/
  | noSortColumns
  | dialect (fault : DialectFault)
  deriving DecidableEq

/-- The message for an error. -/
def QueryError.message : QueryError → String
  | .pageNumber number =>
    "page number cannot be less than 1, got " ++ String.ofList (Text.ofInt number.toInt)
  | .pageSize size =>
    "page size cannot be less than 1, got " ++ String.ofList (Text.ofInt size.toInt)
  | .noSortColumns => "must specify columns for sort"
  | .dialect fault => "invalid query syntax: " ++ fault.message

end RecordQuery

import RecordQuery.Error

/-!
# Dialects

A `Dialect` is the syntax of queries: the delimiters between segments, between the parts of a
segment and between sort columns, the marks in front of segments, the words for no limit and for
null, and the default page size. `Dialect.check` is only made on request; queries are compiled and
serialized in every dialect.
-/

namespace RecordQuery

/-- The syntax of queries. In the default dialect a query is `/sort-desc-name/page-2-20/`. -/
structure Dialect where
  /-- The delimiter between segments. -/
  separator : Char := '/'
  /-- The delimiter between the parts of a segment. -/
  innerSeparator : Char := '-'
  /-- The delimiter between sort columns. -/
  listDelimiter : Char := ','
  pageMark : Text := "page-".toList
  skipMark : Text := "skip-".toList
  takeMark : Text := "take-".toList
  sortMark : Text := "sort-".toList
  /-- The mark behind `sortMark` in a descending sort. -/
  descendingMark : Text := "desc-".toList
  /-- The word for `Limit.unbounded`. -/
  takeAll : Text := "all".toList
  /-- The word for `FilterValue.null`. -/
  nullWord : Text := "null".toList
  /-- The size of a page without a size. -/
  defaultPageSize : UInt64 := 10
  deriving DecidableEq

namespace Dialect

/-- The marks of the dialect in the order in which they are checked. -/
def marks (d : Dialect) : List (Mark × Text) :=
  [(.page, d.pageMark), (.skip, d.skipMark), (.take, d.takeMark), (.sort, d.sortMark),
    (.descending, d.descendingMark)]

/-- The fault of a mark: it is empty, or it contains the separator. -/
def markFault? (separator : Char) (mark : Mark) (text : Text) : Option DialectFault :=
  if text.isEmpty then some (.emptyMark mark)
  else if text.contains separator then some (.separatorInMark mark text separator)
  else none

/-- The first fault: two equal delimiters, a mark with a fault, or a default page size of zero. -/
def fault? (d : Dialect) : Option DialectFault :=
  if d.separator = d.innerSeparator ∨ d.separator = d.listDelimiter ∨
      d.innerSeparator = d.listDelimiter then
    some .sharedDelimiter
  else
    -- only the separator is looked for in a mark, and no two marks are compared
    (d.marks.findSome? fun m => markFault? d.separator m.1 m.2).or <|
      if d.defaultPageSize = 0 then some .pageSizeZero else none

/-- Refuses a dialect with a fault. -/
def check (d : Dialect) : Except QueryError Unit :=
  match d.fault? with
  | some fault => .error (.dialect fault)
  | none => .ok ()

theorem check_eq_ok_iff (d : Dialect) : d.check = .ok () ↔ d.fault? = none := by
  unfold check
  split <;> simp_all

theorem markFault?_eq_none_iff (separator : Char) (mark : Mark) (text : Text) :
    markFault? separator mark text = none ↔ text ≠ [] ∧ separator ∉ text := by
  unfold markFault?
  split
  · next h => simp [List.isEmpty_iff.1 h]
  · next h => split <;> simp_all

/-- A dialect has no fault if its delimiters are different, its marks are not empty and do not
contain the separator, and its default page size is not zero. -/
theorem fault?_eq_none_iff (d : Dialect) :
    d.fault? = none ↔
      (d.separator ≠ d.innerSeparator ∧ d.separator ≠ d.listDelimiter ∧
        d.innerSeparator ≠ d.listDelimiter) ∧
      (∀ m ∈ d.marks, m.2 ≠ [] ∧ d.separator ∉ m.2) ∧ d.defaultPageSize ≠ 0 := by
  unfold fault?
  split
  · next h =>
    refine iff_of_false (by simp) ?_
    rintro ⟨⟨h1, h2, h3⟩, -⟩
    rcases h with h | h | h
    · exact h1 h
    · exact h2 h
    · exact h3 h
  · next h =>
    rw [not_or, not_or] at h
    rw [Option.or_eq_none_iff, List.findSome?_eq_none_iff]
    simp only [markFault?_eq_none_iff]
    refine ⟨fun hf => ⟨h, hf.1, ?_⟩, fun hf => ⟨hf.2.1, ?_⟩⟩
    · intro hsize
      rw [if_pos hsize] at hf
      exact absurd hf.2 (by simp)
    · rw [if_neg hf.2.2]

end Dialect

end RecordQuery

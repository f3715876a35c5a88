import RecordQuery.Proofs.Recognition
import RecordQuery.Query.Compile

/-!
# The segment table

`Segment.table` is a chain of guarded parsers. `Segment.reading` specifies it by list functions, row
by row, and `terminated_table` states that the table computes it on every text, in every dialect,
checked or not:

* the first of the page, skip, take and sort marks that the text begins with, up to ASCII case,
  selects the row;
* a text without a mark is decoded as a filter;
* the row matches and consumes the whole text, so no segment is rejected by the parser; it can only
  be decoded to no operation.

The rows behind the marks are instances of one lemma (`marked_apply`): the parser of the row is run
on the text behind the mark. Conversely, the kind of an operation determines the row that decoded it
(`reading_eq_ok_some_iff`).
-/

namespace RecordQuery

namespace Segment

open RecordQuery.Parser

/-! ### The rows -/

/-- The text behind a mark, if it begins with the mark up to ASCII case. -/
def after? (mark t : Text) : Option Text := Text.strip? Text.sameLetter mark t

/-- The default page size of the dialect, at most the maximum of `Int64`. -/
def assumedSize (d : Dialect) : Int64 :=
  Int64.ofNat (min d.defaultPageSize.toNat Int64.maxValue.toInt.toNat)

/-- A page number, or a page number and a size. What is no numeral counts as page one and as the
default size. -/
def pageRow (d : Dialect) (t : Text) : Reading :=
  match t.splitOn d.innerSeparator with
  | [number] =>
    (Page.of? ((Text.int64? number).getD 1) (assumedSize d)).map fun p => some (.page p)
  | [number, size] =>
    (Page.of? ((Text.int64? number).getD 1) ((Text.int64? size).getD (assumedSize d))).map
      fun p => some (.page p)
  | _ => .ok none

/-- A number of rows to skip, or no operation. -/
def skipRow (t : Text) : Reading :=
  match Text.word64? t with
  | some n => .ok (some (.skip n))
  | none => .ok none

/-- A number of rows to take, or no limit. -/
def takeRow (t : Text) : Reading :=
  match Text.word64? t with
  | some n => .ok (some (.take (.count n)))
  | none => .ok (some (.take .unbounded))

/-- The columns of a sort: the pieces between list delimiters that are not empty. -/
def columns (d : Dialect) (t : Text) : List Text :=
  (t.splitOn d.listDelimiter).filter fun c => !c.isEmpty

/-- A sort, descending if `descendingMark` precedes the columns. -/
def sortRow (d : Dialect) (t : Text) : Reading :=
  match after? d.descendingMark t with
  | some rest => (Sorting.of? (columns d rest) true).map fun s => some (.sort s)
  | none => (Sorting.of? (columns d t) false).map fun s => some (.sort s)

/-- A filter of a field, the token of a comparator and a value. -/
def filterRow (d : Dialect) (t : Text) : Reading :=
  match t.splitOn d.innerSeparator with
  | [field, word, value] =>
    if field.isEmpty then .ok none
    else
      match Comparator.ofToken? word with
      | some c =>
        .ok (some (.filter ⟨Text.lower field, c,
          if Text.sameLetters value d.nullWord then .null else .text (Text.lower value)⟩))
      | none => .ok none
  | _ => .ok none

/-- **The reading of a segment.** The first mark that it begins with selects the row. -/
def reading (d : Dialect) (t : Text) : Reading :=
  match after? d.pageMark t, after? d.skipMark t, after? d.takeMark t, after? d.sortMark t with
  | some rest, _, _, _ => pageRow d rest
  | none, some rest, _, _ => skipRow rest
  | none, none, some rest, _ => takeRow rest
  | none, none, none, some rest => sortRow d rest
  | none, none, none, none => filterRow d t

/-! ### Decoding the parts -/

theorem defaultSize_eq (d : Dialect) : defaultSize d = assumedSize d := by
  rw [defaultSize, assumedSize]
  -- a size above the maximum of `Int64` is that maximum
  split
  · next h => rw [Nat.min_eq_left (by omega), Int64.ofInt_eq_ofNat]
  · next h =>
    rw [Nat.min_eq_right (by omega)]
    rfl

theorem readPageParts_splitOn (d : Dialect) (t : Text) :
    readPageParts d (t.splitOn d.innerSeparator) = pageRow d t := by
  unfold pageRow
  generalize t.splitOn d.innerSeparator = pieces
  -- by the number of parts: none, a number, a number and a size, more
  rcases pieces with _ | ⟨number, _ | ⟨size, _ | ⟨other, others⟩⟩⟩
  · rfl
  · rw [readPageParts, readPage, defaultSize_eq]
    rfl
  · rw [readPageParts, readPage, defaultSize_eq]
    rfl
  · rfl

theorem readSkip_eq (t : Text) : readSkip t = skipRow t := by
  unfold readSkip skipRow
  cases Text.word64? t <;> rfl

theorem readTake_eq (t : Text) : readTake t = takeRow t := by
  unfold readTake takeRow
  cases Text.word64? t <;> rfl

theorem readFilter_splitOn (d : Dialect) (t : Text) :
    (.ok (readFilter? d (t.splitOn d.innerSeparator)) : Reading) = filterRow d t := by
  unfold filterRow
  generalize t.splitOn d.innerSeparator = pieces
  -- only three parts make a filter
  rcases pieces with _ | ⟨field, _ | ⟨word, _ | ⟨value, _ | ⟨other, others⟩⟩⟩⟩
  · rfl
  · rfl
  · rfl
  · simp only [readFilter?]
    by_cases hfield : field.isEmpty = true
    · rw [if_pos hfield, if_pos hfield]
    · rw [if_neg hfield, if_neg hfield]
      cases Comparator.ofToken? word with
      | none => rfl
      | some c =>
        rw [Option.map_some, Filter.of, readValue]
        by_cases hnull : Text.sameLetters value d.nullWord = true
        · simp only [if_pos hnull, FilterValue.lower]
        · simp only [if_neg hnull, FilterValue.lower]
  · rfl

/-! ### The rows as parsers -/

/-- **A marked row.** The parser of the row runs on the text behind the mark. -/
theorem marked_apply {α : Type} {mark t rest : Text} (h : after? mark t = some rest)
    (p : Parser α) : preceded (literalIgnoringCase mark ()) p t = p rest := by
  rw [preceded, Parser.bind, literalIgnoringCase_apply]
  rw [after?] at h
  rw [h]
  rfl

theorem page_apply {d : Dialect} {t rest : Text} (h : after? d.pageMark t = some rest) :
    page d t = some ⟨pageRow d rest, []⟩ := by
  rw [page, Parser.map, marked_apply h, parts_apply, Option.map_some, readPageParts_splitOn]

theorem skip_apply {d : Dialect} {t rest : Text} (h : after? d.skipMark t = some rest) :
    skip d t = some ⟨skipRow rest, []⟩ := by
  rw [skip, Parser.map, marked_apply h, remainder_apply, Option.map_some, readSkip_eq]

theorem take_apply {d : Dialect} {t rest : Text} (h : after? d.takeMark t = some rest) :
    take d t = some ⟨takeRow rest, []⟩ := by
  rw [take, Parser.map, marked_apply h, remainder_apply, Option.map_some, readTake_eq]

theorem sort_apply {d : Dialect} {t rest : Text} (h : after? d.sortMark t = some rest) :
    sort d t = some ⟨sortRow d rest, []⟩ := by
  rw [sort, marked_apply h, bindWith, Parser.bind, Parser.optional, literalIgnoringCase_apply,
    sortRow, after?]
  -- the columns are the whole text, or follow `descendingMark`
  cases Text.strip? Text.sameLetter d.descendingMark rest with
  | none =>
    rw [Option.map_none, Option.bind_some, Parser.map, remainder_apply]
    rfl
  | some columns =>
    rw [Option.map_some, Option.bind_some, Parser.map, remainder_apply]
    rfl

theorem filter_apply (d : Dialect) (t : Text) : filter d t = some ⟨filterRow d t, []⟩ := by
  rw [filter, Parser.map, parts_apply, Option.map_some, readFilter_splitOn]

/-! ### The table -/

theorem guarded_beginsWith {α : Type} (mark : Text) (p : Parser α) (t : Text) :
    guarded (beginsWith mark) p t = (after? mark t).bind fun _ => p t := by
  rw [guarded, beginsWith_eq_isSome, after?]
  cases Text.strip? Text.sameLetter mark t <;> rfl

/-- **The table computes the reading**, and consumes the whole text. -/
theorem table_apply (d : Dialect) (t : Text) : table d t = some ⟨reading d t, []⟩ := by
  rw [table, reading]
  simp only [orWhen, orElse, guarded_beginsWith]
  -- the first mark that matches selects the row; the rows before it do not match
  cases hpage : after? d.pageMark t with
  | some rest => rw [Option.bind_some, page_apply hpage]; rfl
  | none =>
    cases hskip : after? d.skipMark t with
    | some rest => rw [Option.bind_some, skip_apply hskip]; rfl
    | none =>
      cases htake : after? d.takeMark t with
      | some rest => rw [Option.bind_some, take_apply htake]; rfl
      | none =>
        cases hsort : after? d.sortMark t with
        | some rest => rw [Option.bind_some, sort_apply hsort]; rfl
        | none => rw [guarded, if_pos rfl, filter_apply]; rfl

/-- A parser that leaves nothing is at the end of the text. -/
theorem terminated_atEnd_apply {α : Type} {p : Parser α} {t : Text} {value : α}
    (h : p t = some ⟨value, []⟩) : terminated p atEnd t = some ⟨value, []⟩ := by
  rw [terminated, bindWith, Parser.bind, h]
  rfl

/-- The value of `Query.readSegment` is the reading; its fallback for a segment that does not match
is not reached. -/
theorem readSegment_eq (d : Dialect) (t : Text) : Query.readSegment d t = reading d t := by
  rw [Query.readSegment, terminated_atEnd_apply (table_apply d t)]

/-! ### The operations of each row -/

theorem exists_of_map_eq_ok {α β : Type} {x : Except QueryError α} {f : α → β} {b : β}
    (h : x.map f = .ok b) : ∃ a, x = .ok a ∧ f a = b := by
  cases x with
  | error e => exact absurd h (by simp [Except.map])
  | ok a => exact ⟨a, rfl, Except.ok.inj h⟩

/-- A page has the number of its first part, or is the first page. -/
theorem pageRow_says {d : Dialect} {t : Text} {op : Operation} (h : pageRow d t = .ok (some op)) :
    ∃ size p, Page.of? ((Text.int64? (t.takeWhile (· != d.innerSeparator))).getD 1) size = .ok p ∧
      op = .page p := by
  unfold pageRow at h
  rw [Text.splitOn_eq_takeWhile_cons] at h
  split at h
  · next hsplit =>
    obtain ⟨p, hp, hop⟩ := exists_of_map_eq_ok h
    rw [← (List.cons.inj hsplit).1] at hp
    exact ⟨_, p, hp, (Option.some.inj hop).symm⟩
  · next hsplit =>
    obtain ⟨p, hp, hop⟩ := exists_of_map_eq_ok h
    rw [← (List.cons.inj hsplit).1] at hp
    exact ⟨_, p, hp, (Option.some.inj hop).symm⟩
  · exact absurd h (by simp)

theorem skipRow_says {t : Text} {op : Operation} (h : skipRow t = .ok (some op)) :
    ∃ n, op = .skip n := by
  unfold skipRow at h
  split at h
  · next n _ => exact ⟨n, (Option.some.inj (Except.ok.inj h)).symm⟩
  · exact absurd h (by simp)

theorem takeRow_says {t : Text} {op : Operation} (h : takeRow t = .ok (some op)) :
    ∃ limit, op = .take limit := by
  unfold takeRow at h
  split at h <;> exact ⟨_, (Option.some.inj (Except.ok.inj h)).symm⟩

/-- A sort has the columns of the row, and the direction by `descendingMark`. -/
theorem sortRow_says {d : Dialect} {t : Text} {op : Operation} (h : sortRow d t = .ok (some op)) :
    ∃ (rest : Text) (descending : Bool) (s : Sorting), (∀ c ∈ rest, c ∈ t) ∧
      Sorting.of? (columns d rest) descending = .ok s ∧ op = .sort s := by
  unfold sortRow at h
  split at h
  · next rest hrest =>
    obtain ⟨head, rfl, -⟩ := Text.strip?_sameLetter_eq_some_iff.1 hrest
    obtain ⟨s, hs, hop⟩ := exists_of_map_eq_ok h
    exact ⟨rest, true, s, fun c hc => List.mem_append_right _ hc, hs,
      (Option.some.inj hop).symm⟩
  · obtain ⟨s, hs, hop⟩ := exists_of_map_eq_ok h
    exact ⟨t, false, s, fun c hc => hc, hs, (Option.some.inj hop).symm⟩

/-- A filter has the field, the comparator and the value of the row. -/
theorem filterRow_says {d : Dialect} {t : Text} {op : Operation}
    (h : filterRow d t = .ok (some op)) :
    ∃ (field word value : Text) (c : Comparator),
      t.splitOn d.innerSeparator = [field, word, value] ∧ field ≠ [] ∧
      op = .filter ⟨Text.lower field, c,
        if Text.sameLetters value d.nullWord then .null else .text (Text.lower value)⟩ := by
  unfold filterRow at h
  split at h
  · next field word value hsplit =>
    split at h
    · exact absurd h (by simp)
    · next hfield =>
      split at h
      · next c _ =>
        exact ⟨field, word, value, c, hsplit, by simpa using hfield,
          (Option.some.inj (Except.ok.inj h)).symm⟩
      · exact absurd h (by simp)
  · exact absurd h (by simp)

theorem filterRow_of_splitOn {d : Dialect} {t field word value : Text} {c : Comparator}
    (hsplit : t.splitOn d.innerSeparator = [field, word, value]) (hfield : field ≠ [])
    (hword : Comparator.ofToken? word = some c) :
    filterRow d t = .ok (some (.filter ⟨Text.lower field, c,
      if Text.sameLetters value d.nullWord then .null else .text (Text.lower value)⟩)) := by
  rw [filterRow, hsplit]
  simp only
  rw [if_neg (by simpa using hfield), hword]

/-! ### The row of an operation -/

/-- The row of its kind decodes the segment to the operation: `pageRow`, `skipRow`, `takeRow` and
`sortRow` behind their mark, `filterRow` without one. The marks before it do not match. -/
def DecodedByRow (d : Dialect) (t : Text) : Operation → Prop
  | .page p =>
    ∃ rest, after? d.pageMark t = some rest ∧ pageRow d rest = .ok (some (.page p))
  | .skip n => after? d.pageMark t = none ∧
      ∃ rest, after? d.skipMark t = some rest ∧ skipRow rest = .ok (some (.skip n))
  | .take limit => after? d.pageMark t = none ∧ after? d.skipMark t = none ∧
      ∃ rest, after? d.takeMark t = some rest ∧ takeRow rest = .ok (some (.take limit))
  | .sort s =>
    (after? d.pageMark t = none ∧ after? d.skipMark t = none ∧ after? d.takeMark t = none) ∧
      ∃ rest, after? d.sortMark t = some rest ∧ sortRow d rest = .ok (some (.sort s))
  | .filter f =>
    (after? d.pageMark t = none ∧ after? d.skipMark t = none ∧ after? d.takeMark t = none ∧
      after? d.sortMark t = none) ∧ filterRow d t = .ok (some (.filter f))

/-- **An operation is decoded by the row of its kind**: no row decodes operations of two kinds. -/
theorem reading_eq_ok_some_iff {d : Dialect} {t : Text} {op : Operation} :
    reading d t = .ok (some op) ↔ DecodedByRow d t op := by
  constructor
  · intro h
    unfold reading at h
    -- the row that the segment is given to determines the kind of the operation
    split at h
    · next rest hpage =>
      obtain ⟨_, p, -, rfl⟩ := pageRow_says h
      exact ⟨rest, hpage, h⟩
    · next rest hpage hskip =>
      obtain ⟨n, rfl⟩ := skipRow_says h
      exact ⟨hpage, rest, hskip, h⟩
    · next rest hpage hskip htake =>
      obtain ⟨limit, rfl⟩ := takeRow_says h
      exact ⟨hpage, hskip, rest, htake, h⟩
    · next rest hpage hskip htake hsort =>
      obtain ⟨_, _, s, -, -, rfl⟩ := sortRow_says h
      exact ⟨⟨hpage, hskip, htake⟩, rest, hsort, h⟩
    · next hpage hskip htake hsort =>
      obtain ⟨_, _, _, c, -, -, rfl⟩ := filterRow_says h
      exact ⟨⟨hpage, hskip, htake, hsort⟩, h⟩
  · intro h
    rw [reading]
    cases op with
    | page p =>
      obtain ⟨rest, hpage, h⟩ := h
      rwa [hpage]
    | skip n =>
      obtain ⟨hpage, rest, hskip, h⟩ := h
      rwa [hpage, hskip]
    | take limit =>
      obtain ⟨hpage, hskip, rest, htake, h⟩ := h
      rwa [hpage, hskip, htake]
    | sort s =>
      obtain ⟨⟨hpage, hskip, htake⟩, rest, hsort, h⟩ := h
      rwa [hpage, hskip, htake, hsort]
    | filter f =>
      obtain ⟨⟨hpage, hskip, htake, hsort⟩, h⟩ := h
      rwa [hpage, hskip, htake, hsort]

/-- **A page is decoded by the page row**, behind the page mark. -/
theorem reading_page_iff {d : Dialect} {t : Text} {p : Page} :
    reading d t = .ok (some (.page p)) ↔
      ∃ rest, after? d.pageMark t = some rest ∧ pageRow d rest = .ok (some (.page p)) :=
  reading_eq_ok_some_iff

/-- **A skip is decoded by the skip row**, behind the skip mark, if the page mark does not match. -/
theorem reading_skip_iff {d : Dialect} {t : Text} {n : UInt64} :
    reading d t = .ok (some (.skip n)) ↔ after? d.pageMark t = none ∧
      ∃ rest, after? d.skipMark t = some rest ∧ skipRow rest = .ok (some (.skip n)) :=
  reading_eq_ok_some_iff

/-- **A take is decoded by the take row**, behind the take mark, if neither the page nor the skip
mark matches. -/
theorem reading_take_iff {d : Dialect} {t : Text} {limit : Limit} :
    reading d t = .ok (some (.take limit)) ↔
      after? d.pageMark t = none ∧ after? d.skipMark t = none ∧
      ∃ rest, after? d.takeMark t = some rest ∧ takeRow rest = .ok (some (.take limit)) :=
  reading_eq_ok_some_iff

/-- **A sort is decoded by the sort row**, behind the sort mark. -/
theorem reading_sort {d : Dialect} {t : Text} {s : Sorting}
    (h : reading d t = .ok (some (.sort s))) :
    ∃ rest, after? d.sortMark t = some rest ∧ sortRow d rest = .ok (some (.sort s)) :=
  (reading_eq_ok_some_iff.1 h).2

/-- **A filter is decoded by the filter row**, if no mark matches. -/
theorem reading_filter_iff {d : Dialect} {t : Text} {f : Filter} :
    reading d t = .ok (some (.filter f)) ↔
      (after? d.pageMark t = none ∧ after? d.skipMark t = none ∧ after? d.takeMark t = none ∧
        after? d.sortMark t = none) ∧ filterRow d t = .ok (some (.filter f)) :=
  reading_eq_ok_some_iff

/-- **The segment table.** In every dialect and on every text, the table followed by the end of the
text matches and leaves nothing, its value is the reading of the text, and the compiler uses that
value. The reading is given by the first mark that matches. -/
theorem terminated_table (d : Dialect) (t : Text) :
    terminated (table d) atEnd t = some ⟨reading d t, []⟩ ∧
      Query.readSegment d t = reading d t := by
  constructor
  · exact terminated_atEnd_apply (table_apply d t)
  · exact readSegment_eq d t

end Segment

end RecordQuery

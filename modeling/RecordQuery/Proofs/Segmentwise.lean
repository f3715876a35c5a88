import RecordQuery.Proofs.SegmentTable

/-!
# Queries are compiled segment by segment

The grammar of a query repeats two parsers, one for runs of separators and one for segments, and
repetition stops at the first round that consumes nothing. Here it is proved that it does not stop
before the end of the query, and that the result is the one of the pieces between separators, each
on its own (`Query.pieces`, `Query.compile_eq_collect_pieces`).

The readings of the pieces are collected by `Query.collect`:

* `Query.collect_eq_ok_iff`: without an error, the operations in order;
* `Query.collect_eq_error_iff`: otherwise the first error;
* `Query.collect_append`: readings can be collected in two parts.
-/

namespace RecordQuery

namespace Query

open RecordQuery.Parser

/-! ### The pieces of a query -/

/-- The pieces of a query between separators that are not empty. -/
def pieces (d : Dialect) (query : Text) : List Text :=
  (query.splitOn d.separator).filter fun piece => !piece.isEmpty

@[simp] theorem pieces_nil (d : Dialect) : pieces d [] = [] := rfl

/-- A separator between two queries keeps their pieces apart. -/
theorem pieces_append_separator (d : Dialect) (before after : Text) :
    pieces d (before ++ d.separator :: after) = pieces d before ++ pieces d after := by
  rw [pieces, List.splitOn_append_cons_self, List.filter_append]
  rfl

theorem pieces_separator_cons (d : Dialect) (query : Text) :
    pieces d (d.separator :: query) = pieces d query :=
  pieces_append_separator d [] query

/-- Leading separators make no piece. -/
theorem pieces_dropWhile_separator (d : Dialect) (query : Text) :
    pieces d (query.dropWhile (· == d.separator)) = pieces d query := by
  induction query with
  | nil => rfl
  | cons c query ih =>
    by_cases hc : c = d.separator
    · rw [List.dropWhile_cons_of_pos (by simpa using hc), ih, hc, pieces_separator_cons]
    · rw [List.dropWhile_cons_of_neg (by simpa using hc)]

/-- A query that does not begin with a separator begins with a piece. -/
theorem pieces_eq_cons (d : Dialect) {query : Text}
    (h : query.takeWhile (· != d.separator) ≠ []) :
    pieces d query = query.takeWhile (· != d.separator) ::
      pieces d (query.dropWhile (· != d.separator)) := by
  rw [pieces, Text.splitOn_eq_takeWhile_cons, List.filter_cons_of_pos (by simpa using h)]
  cases hdrop : query.dropWhile (· != d.separator) with
  | nil => rfl
  | cons c rest =>
    -- the further pieces are those behind the separator
    rw [Text.eq_of_dropWhile_ne hdrop, pieces_separator_cons]
    rfl

/-- The pieces of joined segments are the segments. -/
theorem pieces_intercalate (d : Dialect) {parts : List Text}
    (h : ∀ p ∈ parts, p ≠ [] ∧ d.separator ∉ p) :
    pieces d ([d.separator].intercalate parts) = parts := by
  cases parts with
  | nil => rfl
  | cons p parts =>
    rw [pieces, List.splitOn_intercalate _ (fun q hq => (h q hq).2) (List.cons_ne_nil _ _)]
    exact List.filter_eq_self.2 fun q hq => by simpa using (h q hq).1

/-- A text without the separator is one piece. -/
theorem pieces_eq_singleton {d : Dialect} {t : Text} (hne : t ≠ []) (hsep : d.separator ∉ t) :
    pieces d t = [t] := by
  have hpart : ∀ p ∈ [t], p ≠ [] ∧ d.separator ∉ p := List.forall_mem_singleton.2 ⟨hne, hsep⟩
  have hpieces := pieces_intercalate d hpart
  rwa [List.intercalate_singleton] at hpieces

/-- A piece is not empty, does not contain the separator, and has characters of the query only. -/
theorem mem_of_mem_pieces {d : Dialect} {query piece : Text} (h : piece ∈ pieces d query) :
    piece ≠ [] ∧ d.separator ∉ piece ∧ ∀ c ∈ piece, c ∈ query := by
  rw [pieces, List.mem_filter] at h
  exact ⟨by simpa using h.2, Text.mem_splitOn h.1⟩

/-! ### Collecting readings -/

/-- A reading without an error adds its operation, if any, in front of the others. -/
theorem collect_ok_cons (o : Option Operation) (readings : List Segment.Reading) :
    collect (.ok o :: readings) = (collect readings).map (o.toList ++ ·) := by
  cases o with
  | none =>
    rw [collect]
    cases collect readings <;> rfl
  | some op => rfl

/-- **Success**: no reading is an error, and the operations are those that are present, in order. -/
theorem collect_eq_ok_iff {readings : List Segment.Reading} {operations : List Operation} :
    collect readings = .ok operations ↔
      ∃ said : List (Option Operation), readings = said.map .ok ∧
        operations = said.filterMap id := by
  induction readings generalizing operations with
  | nil =>
    constructor
    · intro h
      exact ⟨[], rfl, (Except.ok.inj h).symm⟩
    · rintro ⟨said, hsaid, rfl⟩
      rw [List.map_eq_nil_iff.1 hsaid.symm]
      rfl
  | cons reading readings ih =>
    cases reading with
    | error e =>
      -- the first reading is an error, so neither side holds
      constructor
      · intro h
        exact absurd h (by simp [collect])
      · rintro ⟨said, hsaid, -⟩
        cases said with
        | nil => exact absurd hsaid (by simp)
        | cons o said => exact absurd (List.cons.inj hsaid).1 (by simp)
    | ok o =>
      rw [collect_ok_cons]
      constructor
      · intro h
        obtain ⟨rest, hrest, rfl⟩ := Segment.exists_of_map_eq_ok h
        obtain ⟨said, rfl, rfl⟩ := ih.1 hrest
        refine ⟨o :: said, rfl, ?_⟩
        cases o <;> rfl
      · rintro ⟨said, hsaid, rfl⟩
        cases said with
        | nil => exact absurd hsaid (by simp)
        | cons o' said =>
          obtain ⟨ho, hrest⟩ := List.cons.inj hsaid
          obtain rfl := Except.ok.inj ho
          rw [ih.2 ⟨said, hrest, rfl⟩]
          cases o <;> rfl

/-- **One operation**: one reading is this operation, and the others are none. -/
theorem collect_eq_ok_singleton_iff {readings : List Segment.Reading} {op : Operation} :
    collect readings = .ok [op] ↔ ∃ before after,
      readings = before ++ .ok (some op) :: after ∧
        ∀ reading ∈ before ++ after, reading = .ok none := by
  rw [collect_eq_ok_iff]
  constructor
  · rintro ⟨said, rfl, hsaid⟩
    obtain ⟨before, o, after, rfl, hbefore, rfl, hafter⟩ :=
      List.filterMap_eq_cons_iff.1 hsaid.symm
    refine ⟨before.map .ok, after.map .ok, by simp, ?_⟩
    intro reading hreading
    rw [← List.map_append, List.mem_map] at hreading
    obtain ⟨o, ho, rfl⟩ := hreading
    -- the readings that are no operation are `none`
    have hnone : o = none := by
      rcases List.mem_append.1 ho with ho | ho
      · exact hbefore o ho
      · exact List.filterMap_eq_nil_iff.1 hafter o ho
    rw [hnone]
  · rintro ⟨before, after, rfl, hsilent⟩
    rw [List.forall_mem_append] at hsilent
    have hbefore := List.eq_replicate_of_mem hsilent.1
    have hafter := List.eq_replicate_of_mem hsilent.2
    refine ⟨List.replicate before.length none ++ some op :: List.replicate after.length none,
      ?_, ?_⟩
    · rw [List.map_append, List.map_cons, List.map_replicate, List.map_replicate, ← hbefore,
        ← hafter]
    · simp

/-- A collected operation is one of the readings. -/
theorem exists_of_mem_collect {readings : List Segment.Reading} {operations : List Operation}
    (h : collect readings = .ok operations) {op : Operation} (hop : op ∈ operations) :
    .ok (some op) ∈ readings := by
  obtain ⟨said, rfl, rfl⟩ := collect_eq_ok_iff.1 h
  obtain ⟨o, ho, heq⟩ := List.mem_filterMap.1 hop
  exact List.mem_map.2 ⟨o, ho, congrArg Except.ok heq⟩

/-- If no operation is missing, all readings are operations. -/
theorem map_some_filterMap_id {said : List (Option Operation)}
    (h : ∀ o ∈ said, (id o).isSome) : (said.filterMap id).map some = said := by
  induction said with
  | nil => rfl
  | cons o said ih =>
    obtain ⟨op, rfl⟩ := Option.isSome_iff_exists.1 (h o (List.mem_cons_self ..))
    exact congrArg _ (ih fun o ho => h o (List.mem_cons_of_mem _ ho))

/-- If there are as many readings as operations, each reading is its operation. -/
theorem collect_map_eq_ok_iff {f : Operation → Segment.Reading} {operations : List Operation} :
    collect (operations.map f) = .ok operations ↔ ∀ op ∈ operations, f op = .ok (some op) := by
  rw [collect_eq_ok_iff, ← List.map_inj_left]
  constructor
  · rintro ⟨said, hsaid, hoperations⟩
    -- there are as many operations as readings
    have hlength : (said.filterMap id).length = said.length := by
      rw [← hoperations, ← List.length_map f, hsaid, List.length_map]
    have hsome := map_some_filterMap_id (List.filterMap_length_eq_length.1 hlength)
    rw [hsaid, ← hsome, ← hoperations, List.map_map]
    rfl
  · intro h
    refine ⟨operations.map some, ?_, ?_⟩
    · rw [h, List.map_map]
      rfl
    · rw [List.filterMap_map]
      exact List.filterMap_some.symm

/-- **Failure**: the first error among the readings. -/
theorem collect_eq_error_iff {readings : List Segment.Reading} {e : QueryError} :
    collect readings = .error e ↔
      ∃ (said : List (Option Operation)) (after : List Segment.Reading),
        readings = said.map .ok ++ .error e :: after := by
  induction readings with
  | nil =>
    constructor
    · intro h
      exact absurd h (by simp)
    · rintro ⟨said, after, h⟩
      exact absurd h.symm (by simp)
  | cons reading readings ih =>
    cases reading with
    | error e' =>
      -- the first reading is the first error
      constructor
      · intro h
        obtain rfl : e' = e := Except.error.inj h
        exact ⟨[], readings, rfl⟩
      · rintro ⟨said, after, h⟩
        cases said with
        | nil => exact congrArg Except.error (Except.error.inj (List.cons.inj h).1)
        | cons o said => exact absurd (List.cons.inj h).1 (by simp)
    | ok o =>
      -- the first reading has no error
      have hstep : collect (.ok o :: readings) = .error e ↔ collect readings = .error e := by
        rw [collect_ok_cons]
        cases collect readings <;> simp [Except.map]
      rw [hstep, ih]
      constructor
      · rintro ⟨said, after, rfl⟩
        exact ⟨o :: said, after, rfl⟩
      · rintro ⟨said, after, h⟩
        cases said with
        | nil => exact absurd (List.cons.inj h).1 (by simp)
        | cons o' said => exact ⟨said, after, (List.cons.inj h).2⟩

/-- Readings in two parts: the error of the first part, otherwise that of the second, otherwise the
operations of both in order. -/
theorem collect_append (first second : List Segment.Reading) :
    collect (first ++ second) =
      match collect first, collect second with
      | .error e, _ => .error e
      | .ok _, .error e => .error e
      | .ok a, .ok b => .ok (a ++ b) := by
  induction first with
  | nil =>
    rw [List.nil_append, collect_nil]
    cases collect second <;> rfl
  | cons reading first ih =>
    cases reading with
    | error e => rfl
    | ok o =>
      rw [List.cons_append, collect_ok_cons, collect_ok_cons, ih]
      cases collect first <;> cases collect second <;>
        simp only [Except.map, List.append_assoc]

theorem collect_cons_congr {reading : Segment.Reading} {first second : List Segment.Reading}
    (h : collect first = collect second) :
    collect (reading :: first) = collect (reading :: second) := by
  rw [← List.singleton_append, collect_append, h, ← collect_append, List.singleton_append]

/-! ### The grammar consumes the query -/

theorem separators_separator_cons (d : Dialect) (t : Text) :
    separators d (d.separator :: t) =
      some ⟨.ok none, t.dropWhile (· == d.separator)⟩ := by
  have hself : (d.separator == d.separator) = true := beq_self_eq_true _
  rw [separators, Parser.map, verify, recognize_many_satisfy,
    List.takeWhile_cons_of_pos (p := (· == d.separator)) hself,
    List.dropWhile_cons_of_pos (p := (· == d.separator)) hself]
  rfl

theorem separators_of_ne {d : Dialect} {c : Char} (hc : c ≠ d.separator) (t : Text) :
    separators d (c :: t) = none := by
  rw [separators, Parser.map, verify, recognize_many_satisfy,
    List.takeWhile_cons_of_neg (by simpa using hc)]
  rfl

theorem segment_of_ne {d : Dialect} {c : Char} (hc : c ≠ d.separator) (t : Text) :
    segment d (c :: t) =
      some ⟨readSegment d ((c :: t).takeWhile (· != d.separator)),
        (c :: t).dropWhile (· != d.separator)⟩ := by
  rw [segment, Parser.map, verify, recognize_many_satisfy,
    List.takeWhile_cons_of_pos (by simpa using hc)]
  rfl

/-- Repetition stops at the end of the query only, and its readings are those of the pieces, up to
readings that are no operation. The recursion follows the rounds: each of them consumes a run of
separators or a piece. -/
theorem manyFrom_segments (d : Dialect) (query : Text) :
    (manyFrom (orElse (separators d) (segment d)) query).rest = [] ∧
      collect (manyFrom (orElse (separators d) (segment d)) query).value =
        collect ((pieces d query).map (readSegment d)) := by
  cases query with
  | nil =>
    rw [manyFrom_nil]
    exact ⟨rfl, rfl⟩
  | cons c t =>
    by_cases hc : c = d.separator
    · -- a run of separators
      subst hc
      have hround : orElse (separators d) (segment d) (d.separator :: t) =
          some ⟨.ok none, t.dropWhile (· == d.separator)⟩ := by
        rw [orElse, separators_separator_cons]
        rfl
      have hlt : (t.dropWhile (· == d.separator)).length < (d.separator :: t).length :=
        Nat.lt_succ_of_le (List.length_dropWhile_le ..)
      obtain ⟨hrest, hvalue⟩ := manyFrom_segments d (t.dropWhile (· == d.separator))
      rw [many_cons hround hlt]
      refine ⟨hrest, ?_⟩
      rw [pieces_dropWhile_separator] at hvalue
      rw [pieces_separator_cons, collect, hvalue]
    · -- a piece, up to the next separator
      have hround : orElse (separators d) (segment d) (c :: t) =
          some ⟨readSegment d ((c :: t).takeWhile (· != d.separator)),
            (c :: t).dropWhile (· != d.separator)⟩ := by
        rw [orElse, separators_of_ne hc, segment_of_ne hc]
        rfl
      have hpiece : (c :: t).takeWhile (· != d.separator) ≠ [] := by
        rw [List.takeWhile_cons_of_pos (by simpa using hc)]
        exact List.cons_ne_nil _ _
      have hlt : ((c :: t).dropWhile (· != d.separator)).length < (c :: t).length := by
        rw [List.dropWhile_cons_of_pos (by simpa using hc)]
        exact Nat.lt_succ_of_le (List.length_dropWhile_le ..)
      obtain ⟨hrest, hvalue⟩ := manyFrom_segments d ((c :: t).dropWhile (· != d.separator))
      rw [many_cons hround hlt]
      refine ⟨hrest, ?_⟩
      rw [pieces_eq_cons d hpiece, List.map_cons]
      exact collect_cons_congr hvalue
termination_by query.length
decreasing_by
  · exact hlt
  · exact hlt

/-- The grammar matches every query and leaves nothing. -/
theorem grammar_reads_all (d : Dialect) (query : Text) :
    ∃ readings, grammar d query = some ⟨readings, []⟩ := by
  refine ⟨(manyFrom (orElse (separators d) (segment d)) query).value, ?_⟩
  rw [grammar, many_apply, ← (manyFrom_segments d query).1]

/-- **A query is compiled from its pieces**, as the compiler reads them. -/
theorem compile_eq_collect_pieces (d : Dialect) (query : Text) :
    compile d query = collect ((pieces d query).map (readSegment d)) := by
  rw [← (manyFrom_segments d query).2]
  rfl

/-- A query is compiled from its pieces, by the segment table. -/
theorem compile_eq_collect_reading (d : Dialect) (query : Text) :
    compile d query = collect ((pieces d query).map (Segment.reading d)) := by
  rw [compile_eq_collect_pieces]
  exact congrArg collect (List.map_congr_left fun piece _ => Segment.readSegment_eq d piece)

/-- An operation of a compiled query is the reading of a piece. -/
theorem exists_piece_of_mem {d : Dialect} {query : Text} {operations : List Operation}
    (h : compile d query = .ok operations) {op : Operation} (hop : op ∈ operations) :
    ∃ piece ∈ pieces d query, Segment.reading d piece = .ok (some op) := by
  rw [compile_eq_collect_reading] at h
  exact List.mem_map.1 (exists_of_mem_collect h hop)

/-- **Compilation is segment-wise.** `grammar` matches every query and leaves nothing of it. Each of
the `pieces` is read by the segment table on its own (`Segment.reading`). `compile` fails with the
error of the first piece that has one; else it gives the operations of the pieces that are not
`none`, in order. And for two queries with a separator between them, `compile` gives the error of
the first, else that of the second, else the operations of both. -/
theorem compile_segmentwise (d : Dialect) :
    (∀ query, ∃ readings, grammar d query = some ⟨readings, []⟩) ∧
    (∀ query e, compile d query = .error e ↔
      ∃ (said : List (Option Operation)) (after : List Segment.Reading),
        (pieces d query).map (Segment.reading d) = said.map .ok ++ .error e :: after) ∧
    (∀ query operations, compile d query = .ok operations ↔
      ∃ said : List (Option Operation),
        (pieces d query).map (Segment.reading d) = said.map .ok ∧ operations = said.filterMap id) ∧
    ∀ before after, compile d (before ++ d.separator :: after) =
      match compile d before, compile d after with
      | .error e, _ => .error e
      | .ok _, .error e => .error e
      | .ok a, .ok b => .ok (a ++ b) := by
  -- `compile` collects the readings of the pieces, and `collect` stops at the first error
  refine ⟨grammar_reads_all d, ?_, ?_, ?_⟩
  · intro query e
    rw [compile_eq_collect_reading]
    exact collect_eq_error_iff
  · intro query operations
    rw [compile_eq_collect_reading]
    exact collect_eq_ok_iff
  · intro before after
    rw [compile_eq_collect_reading, compile_eq_collect_reading, compile_eq_collect_reading,
      pieces_append_separator, List.map_append, collect_append]

end Query

end RecordQuery

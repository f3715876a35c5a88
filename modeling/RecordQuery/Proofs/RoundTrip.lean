import RecordQuery.Proofs.Expressible
import RecordQuery.Proofs.Paging
import RecordQuery.Proofs.Segmentwise

/-!
# Serializing and compiling

`serialize` and `compile` share nothing but the dialect. In a plain dialect exactly the queries of
expressible operations compile to themselves once serialized (`serialize_then_compile_iff`), in
three parts:

* Spelled operations are serialized to one segment each, so the serialized query is compiled
  operation by operation (`compile_serialize`).
* The segment of a spelled operation is decoded to the operation if and only if the operation is
  apart (`reading_render_iff`): numerals, columns and parts are split where they were joined, and a
  mark matches only where it was written.
* An operation decoded from a lower-cased text is spelled (`spelled_of_reading`). So the operations
  of a query that compiles to itself are spelled, also if they are not serialized to one segment
  each.
-/

namespace RecordQuery

open RecordQuery.Segment

/-! ### Numerals -/

theorem Text.int64?_ofNat {n : Nat} (hn : n ≤ Int64.maxValue.toInt) :
    Text.int64? (Text.ofNat n) = some (Int64.ofNat n) := by
  rw [Int64.toInt_maxValue] at hn
  have h := Text.int64?_ofInt (Int64.ofNat n)
  rwa [Int64.toInt_ofNat_of_lt (by omega)] at h

/-! ### Marks match where they were written -/

theorem after?_append (mark t : Text) : after? mark (mark ++ t) = some t :=
  Text.strip?_sameLetter_eq_some_iff.2 ⟨mark, rfl, Text.sameLetters_refl mark⟩

theorem after?_eq_none_iff {mark t : Text} (hmark : ∀ c ∈ mark, Text.Settled c)
    (ht : ∀ c ∈ t, Text.Settled c) : after? mark t = none ↔ ¬ mark <+: t := by
  rw [Option.eq_none_iff_forall_ne_some]
  constructor
  · rintro h ⟨rest, rfl⟩
    exact h rest (after?_append mark rest)
  · intro h rest hrest
    exact h ⟨rest, ((Text.strip?_eq_some_iff hmark ht).1 hrest).symm⟩

/-- Two marks stay apart when a text follows one of them. -/
theorem not_prefix_append {m m' : Text} (h : ¬ m <+: m' ∧ ¬ m' <+: m) (t : Text) :
    ¬ m <+: m' ++ t := by
  intro hprefix
  rcases List.prefix_or_prefix_of_prefix hprefix (List.prefix_append m' t) with hpre | hpre
  · exact h.1 hpre
  · exact h.2 hpre

namespace Dialect.Plain

variable {d : Dialect} (h : d.Plain)
include h

theorem settled_opening {m : Text} (hm : m ∈ d.openings) : ∀ c ∈ m, Text.Settled c := by
  simp only [openings, List.mem_cons, List.not_mem_nil, or_false] at hm
  rcases hm with rfl | rfl | rfl | rfl
  · exact (h.quiet_mark (m := (.page, d.pageMark)) (by simp [marks])).settled
  · exact (h.quiet_mark (m := (.skip, d.skipMark)) (by simp [marks])).settled
  · exact (h.quiet_mark (m := (.take, d.takeMark)) (by simp [marks])).settled
  · exact (h.quiet_mark (m := (.sort, d.sortMark)) (by simp [marks])).settled

/-- A mark does not match a text behind another mark: both would be prefixes of it, and so one of
the other. -/
theorem after?_opening_eq_none {m m' t : Text} (hm : m ∈ d.openings) (hm' : m' ∈ d.openings)
    (hapart : ¬ m <+: m' ∧ ¬ m' <+: m) (ht : ∀ c ∈ t, Text.Settled c) :
    after? m (m' ++ t) = none := by
  have hall : ∀ c ∈ m' ++ t, Text.Settled c := by
    intro c hc
    rcases List.mem_append.1 hc with hc | hc
    · exact h.settled_opening hm' c hc
    · exact ht c hc
  rw [after?_eq_none_iff (h.settled_opening hm) hall]
  exact not_prefix_append hapart t

omit h in
theorem reading_page (t : Text) : reading d (d.pageMark ++ t) = pageRow d t := by
  rw [reading, after?_append]

theorem reading_skip {t : Text} (ht : ∀ c ∈ t, Text.Settled c) :
    reading d (d.skipMark ++ t) = skipRow t := by
  have hapart := h.openings_apart
  simp only [openings, List.pairwise_cons, List.forall_mem_cons] at hapart
  rw [reading, after?_append,
    h.after?_opening_eq_none (by simp [openings]) (by simp [openings]) hapart.1.1 ht]

theorem reading_take {t : Text} (ht : ∀ c ∈ t, Text.Settled c) :
    reading d (d.takeMark ++ t) = takeRow t := by
  have hapart := h.openings_apart
  simp only [openings, List.pairwise_cons, List.forall_mem_cons] at hapart
  rw [reading, after?_append,
    h.after?_opening_eq_none (by simp [openings]) (by simp [openings]) hapart.1.2.1 ht,
    h.after?_opening_eq_none (by simp [openings]) (by simp [openings]) hapart.2.1.1 ht]

theorem reading_sort {t : Text} (ht : ∀ c ∈ t, Text.Settled c) :
    reading d (d.sortMark ++ t) = sortRow d t := by
  have hapart := h.openings_apart
  simp only [openings, List.pairwise_cons, List.forall_mem_cons] at hapart
  rw [reading, after?_append,
    h.after?_opening_eq_none (by simp [openings]) (by simp [openings]) hapart.1.2.2.1 ht,
    h.after?_opening_eq_none (by simp [openings]) (by simp [openings]) hapart.2.1.2.1 ht,
    h.after?_opening_eq_none (by simp [openings]) (by simp [openings]) hapart.2.2.1.1 ht]

end Dialect.Plain

/-! ### The rows decode rendered operations -/

namespace Segment

variable {d : Dialect}

theorem skipRow_ofNat (n : UInt64) : skipRow (Text.ofNat n.toNat) = .ok (some (.skip n)) := by
  rw [skipRow, Text.word64?_ofNat]

theorem takeRow_ofNat (n : UInt64) :
    takeRow (Text.ofNat n.toNat) = .ok (some (.take (.count n))) := by
  rw [takeRow, Text.word64?_ofNat]

theorem takeRow_takeAll (h : d.Plain) : takeRow d.takeAll = .ok (some (.take .unbounded)) := by
  rw [takeRow, h.takeAll.2]

/-- A page is decoded whether or not its size is written: the default size is that of the dialect,
and no page is larger than the maximum of `Int64`. -/
theorem pageRow_render (hinner : ∀ n, d.innerSeparator ∉ Text.ofNat n) (p : Page) :
    pageRow d (Text.ofNat p.number ++
      if p.take = d.defaultPageSize then [] else d.innerSeparator :: Text.ofNat p.take.toNat) =
      .ok (some (.page p)) := by
  obtain ⟨-, hle, -, hnum⟩ := p.valid
  have hnumber : Text.int64? (Text.ofNat p.number) = some (Int64.ofNat p.number) :=
    Text.int64?_ofNat hnum
  have hsize : Text.int64? (Text.ofNat p.take.toNat) = some (Int64.ofNat p.take.toNat) :=
    Text.int64?_ofNat hle
  by_cases hdefault : p.take = d.defaultPageSize
  · -- the size is left out, and decoded as the default size
    have hassumed : assumedSize d = Int64.ofNat p.take.toNat := by
      rw [assumedSize, ← hdefault, Nat.min_eq_left (by omega)]
    rw [if_pos hdefault, pageRow, List.append_nil, List.splitOn_eq_singleton (hinner _)]
    simp only [hnumber, Option.getD_some, hassumed, Page.of?_number]
    rfl
  · -- the size is written behind the inner separator
    rw [if_neg hdefault, pageRow, List.splitOn_append_cons_self_of_not_mem (hinner _),
      List.splitOn_eq_singleton (hinner _)]
    simp only [hnumber, hsize, Option.getD_some, Page.of?_number]
    rfl

/-- Columns are split where they were joined. -/
theorem columns_intercalate {s : Sorting} (hspelled : (Operation.sort s).Spelled d) :
    columns d ([d.listDelimiter].intercalate s.columns) = s.columns := by
  rw [columns, List.splitOn_intercalate _ (fun c hc => (hspelled c hc).2.2) s.columns_ne_nil]
  exact List.filter_eq_self.2 fun c hc => by simpa using (hspelled c hc).1

/-- A sort is decoded unless it is ascending and its columns begin with `descendingMark`, which is
then removed. -/
theorem sortRow_render_iff (h : d.Plain) {s : Sorting} (hspelled : (Operation.sort s).Spelled d) :
    sortRow d ((if s.descending then d.descendingMark else []) ++
      [d.listDelimiter].intercalate s.columns) = .ok (some (.sort s)) ↔
      (Operation.sort s).Apart d := by
  have hmade := Sorting.of?_columns s
  cases hdescending : s.descending with
  | true =>
    -- the descending mark matches where it was written
    rw [hdescending] at hmade
    refine iff_of_true ?_ fun hfalse => absurd (hfalse.symm.trans hdescending) (by simp)
    rw [if_pos rfl, sortRow, after?_append]
    simp only [columns_intercalate hspelled, hmade]
    rfl
  | false =>
    rw [hdescending] at hmade
    rw [if_neg (by simp), List.nil_append, Operation.Apart, hdescending]
    have hmark : ∀ c ∈ d.descendingMark, Text.Settled c :=
      (h.quiet_mark (m := (.descending, d.descendingMark)) (by simp [Dialect.marks])).settled
    have hjoined : ∀ c ∈ [d.listDelimiter].intercalate s.columns, Text.Settled c :=
      (Dialect.quiet_intercalate (h.quiet_delimiter (by simp)) fun c hc =>
        Dialect.quiet_of_lower (s.lower_columns c hc) (hspelled c hc).2.1).settled
    have hiff := after?_eq_none_iff hmark hjoined
    -- the descending mark matches only if the columns begin with it
    cases hafter : after? d.descendingMark ([d.listDelimiter].intercalate s.columns) with
    | none =>
      refine iff_of_true ?_ fun _ => hiff.1 hafter
      rw [sortRow, hafter]
      simp only [columns_intercalate hspelled, hmade]
      rfl
    | some rest =>
      rw [hafter] at hiff
      refine iff_of_false ?_ fun hno => absurd (hiff.2 (hno rfl)) (by simp)
      rw [sortRow, hafter]
      -- the row then decodes a descending sort
      intro hread
      obtain ⟨s', hs', hop⟩ := exists_of_map_eq_ok hread
      obtain rfl := Operation.sort.inj (Option.some.inj hop)
      exact absurd (hdescending.symm.trans (Sorting.eq_of_of? hs').2) (by simp)

/-- A filter is split where its parts were joined. -/
theorem filterRow_render (h : d.Plain) {f : Filter} (hspelled : (Operation.filter f).Spelled d) :
    filterRow d (f.render d) = .ok (some (.filter f)) := by
  obtain ⟨hfield, hpart, hvalue⟩ := hspelled
  -- no part contains the inner separator, so the filter has three parts
  have hinner : d.innerSeparator ∉ f.value.render d := by
    cases hv : f.value with
    | null => exact h.nullWord.2
    | text t =>
      rw [hv] at hvalue
      exact hvalue.1.2.2
  have hsplit : (f.render d).splitOn d.innerSeparator =
      [f.field, f.comparator.token, f.value.render d] := by
    rw [Filter.render, List.append_assoc, List.cons_append,
      List.splitOn_append_cons_self_of_not_mem hpart.2.2,
      List.splitOn_append_cons_self_of_not_mem (h.separator_notMem_token (by simp) _),
      List.splitOn_eq_singleton hinner]
  -- the null word stands for null, and no spelled text is that word
  have hread : (if Text.sameLetters (f.value.render d) d.nullWord then FilterValue.null
      else .text (Text.lower (f.value.render d))) = f.value := by
    cases hv : f.value with
    | null => exact if_pos (Text.sameLetters_refl d.nullWord)
    | text t =>
      rw [hv] at hvalue
      have ht : ∀ c ∈ t, Text.Settled c := (Text.lower_eq_self_iff t).1 hvalue.1.1
      have hnot : ¬ Text.sameLetters t d.nullWord = true := fun hsame =>
        hvalue.2 ((Text.sameLetters_iff_eq ht h.quiet_nullWord.settled).1 hsame)
      rw [FilterValue.render, if_neg hnot, hvalue.1.1]
  rw [filterRow_of_splitOn hsplit hfield (Comparator.ofToken?_token _), hread, hpart.1]

end Segment

/-! ### Rendered operations are decoded -/

/-- **The segment of a spelled operation** is decoded to the operation exactly if the operation is
apart. -/
theorem reading_render_iff {d : Dialect} (h : d.Plain) {op : Operation}
    (hspelled : op.Spelled d) : reading d (op.render d) = .ok (some op) ↔ op.Apart d := by
  have hsettled := (quiet_render h hspelled).1.settled
  cases op with
  | sort s =>
    rw [Operation.render, Sorting.render, List.append_assoc] at hsettled ⊢
    rw [h.reading_sort fun c hc => hsettled c (List.mem_append_right _ hc)]
    exact sortRow_render_iff h hspelled
  | skip n =>
    rw [Operation.render, h.reading_skip (h.quiet_ofNat _).settled, skipRow_ofNat]
    exact iff_of_true rfl trivial
  | take limit =>
    refine iff_of_true ?_ trivial
    cases limit with
    | count n =>
      rw [Operation.render, Limit.render, h.reading_take (h.quiet_ofNat _).settled, takeRow_ofNat]
    | unbounded =>
      rw [Operation.render, Limit.render, h.reading_take h.quiet_takeAll.settled,
        takeRow_takeAll h]
  | page p =>
    refine iff_of_true ?_ trivial
    rw [Operation.render, Page.render, List.append_assoc, Dialect.Plain.reading_page]
    exact pageRow_render (fun n => h.separator_notMem_ofNat (by simp) n) p
  | filter f =>
    -- a filter is decoded if none of the four marks matches
    have hopening : ∀ m ∈ d.openings, (after? m (f.render d) = none ↔ ¬ m <+: f.render d) :=
      fun m hm => after?_eq_none_iff (h.settled_opening hm) hsettled
    simp only [Dialect.openings, List.forall_mem_cons] at hopening
    obtain ⟨hpage, hskip, htake, hsort, -⟩ := hopening
    rw [Operation.render, reading_filter_iff, hpage, hskip, htake, hsort]
    simp only [filterRow_render h hspelled, Operation.Apart, Dialect.openings,
      List.forall_mem_cons, List.not_mem_nil, false_imp_iff, implies_true, and_true]

/-! ### Serialized queries are split -/

/-- Quiet segments are serialized without a change. -/
theorem serialize_eq {d : Dialect} (h : d.Plain) {operations : List Operation}
    (hspelled : ∀ op ∈ operations, op.Spelled d) (hne : operations ≠ []) :
    serialize d operations =
      d.separator :: [d.separator].intercalate (operations.map (Operation.render d)) ++
        [d.separator] := by
  rw [serialize, if_neg (by simpa using hne), Text.lower_eq_self_iff]
  have hsegments : ∀ t ∈ operations.map (Operation.render d), ∀ c ∈ t, Text.Settled c := by
    intro t ht
    obtain ⟨op, hop, rfl⟩ := List.mem_map.1 ht
    exact (quiet_render h (hspelled op hop)).1.settled
  have hsep := h.settled_delimiter (List.mem_cons_self ..)
  rw [List.forall_mem_append, List.forall_mem_cons, List.forall_mem_singleton]
  exact ⟨⟨hsep, Text.forall_mem_intercalate hsep hsegments⟩, hsep⟩

/-- The pieces of a serialized query are the rendered operations. -/
theorem pieces_serialize {d : Dialect} (h : d.Plain) {operations : List Operation}
    (hspelled : ∀ op ∈ operations, op.Spelled d) :
    Query.pieces d (serialize d operations) = operations.map (Operation.render d) := by
  by_cases hne : operations = []
  · subst hne
    rfl
  · have hsegments : ∀ t ∈ operations.map (Operation.render d), t ≠ [] ∧ d.separator ∉ t := by
      intro t ht
      obtain ⟨op, hop, rfl⟩ := List.mem_map.1 ht
      obtain ⟨hquiet, hnot⟩ := quiet_render h (hspelled op hop)
      exact ⟨hnot, hquiet.separator_notMem⟩
    rw [serialize_eq h hspelled hne, Query.pieces_append_separator, Query.pieces_separator_cons,
      Query.pieces_intercalate d hsegments, Query.pieces_nil, List.append_nil]

/-- **A serialized query is compiled** operation by operation. -/
theorem compile_serialize {d : Dialect} (h : d.Plain) {operations : List Operation}
    (hspelled : ∀ op ∈ operations, op.Spelled d) :
    compile d (serialize d operations) =
      Query.collect (operations.map fun op => reading d (op.render d)) := by
  rw [Query.compile_eq_collect_reading, pieces_serialize h hspelled, List.map_map]
  rfl

/-- A query of spelled operations compiles to itself exactly if all of them are apart. -/
theorem compile_serialize_eq_ok_iff {d : Dialect} (h : d.Plain) {operations : List Operation}
    (hspelled : ∀ op ∈ operations, op.Spelled d) :
    compile d (serialize d operations) = .ok operations ↔ ∀ op ∈ operations, op.Apart d := by
  rw [compile_serialize h hspelled, Query.collect_map_eq_ok_iff]
  exact forall₂_congr fun op hop => reading_render_iff h (hspelled op hop)

/-! ### Compiled operations are spelled -/

/-- Lower-casing brings no delimiter into the text, and gives `nullWord` only for a spelling of it.
-/
structure Dialect.LowersFaithfully (d : Dialect) (t : Text) : Prop where
  delimiters : ∀ x ∈ [d.separator, d.innerSeparator, d.listDelimiter],
    x ∈ Text.lower t → x ∈ t
  nullWord : Text.lower t = d.nullWord → Text.sameLetters t d.nullWord = true

/-- A settled text is lower-cased faithfully. -/
theorem Dialect.lowersFaithfully_of_settled (d : Dialect) {t : Text}
    (h : ∀ c ∈ t, Text.Settled c) : d.LowersFaithfully t where
  delimiters x _ hx := by
    rwa [(Text.lower_eq_self_iff t).2 h] at hx
  nullWord ht := by
    rw [← ht, (Text.lower_eq_self_iff t).2 h]
    exact Text.sameLetters_refl t

/-- **Decoded operations are spelled**, if the parts of the segment are lower-cased faithfully. -/
theorem spelled_of_reading {d : Dialect} {piece : Text}
    (hlower : ∀ t : Text, (∀ c ∈ t, c ∈ piece) → d.LowersFaithfully t)
    (hsep : d.separator ∉ piece) {op : Operation} (h : reading d piece = .ok (some op)) :
    op.Spelled d := by
  have hpart : ∀ t : Text, (∀ c ∈ t, c ∈ piece) → d.separator ∉ Text.lower t := fun t ht hx =>
    hsep (ht _ ((hlower t ht).delimiters _ (by simp) hx))
  cases op with
  | sort s =>
    obtain ⟨rest, hrest, hrow⟩ := reading_sort h
    obtain ⟨mark, rfl, -⟩ := Text.strip?_sameLetter_eq_some_iff.1 hrest
    obtain ⟨named, descending, s', hnamed, hmade, hop⟩ := sortRow_says hrow
    obtain rfl := Operation.sort.inj hop
    -- each column is a lower-cased piece of the text behind the marks
    intro c hc
    rw [(Sorting.eq_of_of? hmade).1] at hc
    obtain ⟨column, hcolumn, rfl⟩ := List.mem_map.1 hc
    rw [columns, List.mem_filter] at hcolumn
    obtain ⟨hdelimiter, hmem⟩ := Text.mem_splitOn hcolumn.1
    have hpiece : ∀ e ∈ column, e ∈ mark ++ rest := fun e he =>
      List.mem_append_right _ (hnamed e (hmem e he))
    refine ⟨?_, hpart column hpiece, ?_⟩
    · rw [Ne, Text.lower_eq_nil_iff]
      simpa using hcolumn.2
    · intro hx
      exact hdelimiter ((hlower column hpiece).delimiters _ (by simp) hx)
  | filter f =>
    obtain ⟨field, word, value, c, hsplit, hfield, hop⟩ :=
      filterRow_says (reading_filter_iff.1 h).2
    obtain rfl := Operation.filter.inj hop
    -- both parts are pieces of the segment between inner separators
    have hcut : ∀ t ∈ [field, word, value], d.innerSeparator ∉ t ∧ ∀ c ∈ t, c ∈ piece :=
      fun t ht => Text.mem_splitOn (hsplit ▸ ht)
    have hlowered : ∀ t ∈ [field, word, value], d.Part (Text.lower t) := by
      intro t ht
      obtain ⟨hinner, hmem⟩ := hcut t ht
      exact ⟨Text.lower_lower t, hpart t hmem, fun hx =>
        hinner ((hlower t hmem).delimiters _ (by simp) hx)⟩
    refine ⟨?_, hlowered field (by simp), ?_⟩
    · rw [Ne, Text.lower_eq_nil_iff]
      exact hfield
    · by_cases hnull : Text.sameLetters value d.nullWord = true
      · rw [if_pos hnull]
        trivial
      · rw [if_neg hnull]
        refine ⟨hlowered value (by simp), fun hword => hnull ?_⟩
        exact (hlower value (hcut value (by simp)).2).nullWord hword
  | skip _ => trivial
  | take _ => trivial
  | page _ => trivial

/-- The operations that a serialized query compiles to are spelled, because it is lower-cased. -/
theorem spelled_of_compile_serialize {d : Dialect} {operations operations' : List Operation}
    (h : compile d (serialize d operations) = .ok operations') :
    ∀ op ∈ operations', op.Spelled d := by
  intro op hop
  obtain ⟨piece, hpiece, hread⟩ := Query.exists_piece_of_mem h hop
  obtain ⟨-, hsep, hmem⟩ := Query.mem_of_mem_pieces hpiece
  refine spelled_of_reading (fun t ht => d.lowersFaithfully_of_settled fun c hc => ?_) hsep hread
  -- a character of a part is one of the query, which is settled
  have hwritten := hmem c (ht c hc)
  rw [serialize] at hwritten
  split at hwritten
  · exact absurd hwritten List.not_mem_nil
  · exact Text.settled_of_mem_lower hwritten

/-- **Exactly the expressible queries compile to themselves.** In every plain dialect, such as the
default one, a query is what its serialized form compiles to, if and only if each of its operations
is expressible. -/
theorem serialize_then_compile_iff :
    Dialect.Plain {} ∧ ∀ d : Dialect, d.Plain → ∀ operations : List Operation,
      compile d (serialize d operations) = .ok operations ↔
        ∀ op ∈ operations, op.Expressible d := by
  refine ⟨Dialect.plain_default, fun d h operations => ?_⟩
  constructor
  · -- the operations were compiled, so they are spelled
    intro hback op hop
    have hspelled := spelled_of_compile_serialize hback
    exact ⟨hspelled op hop, (compile_serialize_eq_ok_iff h hspelled).1 hback op hop⟩
  · intro hall
    exact (compile_serialize_eq_ok_iff h fun op hop => (hall op hop).1).2 fun op hop =>
      (hall op hop).2

/-- A dialect with other delimiters, marks and words, in which a query with every operation is
serialized to `;by:~age+name;from:3;only:every;at:2=20;city=not=none;`. It compiles to itself, and
with a filter on an empty field added to it, it does not. -/
theorem serialize_then_compile_semicolons :
    let d : Dialect :=
      { separator := ';', innerSeparator := '=', listDelimiter := '+', pageMark := "at:".toList,
        skipMark := "from:".toList, takeMark := "only:".toList, sortMark := "by:".toList,
        descendingMark := "~".toList, takeAll := "every".toList, nullWord := "none".toList }
    let operations : List Operation :=
      [.sort ⟨["age".toList, "name".toList], true, by decide, by decide⟩, .skip 3,
        .take .unbounded, .page ⟨20, 20, by decide, by decide, by decide, by decide⟩,
        .filter ⟨"city".toList, .not, .null⟩]
    let nameless : Operation := .filter ⟨[], .equals, .null⟩
    d.Plain ∧ compile d (serialize d operations) = .ok operations ∧
      compile d (serialize d (operations ++ [nameless])) ≠ .ok (operations ++ [nameless]) := by
  intro d operations nameless
  have hplain : d.Plain := {
    check := by decide
    lower_delimiters := Text.forall_mem_of_all (by decide)
    lower_marks := by decide
    lower_words := by decide
    separators := Text.forall_mem_of_all (by decide)
    openings_apart := by decide
    takeAll := by decide
    nullWord := by decide }
  refine ⟨hplain, (serialize_then_compile_iff.2 d hplain operations).2 (by decide), ?_⟩
  rw [Ne, serialize_then_compile_iff.2 d hplain]
  decide

end RecordQuery

import RecordQuery.Proofs.LetterCase
import RecordQuery.Proofs.Paging
import RecordQuery.Proofs.RoundTrip

/-!
# Unambiguous dialects

`Dialect.check` checks each mark by itself, and as written. Whether an operation is decoded again
depends on the marks together, with digits behind them, and lower-cased. So there are checked
dialects in which a skip is decoded as a page (`skip_is_read_as_page`).

`Dialect.Unambiguous` is the condition on a checked dialect that is sufficient and necessary for
skips, takes and pages (`reads_back_iff_unambiguous`). It is sufficient because each operation is
one marked segment (`readsBack_marked_iff`), or for a take without limit the segments of `takeAll`
(`readsBack_unbounded_iff`). It is necessary because without a condition some operation is lost:

* an operation is decoded behind its mark from a lower-cased segment, so `lower` changes at most the
  ASCII case of the mark (`quiet_mark_of_mem_pieces`);
* a separator that `lower` changes does not split the serialized query
  (`settled_separator_of_readsBack`), and a digit as the separator splits a count
  (`isDigit_separator_of_readsBack`);
* an inner separator that `lower` changes leaves every page with the default size
  (`settled_innerSeparator_of_readsBack`), and a digit as the inner separator splits page numbers
  (`isDigit_innerSeparator_of_readsBack`).
-/

namespace RecordQuery

open RecordQuery.Segment

/-! ### Lower-cased marks -/

namespace Text

theorem uncased_ofNat (n : Nat) : (ofNat n).uncased = ofNat n :=
  uncased_of_isDigit (List.all_eq_true.2 fun _ hc => isDigit_of_mem_ofNat hc)

/-- The lower case of a text ends in the lower case of its last character, in its context. -/
theorem exists_lowerAfter_concat (before t : Text) (c : Char) :
    ∃ (head : Text) (place : Text), lowerAfter before (t ++ [c]) = head ++ lowerAt place c [] := by
  obtain ⟨head, hhead⟩ := exists_lowerAfter_append before t [c]
  refine ⟨head, t.reverse ++ before, ?_⟩
  rw [hhead, lowerAfter, lowerAfter, List.append_nil]

/-- A numeral ends in a digit. -/
theorem exists_concat_of_natural? {t : Text} {n : Nat} (h : natural? t = some n) :
    ∃ (s : Text) (c : Char), t = s ++ [c] ∧ c.isDigit = true := by
  unfold natural? at h
  split at h
  · next hdigits =>
    rw [Bool.and_eq_true, Bool.not_eq_true', List.isEmpty_eq_false_iff] at hdigits
    refine ⟨t.dropLast, t.getLast hdigits.1, (List.dropLast_concat_getLast hdigits.1).symm, ?_⟩
    exact List.all_eq_true.1 hdigits.2 _ (List.getLast_mem hdigits.1)
  · exact absurd h (by simp)

theorem exists_concat_of_word64? {t : Text} {n : UInt64} (h : word64? t = some n) :
    ∃ (s : Text) (c : Char), t = s ++ [c] ∧ c.isDigit = true := by
  obtain ⟨m, hm, -⟩ := Option.bind_eq_some_iff.1 h
  unfold unsigned? at hm
  split at hm
  · next rest =>
    -- the sign precedes the digits
    obtain ⟨s, c, rfl, hc⟩ := exists_concat_of_natural? hm
    exact ⟨'+' :: s, c, rfl, hc⟩
  · exact exists_concat_of_natural? hm

theorem isAlpha_of_isDigit {c : Char} (h : c.isDigit = true) : c.isAlpha = false :=
  forall_ascii (P := fun c => c.isDigit = true → c.isAlpha = false) (by decide +kernel)
    (toNat_lt_of_isDigit h) h

/-- A digit is the numeral of a number, and after a one that of another number. -/
theorem ofNat_of_isDigit {c : Char} (h : c.isDigit = true) :
    c.toNat - 48 < 10 ∧ ofNat (c.toNat - 48) = [c] ∧ ofNat (10 + (c.toNat - 48)) = ['1', c] :=
  forall_ascii (P := fun c => c.isDigit = true → c.toNat - 48 < 10 ∧
    ofNat (c.toNat - 48) = [c] ∧ ofNat (10 + (c.toNat - 48)) = ['1', c]) (by decide +kernel)
    (toNat_lt_of_isDigit h) h

end Text

namespace Segment

theorem map_some_ne_ok_none {α : Type} {e : Except QueryError α} {f : α → Operation} :
    (e.map fun a => some (f a)) ≠ .ok none := by
  cases e <;> simp [Except.map]

/-- A mark matches a settled text exactly if the text begins with the `uncased` mark. -/
theorem after?_eq_some_iff {mark t rest : Text} (ht : ∀ c ∈ t, Text.Settled c) :
    after? mark t = some rest ↔ t = mark.uncased ++ rest := by
  rw [after?, Text.strip?_sameLetter_eq_some_iff]
  constructor
  · rintro ⟨head, rfl, hsame⟩
    have hhead : head.uncased = head :=
      Text.map_toLower_of_settled fun c hc => ht c (List.mem_append_left _ hc)
    rw [(Text.sameLetters_iff_uncased mark head).1 hsame, hhead]
  · rintro rfl
    refine ⟨mark.uncased, rfl, ?_⟩
    rw [Text.sameLetters_iff_uncased, Text.uncased_uncased]

/-- A mark matches the text that begins with the `uncased` mark. -/
theorem after?_uncased_append (mark t : Text) : after? mark (mark.uncased ++ t) = some t := by
  refine Text.strip?_sameLetter_eq_some_iff.2 ⟨mark.uncased, rfl, ?_⟩
  rw [Text.sameLetters_uncased_right]
  exact Text.sameLetters_refl mark

theorem after?_eq_none_iff_uncased {mark t : Text} (ht : ∀ c ∈ t, Text.Settled c) :
    after? mark t = none ↔ ¬ mark.uncased <+: t := by
  rw [Option.eq_none_iff_forall_ne_some]
  constructor
  · rintro h ⟨rest, rfl⟩
    exact h rest ((after?_eq_some_iff ht).2 rfl)
  · intro h rest hrest
    exact h ⟨rest, ((after?_eq_some_iff ht).1 hrest).symm⟩

theorem skipRow_eq_ok_iff {t : Text} {n : UInt64} :
    skipRow t = .ok (some (.skip n)) ↔ Text.word64? t = some n := by
  unfold skipRow
  cases Text.word64? t <;> simp

theorem takeRow_eq_unbounded_iff {t : Text} :
    takeRow t = .ok (some (.take .unbounded)) ↔ Text.word64? t = none := by
  unfold takeRow
  cases Text.word64? t <;> simp

theorem pageRow_eq_none_iff {d : Dialect} {t : Text} :
    pageRow d t = .ok none ↔ 2 < (t.splitOn d.innerSeparator).length := by
  unfold pageRow
  have hne := List.splitOn_ne_nil d.innerSeparator t
  generalize t.splitOn d.innerSeparator = parts at hne
  rcases parts with _ | ⟨number, _ | ⟨size, _ | ⟨other, others⟩⟩⟩
  · exact absurd rfl hne
  · simp [map_some_ne_ok_none]
  · simp [map_some_ne_ok_none]
  · simp

theorem skipRow_eq_none_iff {t : Text} : skipRow t = .ok none ↔ Text.word64? t = none := by
  unfold skipRow
  cases Text.word64? t <;> simp

theorem takeRow_ne_none {t : Text} : takeRow t ≠ .ok none := by
  unfold takeRow
  cases Text.word64? t <;> simp

theorem sortRow_ne_none {d : Dialect} {t : Text} : sortRow d t ≠ .ok none := by
  unfold sortRow
  cases after? d.descendingMark t <;> exact map_some_ne_ok_none

theorem filterRow_eq_none_iff {d : Dialect} {t : Text} :
    filterRow d t = .ok none ↔
      ∀ field word value, t.splitOn d.innerSeparator = [field, word, value] →
        field = [] ∨ Comparator.ofToken? word = none := by
  constructor
  · intro h field word value hsplit
    by_contra hfilter
    rw [not_or] at hfilter
    obtain ⟨c, hc⟩ := Option.ne_none_iff_exists'.1 hfilter.2
    rw [filterRow_of_splitOn hsplit hfilter.1 hc] at h
    exact absurd h (by simp)
  · intro h
    unfold filterRow
    split
    · next field word value hsplit =>
      rcases h field word value hsplit with rfl | hword
      · rfl
      · rw [hword]
        split <;> rfl
    · rfl

end Segment

/-! ### Unambiguous dialects -/

namespace Dialect

/-- The marks of the operations with counts, in the order of the table. -/
def countMarks (d : Dialect) : List Text := [d.pageMark, d.skipMark, d.takeMark]

theorem forall_mem_countMarks {d : Dialect} {P : Text → Prop} :
    (∀ m ∈ d.countMarks, P m) ↔ P d.pageMark ∧ P d.skipMark ∧ P d.takeMark := by
  simp only [countMarks, List.forall_mem_cons, List.not_mem_nil, false_imp_iff, implies_true,
    and_true]

theorem pairwise_countMarks {d : Dialect} {R : Text → Text → Prop} :
    d.countMarks.Pairwise R ↔
      (R d.pageMark d.skipMark ∧ R d.pageMark d.takeMark) ∧ R d.skipMark d.takeMark := by
  simp only [countMarks, List.pairwise_cons, List.forall_mem_cons, List.Pairwise.nil,
    List.not_mem_nil, false_imp_iff, implies_true, and_true]

/-- The text of `takeAll` and the separator behind it, lower-cased in the context in which
`serialize` writes them. The context matters for a capital sigma only. -/
def writtenAll (d : Dialect) : Text :=
  Text.lowerAfter (d.takeMark.reverse ++ [d.separator]) (d.takeAll ++ [d.separator])

/-- The parts of `writtenAll` between separators, with `takeMark` in front of the first one. There
are several if `takeAll` contains the separator. -/
def allSegments (d : Dialect) : List Text :=
  ((d.writtenAll.splitOn d.separator).modifyHead (d.takeMark.uncased ++ ·)).filter fun segment =>
    !segment.isEmpty

/-- The segment is decoded to a take without limit: no mark before `takeMark` matches, and the text
behind `takeMark` is no count. -/
structure SaysAll (d : Dialect) (segment : Text) : Prop where
  not_page : ¬ d.pageMark.uncased <+: segment
  not_skip : ¬ d.skipMark.uncased <+: segment
  take : ∃ word, segment = d.takeMark.uncased ++ word ∧ Text.word64? word = none

/-- The segment is decoded to no operation. -/
inductive SaysNothing (d : Dialect) (segment : Text) : Prop
  /-- More than two parts follow `pageMark`. -/
  | page (rest : Text) (hmark : segment = d.pageMark.uncased ++ rest)
    (hparts : 2 < (rest.splitOn d.innerSeparator).length)
  /-- No count follows `skipMark`. -/
  | skip (rest : Text) (hpage : ¬ d.pageMark.uncased <+: segment)
    (hmark : segment = d.skipMark.uncased ++ rest) (hcount : Text.word64? rest = none)
  /-- No mark matches, and the segment is not a field, the token of a comparator, and a value. -/
  | filter
    (hmarks : ∀ m ∈ [d.pageMark, d.skipMark, d.takeMark, d.sortMark], ¬ m.uncased <+: segment)
    (hparts : ∀ field word value, segment.splitOn d.innerSeparator = [field, word, value] →
      field = [] ∨ Comparator.ofToken? word = none)

/-- One of `allSegments` is decoded to a take without limit, and the others to no operation. -/
def TakesAll (d : Dialect) : Prop :=
  ∃ before segment after, d.allSegments = before ++ segment :: after ∧
    d.SaysAll segment ∧ ∀ other ∈ before ++ after, d.SaysNothing other

/-- **Unambiguous dialects**, in which skips, takes and pages can be told apart as serialized. -/
structure Unambiguous (d : Dialect) : Prop where
  /-- The separators are settled, and no digits. -/
  separators : ∀ c ∈ [d.separator, d.innerSeparator], Text.Settled c ∧ c.isDigit = false
  /-- Lower-casing changes at most the ASCII case of a mark, and no mark contains the separator. -/
  marks : ∀ m ∈ d.countMarks, d.Quiet m.uncased
  /-- No mark with a digit behind it begins with an earlier mark. -/
  apart : d.countMarks.Pairwise fun m m' =>
    ∀ n : UInt64, ¬ m.uncased <+: m'.uncased ++ Text.ofNat n.toNat
  takesAll : d.TakesAll

end Dialect

/-! ### Serializing one operation -/

theorem serialize_singleton (d : Dialect) (op : Operation) :
    serialize d [op] = Text.lower (d.separator :: op.render d ++ [d.separator]) := by
  rw [serialize, if_neg (by simp), List.map_singleton, List.intercalate_singleton]

/-- The operation is what its serialized form compiles to. -/
def Dialect.ReadsBack (d : Dialect) (op : Operation) : Prop :=
  compile d (serialize d [op]) = .ok [op]

section Written

variable {d : Dialect} {op : Operation}

/-- If the `uncased` form of the rendered operation is settled, it has the pieces of the serialized
query. -/
theorem pieces_serialize_singleton (hsep : Text.Settled d.separator)
    (hsettled : ∀ c ∈ (op.render d).uncased, Text.Settled c) :
    Query.pieces d (serialize d [op]) = Query.pieces d (op.render d).uncased := by
  have huncased : Text.uncased (d.separator :: op.render d ++ [d.separator]) =
      d.separator :: (op.render d).uncased ++ [d.separator] := by
    have hlow := Text.toLower_of_settled hsep
    rw [Text.uncased_append, Text.uncased_cons, Text.uncased_cons, hlow]
    rfl
  have hall : ∀ c ∈ Text.uncased (d.separator :: op.render d ++ [d.separator]),
      Text.Settled c := by
    rw [huncased, List.forall_mem_append, List.forall_mem_cons, List.forall_mem_singleton]
    exact ⟨⟨hsep, hsettled⟩, hsep⟩
  calc Query.pieces d (serialize d [op])
      = Query.pieces d (d.separator :: (op.render d).uncased ++ [d.separator]) := by
        rw [serialize_singleton, Text.lower_eq_uncased hall, huncased]
    _ = Query.pieces d (op.render d).uncased := by
        rw [Query.pieces_append_separator, Query.pieces_separator_cons, Query.pieces_nil,
          List.append_nil]

/-- An operation that renders to a quiet text is read back exactly if this one segment is decoded to
it. -/
theorem readsBack_iff_reading (hsep : Text.Settled d.separator)
    (hquiet : d.Quiet (op.render d).uncased) (hne : (op.render d).uncased ≠ []) :
    d.ReadsBack op ↔ reading d (op.render d).uncased = .ok (some op) := by
  have hone : Query.collect ([op].map fun op => reading d (op.render d).uncased) = .ok [op] ↔
      reading d (op.render d).uncased = .ok (some op) := by
    rw [Query.collect_map_eq_ok_iff, List.forall_mem_singleton]
  rw [Dialect.ReadsBack, Query.compile_eq_collect_reading,
    pieces_serialize_singleton hsep hquiet.settled,
    Query.pieces_eq_singleton hne hquiet.separator_notMem, ← hone]
  rfl

/-- A serialized query is settled. -/
theorem settled_of_mem_serialize {c : Char} (h : c ∈ serialize d [op]) : Text.Settled c := by
  rw [serialize_singleton] at h
  exact Text.settled_of_mem_lower h

theorem quiet_of_mem_pieces_serialize {piece : Text}
    (h : piece ∈ Query.pieces d (serialize d [op])) : d.Quiet piece := by
  obtain ⟨-, hsep, hmem⟩ := Query.mem_of_mem_pieces h
  intro c hc
  refine ⟨settled_of_mem_serialize (hmem c hc), ?_⟩
  rintro rfl
  exact hsep hc

end Written

/-! ### Operations are decoded behind their mark -/

namespace Dialect.ReadsBack

variable {d : Dialect}

/-- If an operation is decoded behind a mark only, and is read back, a segment begins with the
`uncased` mark. -/
theorem exists_marked_piece {op : Operation} {mark : Text} {Says : Text → Prop}
    (hmark : ∀ piece, reading d piece = .ok (some op) →
      ∃ rest, after? mark piece = some rest ∧ Says rest) (h : d.ReadsBack op) :
    ∃ rest, mark.uncased ++ rest ∈ Query.pieces d (serialize d [op]) ∧ Says rest := by
  obtain ⟨piece, hpiece, hread⟩ := Query.exists_piece_of_mem h (List.mem_singleton_self _)
  obtain ⟨rest, hafter, hsays⟩ := hmark piece hread
  have hsettled := (quiet_of_mem_pieces_serialize hpiece).settled
  rw [after?_eq_some_iff hsettled] at hafter
  subst hafter
  exact ⟨rest, hpiece, hsays⟩

theorem skip_piece {n : UInt64} (h : d.ReadsBack (.skip n)) :
    ∃ rest, d.skipMark.uncased ++ rest ∈ Query.pieces d (serialize d [.skip n]) ∧
      Text.word64? rest = some n := by
  refine h.exists_marked_piece fun piece hread => ?_
  obtain ⟨-, rest, hafter, hrow⟩ := reading_skip_iff.1 hread
  exact ⟨rest, hafter, skipRow_eq_ok_iff.1 hrow⟩

theorem take_piece {limit : Limit} (h : d.ReadsBack (.take limit)) :
    ∃ rest, d.takeMark.uncased ++ rest ∈ Query.pieces d (serialize d [.take limit]) ∧
      takeRow rest = .ok (some (.take limit)) :=
  h.exists_marked_piece fun _ hread => (reading_take_iff.1 hread).2.2

theorem page_piece {p : Page} (h : d.ReadsBack (.page p)) :
    ∃ rest, d.pageMark.uncased ++ rest ∈ Query.pieces d (serialize d [.page p]) ∧
      pageRow d rest = .ok (some (.page p)) :=
  h.exists_marked_piece fun _ hread => reading_page_iff.1 hread

end Dialect.ReadsBack

/-- An `uncased` mark in front of a piece of a serialized query is quiet. -/
theorem quiet_mark_of_mem_pieces {d : Dialect} {op : Operation} {mark rest : Text}
    (h : mark ++ rest ∈ Query.pieces d (serialize d [op])) : d.Quiet mark :=
  fun c hc => quiet_of_mem_pieces_serialize h c (List.mem_append_left _ hc)

/-! ### Separators that are lost -/

section Separators

variable {d : Dialect}

/-- A separator that `lower` changes does not split the serialized skip, whose one segment then ends
in the changed separator and not in a digit. -/
theorem settled_separator_of_readsBack {n : UInt64} (h : d.ReadsBack (.skip n)) :
    Text.Settled d.separator := by
  by_contra hsep
  obtain ⟨rest, hpiece, hcount⟩ := h.skip_piece
  have hnot : d.separator ∉ serialize d [.skip n] := fun hmem =>
    hsep (settled_of_mem_serialize hmem)
  have hne : serialize d [.skip n] ≠ [] := by
    rw [serialize_singleton, Ne, Text.lower_eq_nil_iff]
    exact List.cons_ne_nil _ _
  rw [Query.pieces_eq_singleton hne hnot, List.mem_singleton, serialize_singleton] at hpiece
  obtain ⟨s, c, rfl, hdigit⟩ := Text.exists_concat_of_word64? hcount
  obtain ⟨head, place, hlower⟩ := Text.exists_lowerAfter_concat []
    (d.separator :: Operation.render d (.skip n)) d.separator
  -- the last character is a digit of the count, and comes from the separator
  have hlast : (Text.lowerAt place d.separator []).getLast? = some c := by
    calc (Text.lowerAt place d.separator []).getLast?
        = (head ++ Text.lowerAt place d.separator []).getLast? :=
          (List.getLast?_append_of_ne_nil _ (Text.lowerAt_ne_nil _ _ _)).symm
      _ = (d.skipMark.uncased ++ (s ++ [c])).getLast? :=
          congrArg List.getLast? (hpiece.trans hlower).symm
      _ = some c := by rw [← List.append_assoc, List.getLast?_concat]
  have hletter : c.isAlpha = false := Text.isAlpha_of_isDigit hdigit
  have hc := Text.eq_of_mem_lowerAt (Text.toNat_lt_of_isDigit hdigit) hletter
    (List.mem_of_getLast? hlast)
  exact hsep (hc ▸ Text.settled_of_isDigit hdigit)

/-- If the separator is a digit, the count with this digit alone is split off, and nothing follows
the mark. -/
theorem isDigit_separator_of_readsBack (h : ∀ n, d.ReadsBack (.skip n)) :
    d.separator.isDigit = false := by
  have hsep := settled_separator_of_readsBack (h 0)
  by_contra hdigit
  rw [Bool.not_eq_false] at hdigit
  obtain ⟨hlt, hwritten, -⟩ := Text.ofNat_of_isDigit hdigit
  obtain ⟨n, hn⟩ : ∃ n : UInt64, n.toNat = d.separator.toNat - 48 :=
    ⟨UInt64.ofNat (d.separator.toNat - 48), UInt64.toNat_ofNat_of_lt' (by rw [UInt64.size]; omega)⟩
  obtain ⟨rest, hpiece, hcount⟩ := (h n).skip_piece
  have hmark := quiet_mark_of_mem_pieces hpiece
  have hrender : (Operation.render d (.skip n)).uncased = d.skipMark.uncased ++ [d.separator] := by
    rw [Operation.render, Text.uncased_append, Text.uncased_ofNat, hn, hwritten]
  have hsettled : ∀ c ∈ d.skipMark.uncased ++ [d.separator], Text.Settled c := by
    rw [List.forall_mem_append, List.forall_mem_singleton]
    exact ⟨hmark.settled, hsep⟩
  -- the only piece is the mark
  rw [pieces_serialize_singleton hsep (hrender ▸ hsettled), hrender,
    Query.pieces_append_separator, Query.pieces_nil, List.append_nil] at hpiece
  by_cases hnil : d.skipMark.uncased = []
  · rw [hnil] at hpiece
    exact absurd hpiece List.not_mem_nil
  · rw [Query.pieces_eq_singleton hnil hmark.separator_notMem, List.mem_singleton,
      List.append_right_eq_self] at hpiece
    rw [hpiece] at hcount
    exact absurd hcount.symm (Option.some_ne_none n)

/-- If `lower` changes the inner separator, the size of a page is not decoded, and every page has
the default size. -/
theorem settled_innerSeparator_of_readsBack (h : ∀ p, d.ReadsBack (.page p)) :
    Text.Settled d.innerSeparator := by
  by_contra hinner
  have hassumed : (assumedSize d).toInt = min d.defaultPageSize.toNat (2 ^ 63 - 1) := by
    rw [assumedSize, Int64.toInt_maxValue, Int64.toInt_ofNat_of_lt (by omega)]
    rfl
  -- a first page of another size
  obtain ⟨p, hsize⟩ : ∃ p : Page, (p.take.toNat : Int) ≠ (assumedSize d).toInt := by
    rw [hassumed]
    by_cases hone : d.defaultPageSize.toNat = 1
    · refine ⟨⟨0, 2, by decide, by decide, by decide, by decide⟩, ?_⟩
      change (2 : Int) ≠ _
      omega
    · refine ⟨⟨0, 1, by decide, by decide, by decide, by decide⟩, ?_⟩
      change (1 : Int) ≠ _
      omega
  obtain ⟨rest, hpiece, hrow⟩ := (h p).page_piece
  have hnot : d.innerSeparator ∉ rest := fun hmem =>
    hinner (quiet_of_mem_pieces_serialize hpiece _ (List.mem_append_right _ hmem)).1
  rw [pageRow, List.splitOn_eq_singleton hnot] at hrow
  obtain ⟨p', hmade, hop⟩ := exists_of_map_eq_ok hrow
  obtain rfl := Operation.page.inj (Option.some.inj hop)
  exact hsize (Page.of?_eq_ok_iff.1 hmade).take_eq

end Separators

/-! ### Counts behind marks -/

section Counts

variable {d : Dialect} (hsep : Text.Settled d.separator ∧ d.separator.isDigit = false)
include hsep

/-- A mark and a quiet text are one segment. -/
theorem readsBack_marked_iff {op : Operation} {mark t : Text}
    (hrender : (op.render d).uncased = mark.uncased ++ t) (hmark : d.Quiet mark.uncased)
    (ht : d.Quiet t) (hne : t ≠ []) :
    d.ReadsBack op ↔ reading d (mark.uncased ++ t) = .ok (some op) := by
  have hquiet : d.Quiet (op.render d).uncased := hrender ▸ hmark.append ht
  have hsegment : (op.render d).uncased ≠ [] := by
    rw [hrender]
    exact List.append_ne_nil_of_right_ne_nil _ hne
  rw [readsBack_iff_reading hsep.1 hquiet hsegment, hrender]

theorem readsBack_skip_iff (hmark : d.Quiet d.skipMark.uncased) (n : UInt64) :
    d.ReadsBack (.skip n) ↔
      ¬ d.pageMark.uncased <+: d.skipMark.uncased ++ Text.ofNat n.toNat := by
  have hrender : (Operation.render d (.skip n)).uncased =
      d.skipMark.uncased ++ Text.ofNat n.toNat := by
    rw [Operation.render, Text.uncased_append, Text.uncased_ofNat]
  have hcount : d.Quiet (Text.ofNat n.toNat) := Dialect.quiet_ofNat hsep.2 _
  rw [readsBack_marked_iff hsep hrender hmark hcount (Text.ofNat_ne_nil _), reading_skip_iff,
    after?_eq_none_iff_uncased (hmark.append hcount).settled]
  exact and_iff_left ⟨_, after?_uncased_append .., skipRow_ofNat n⟩

theorem readsBack_count_iff (hmark : d.Quiet d.takeMark.uncased) (n : UInt64) :
    d.ReadsBack (.take (.count n)) ↔
      ¬ d.pageMark.uncased <+: d.takeMark.uncased ++ Text.ofNat n.toNat ∧
      ¬ d.skipMark.uncased <+: d.takeMark.uncased ++ Text.ofNat n.toNat := by
  have hrender : (Operation.render d (.take (.count n))).uncased =
      d.takeMark.uncased ++ Text.ofNat n.toNat := by
    rw [Operation.render, Limit.render, Text.uncased_append, Text.uncased_ofNat]
  have hcount : d.Quiet (Text.ofNat n.toNat) := Dialect.quiet_ofNat hsep.2 _
  have hsettled := (hmark.append hcount).settled
  rw [readsBack_marked_iff hsep hrender hmark hcount (Text.ofNat_ne_nil _), reading_take_iff,
    after?_eq_none_iff_uncased hsettled, after?_eq_none_iff_uncased hsettled]
  exact and_congr_right fun _ =>
    and_iff_left ⟨_, after?_uncased_append .., takeRow_ofNat n⟩

/-- A page is read back exactly if the page row decodes its number and size: no mark is tried before
the page mark. -/
theorem readsBack_page_iff
    (hinner : Text.Settled d.innerSeparator ∧ d.innerSeparator ≠ d.separator)
    (hmark : d.Quiet d.pageMark.uncased) (p : Page) :
    d.ReadsBack (.page p) ↔ pageRow d (Text.ofNat p.number ++
      if p.take = d.defaultPageSize then [] else d.innerSeparator :: Text.ofNat p.take.toNat) =
      .ok (some (.page p)) := by
  obtain ⟨size, hsize⟩ : ∃ size : Text, (if p.take = d.defaultPageSize then []
      else d.innerSeparator :: Text.ofNat p.take.toNat) = size := ⟨_, rfl⟩
  -- the size, written or left out, has no capitals and no separator
  have hwritten : size.uncased = size ∧ d.Quiet size := by
    rw [← hsize]
    split
    · exact ⟨rfl, Dialect.quiet_nil⟩
    · refine ⟨?_, Dialect.Quiet.cons hinner (Dialect.quiet_ofNat hsep.2 _)⟩
      rw [Text.uncased_cons, Text.toLower_of_settled hinner.1, Text.uncased_ofNat]
  have hrender : (Operation.render d (.page p)).uncased =
      d.pageMark.uncased ++ (Text.ofNat p.number ++ size) := by
    rw [Operation.render, Page.render, hsize, Text.uncased_append, Text.uncased_append,
      Text.uncased_ofNat, hwritten.1, List.append_assoc]
  have hquiet : d.Quiet (Text.ofNat p.number ++ size) :=
    (Dialect.quiet_ofNat hsep.2 _).append hwritten.2
  have hne : Text.ofNat p.number ++ size ≠ [] :=
    List.append_ne_nil_of_left_ne_nil (Text.ofNat_ne_nil _) _
  rw [readsBack_marked_iff hsep hrender hmark hquiet hne, hsize, reading, after?_uncased_append]

/-- If the inner separator is a digit, it splits a page number of two digits, and the part before it
is `1` or empty, which decodes to the first page. -/
theorem isDigit_innerSeparator_of_readsBack
    (hinner : Text.Settled d.innerSeparator ∧ d.innerSeparator ≠ d.separator)
    (h : ∀ p, d.ReadsBack (.page p)) : d.innerSeparator.isDigit = false := by
  by_contra hdigit
  rw [Bool.not_eq_false] at hdigit
  obtain ⟨hlt, -, hwritten⟩ := Text.ofNat_of_isDigit hdigit
  obtain ⟨number, hnumber⟩ : ∃ number : Int64,
      number.toInt = (10 + (d.innerSeparator.toNat - 48) : Nat) :=
    ⟨Int64.ofNat _, Int64.toInt_ofNat_of_lt (by omega)⟩
  -- a page of one row, whose number is two digits: one, and the inner separator
  obtain ⟨p, hp⟩ : ∃ p, Page.of? number 1 = .ok p :=
    Page.exists_of? (by omega) (by decide) (by
      rw [UInt64.size, show (1 : Int64).toInt = 1 from rfl]
      omega)
  have hat := (Page.of?_eq_ok_iff.1 hp).number_eq
  have hcount : p.number = 10 + (d.innerSeparator.toNat - 48) := by omega
  obtain ⟨rest, hpiece, -⟩ := (h p).page_piece
  have hrow := (readsBack_page_iff hsep hinner (quiet_mark_of_mem_pieces hpiece) p).1 (h p)
  obtain ⟨size, p', hmade, hop⟩ := pageRow_says hrow
  obtain rfl := Operation.page.inj hop
  rw [hcount, hwritten] at hmade
  -- the decoded number is one
  have hone := (Page.of?_eq_ok_iff.1 hmade).number_eq
  by_cases hc : d.innerSeparator = '1'
  · rw [hc, List.cons_append, List.takeWhile_cons_of_neg (by simp)] at hone
    change (p.number : Int) = 1 at hone
    omega
  · rw [List.cons_append, List.takeWhile_cons_of_pos (by simpa using Ne.symm hc),
      List.cons_append, List.takeWhile_cons_of_neg (by simp)] at hone
    change (p.number : Int) = 1 at hone
    omega

end Counts

/-! ### Takes without limit -/

section NoLimit

variable {d : Dialect}

theorem reading_unbounded_iff {segment : Text} (h : ∀ c ∈ segment, Text.Settled c) :
    reading d segment = .ok (some (.take .unbounded)) ↔ d.SaysAll segment := by
  rw [reading_take_iff, after?_eq_none_iff_uncased h, after?_eq_none_iff_uncased h]
  simp only [after?_eq_some_iff h, takeRow_eq_unbounded_iff]
  constructor
  · rintro ⟨hpage, hskip, htake⟩
    exact ⟨hpage, hskip, htake⟩
  · rintro ⟨hpage, hskip, htake⟩
    exact ⟨hpage, hskip, htake⟩

theorem reading_none_iff {segment : Text} (h : ∀ c ∈ segment, Text.Settled c) :
    reading d segment = .ok none ↔ d.SaysNothing segment := by
  have hsome {mark rest : Text} :
      after? mark segment = some rest ↔ segment = mark.uncased ++ rest := after?_eq_some_iff h
  have hnone {mark : Text} : after? mark segment = none ↔ ¬ mark.uncased <+: segment :=
    after?_eq_none_iff_uncased h
  constructor
  · intro hread
    unfold reading at hread
    -- a take row and a sort row always decode an operation or fail
    split at hread
    · next rest hpage => exact .page rest (hsome.1 hpage) (pageRow_eq_none_iff.1 hread)
    · next rest hpage hskip =>
      exact .skip rest (hnone.1 hpage) (hsome.1 hskip) (skipRow_eq_none_iff.1 hread)
    · exact absurd hread takeRow_ne_none
    · exact absurd hread sortRow_ne_none
    · next hpage hskip htake hsort =>
      refine .filter ?_ (filterRow_eq_none_iff.1 hread)
      simpa [← hnone] using ⟨hpage, hskip, htake, hsort⟩
  · rintro (⟨rest, hmark, hparts⟩ | ⟨rest, hpage, hmark, hcount⟩ | ⟨hmarks, hparts⟩)
    · rw [reading, hsome.2 hmark]
      exact pageRow_eq_none_iff.2 hparts
    · rw [reading, hnone.2 hpage, hsome.2 hmark]
      exact skipRow_eq_none_iff.2 hcount
    · simp only [List.forall_mem_cons, ← hnone] at hmarks
      obtain ⟨hpage, hskip, htake, hsort, -⟩ := hmarks
      rw [reading, hpage, hskip, htake, hsort]
      exact filterRow_eq_none_iff.2 hparts

/-- A serialized take without limit is split into `allSegments`. -/
theorem pieces_serialize_unbounded (hsep : Text.Settled d.separator)
    (hmark : d.Quiet d.takeMark.uncased) :
    Query.pieces d (serialize d [.take .unbounded]) = d.allSegments := by
  have hlow := Text.toLower_of_settled hsep
  have hfront : ∀ c ∈ d.separator :: d.takeMark.uncased, Text.Settled c :=
    List.forall_mem_cons.2 ⟨hsep, hmark.settled⟩
  have hplace : (d.separator :: d.takeMark.uncased).reverse ++ [] =
      Text.uncased (d.takeMark.reverse ++ [d.separator]) := by
    simp [Text.uncased, hlow]
  -- `uncased` first, because then the mark is settled and `lower` changes only what is behind it
  have hwritten : serialize d [.take .unbounded] =
      d.separator :: d.takeMark.uncased ++ d.writtenAll := by
    calc serialize d [.take .unbounded]
        = Text.lower
            (Text.uncased (d.separator :: d.takeMark ++ (d.takeAll ++ [d.separator]))) := by
          rw [Text.lower_uncased, serialize_singleton, Operation.render, Limit.render]
          simp
      _ = Text.lower
            (d.separator :: d.takeMark.uncased ++ (d.takeAll ++ [d.separator]).uncased) := by
          rw [Text.uncased_append, Text.uncased_cons, hlow]
      _ = d.separator :: d.takeMark.uncased ++ d.writtenAll := by
          rw [Text.lower, Text.lowerAfter_append_of_settled hfront, hplace, Text.lowerAfter_uncased]
          rfl
  rw [hwritten, List.cons_append, Query.pieces_separator_cons, Query.pieces,
    Text.splitOn_append_of_notMem hmark.separator_notMem]
  rfl

/-- A take without limit is read back exactly if one of `allSegments` is decoded to it, and the
others to no operation. -/
theorem readsBack_unbounded_iff (hsep : Text.Settled d.separator)
    (hmark : d.Quiet d.takeMark.uncased) : d.ReadsBack (.take .unbounded) ↔ d.TakesAll := by
  have hsettled : ∀ segment ∈ d.allSegments, ∀ c ∈ segment, Text.Settled c := by
    rw [← pieces_serialize_unbounded hsep hmark]
    exact fun segment hsegment => (quiet_of_mem_pieces_serialize hsegment).settled
  rw [Dialect.ReadsBack, Query.compile_eq_collect_reading, Query.collect_eq_ok_singleton_iff,
    pieces_serialize_unbounded hsep hmark]
  constructor
  · rintro ⟨before, after, hreadings, hsilent⟩
    -- the readings are those of the segments, in order
    obtain ⟨before', rest, hsegments, rfl, hrest⟩ := List.map_eq_append_iff.1 hreadings
    obtain ⟨segment, after', rfl, hread, rfl⟩ := List.map_eq_cons_iff.1 hrest
    rw [hsegments, List.forall_mem_append, List.forall_mem_cons] at hsettled
    refine ⟨before', segment, after', hsegments, (reading_unbounded_iff hsettled.2.1).1 hread, ?_⟩
    intro other hother
    rw [← List.map_append] at hsilent
    refine (reading_none_iff ?_).1 (hsilent _ (List.mem_map_of_mem hother))
    exact (List.forall_mem_append.2 ⟨hsettled.1, hsettled.2.2⟩) other hother
  · rintro ⟨before, segment, after, hsegments, hall, hsilent⟩
    rw [hsegments, List.forall_mem_append, List.forall_mem_cons] at hsettled
    refine ⟨before.map (reading d), after.map (reading d), ?_, ?_⟩
    · rw [hsegments, List.map_append, List.map_cons,
        (reading_unbounded_iff hsettled.2.1).2 hall]
    · rw [← List.map_append, List.forall_mem_map]
      exact fun other hother => (reading_none_iff
        (List.forall_mem_append.2 ⟨hsettled.1, hsettled.2.2⟩ other hother)).2 (hsilent other hother)

end NoLimit

/-! ### Both directions -/

namespace Dialect

variable {d : Dialect}

namespace Unambiguous

variable (h : d.Unambiguous)
include h

theorem separator : Text.Settled d.separator ∧ d.separator.isDigit = false :=
  h.separators _ (by simp)

theorem innerSeparator : Text.Settled d.innerSeparator ∧ d.innerSeparator.isDigit = false :=
  h.separators _ (by simp)

theorem readsBack_skip (n : UInt64) : d.ReadsBack (.skip n) := by
  obtain ⟨-, hmark, -⟩ := forall_mem_countMarks.1 h.marks
  obtain ⟨⟨hpage, -⟩, -⟩ := pairwise_countMarks.1 h.apart
  exact (readsBack_skip_iff h.separator hmark n).2 (hpage n)

theorem readsBack_count (n : UInt64) : d.ReadsBack (.take (.count n)) := by
  obtain ⟨-, -, hmark⟩ := forall_mem_countMarks.1 h.marks
  obtain ⟨⟨-, hpage⟩, hskip⟩ := pairwise_countMarks.1 h.apart
  exact (readsBack_count_iff h.separator hmark n).2 ⟨hpage n, hskip n⟩

theorem readsBack_unbounded : d.ReadsBack (.take .unbounded) := by
  obtain ⟨-, -, hmark⟩ := forall_mem_countMarks.1 h.marks
  exact (readsBack_unbounded_iff h.separator.1 hmark).2 h.takesAll

theorem readsBack_page (hdistinct : d.innerSeparator ≠ d.separator) (p : Page) :
    d.ReadsBack (.page p) := by
  obtain ⟨hmark, -, -⟩ := forall_mem_countMarks.1 h.marks
  obtain ⟨hsettled, hdigit⟩ := h.innerSeparator
  have hrow := pageRow_render (fun n => Text.notMem_ofNat hdigit n) p
  exact (readsBack_page_iff h.separator ⟨hsettled, hdistinct⟩ hmark p).2 hrow

end Unambiguous

/-- Each condition is necessary for one of the operations. -/
theorem unambiguous_of_readsBack (hdistinct : d.innerSeparator ≠ d.separator)
    (hskip : ∀ n, d.ReadsBack (.skip n)) (hcount : ∀ n, d.ReadsBack (.take (.count n)))
    (hall : d.ReadsBack (.take .unbounded)) (hpage : ∀ p, d.ReadsBack (.page p)) :
    d.Unambiguous := by
  have hsep : Text.Settled d.separator ∧ d.separator.isDigit = false :=
    ⟨settled_separator_of_readsBack (hskip 0), isDigit_separator_of_readsBack hskip⟩
  have hinner := settled_innerSeparator_of_readsBack hpage
  have hdigit := isDigit_innerSeparator_of_readsBack hsep ⟨hinner, hdistinct⟩ hpage
  -- each mark is in a piece of a serialized operation, so it does not contain the separator
  have hpageMark : d.Quiet d.pageMark.uncased := by
    obtain ⟨_, hpiece, -⟩ :=
      (hpage ⟨0, 1, by decide, by decide, by decide, by decide⟩).page_piece
    exact quiet_mark_of_mem_pieces hpiece
  have hskipMark : d.Quiet d.skipMark.uncased := by
    obtain ⟨_, hpiece, -⟩ := (hskip 0).skip_piece
    exact quiet_mark_of_mem_pieces hpiece
  have htakeMark : d.Quiet d.takeMark.uncased := by
    obtain ⟨_, hpiece, -⟩ := hall.take_piece
    exact quiet_mark_of_mem_pieces hpiece
  have hpageApart := fun n => (readsBack_skip_iff hsep hskipMark n).1 (hskip n)
  have htakeApart := fun n => (readsBack_count_iff hsep htakeMark n).1 (hcount n)
  exact {
    separators := by simpa using ⟨hsep, hinner, hdigit⟩
    marks := forall_mem_countMarks.2 ⟨hpageMark, hskipMark, htakeMark⟩
    apart := pairwise_countMarks.2
      ⟨⟨hpageApart, fun n => (htakeApart n).1⟩, fun n => (htakeApart n).2⟩
    takesAll := (readsBack_unbounded_iff hsep.1 htakeMark).1 hall }

end Dialect

/-- **Skips, takes and pages are read back exactly in unambiguous dialects.** In a checked dialect
every skip, every take, with and without a limit, and every page compiles to itself once serialized,
if and only if the dialect is unambiguous. -/
theorem reads_back_iff_unambiguous {d : Dialect} (h : d.check = .ok ()) :
    ((∀ n, compile d (serialize d [.skip n]) = .ok [.skip n]) ∧
      (∀ n, compile d (serialize d [.take (.count n)]) = .ok [.take (.count n)]) ∧
      compile d (serialize d [.take .unbounded]) = .ok [.take .unbounded] ∧
      ∀ p, compile d (serialize d [.page p]) = .ok [.page p]) ↔ d.Unambiguous := by
  -- of the check only this is needed: the inner separator is not the separator
  have hchecked := (d.fault?_eq_none_iff.1 (d.check_eq_ok_iff.1 h)).1
  have hdistinct : d.innerSeparator ≠ d.separator := hchecked.1.symm
  constructor
  · rintro ⟨hskip, hcount, hall, hpage⟩
    exact Dialect.unambiguous_of_readsBack hdistinct hskip hcount hall hpage
  · intro hd
    exact ⟨hd.readsBack_skip, hd.readsBack_count, hd.readsBack_unbounded,
      hd.readsBack_page hdistinct⟩

/-- A dialect with capitals in its marks and in `takeAll`, which contains the separator: `;from:3;`,
`;only:every;one;` and `;at:2=7;` compile to the skip, the take and the page. -/
theorem reads_back_in_capitals :
    let d : Dialect :=
      { separator := ';', innerSeparator := '=', listDelimiter := '+', pageMark := "At:".toList,
        skipMark := "From:".toList, takeMark := "ONLY:".toList, takeAll := "Every;One".toList }
    d.check = .ok () ∧ d.Unambiguous ∧
      (∀ n, compile d (serialize d [.skip n]) = .ok [.skip n]) ∧
      (∀ n, compile d (serialize d [.take (.count n)]) = .ok [.take (.count n)]) ∧
      compile d (serialize d [.take .unbounded]) = .ok [.take .unbounded] ∧
      ∀ p, compile d (serialize d [.page p]) = .ok [.page p] := by
  intro d
  have hcheck : d.check = .ok () := by decide
  have hunambiguous : d.Unambiguous := {
    separators := Text.forall_mem_of_all (by decide +kernel)
    marks := by
      intro m hm
      refine Dialect.quiet_of_lower ?_ ?_
      · revert m
        decide
      · revert m
        decide
    apart := by
      have hmarks : d.countMarks.Pairwise fun m m' =>
          ¬ m.uncased <+: m'.uncased ∧ ¬ m'.uncased <+: m.uncased := by decide
      exact hmarks.imp fun h n => not_prefix_append h _
    takesAll := by
      refine ⟨[], "only:every".toList, ["one".toList], by decide, ⟨by decide, by decide, ?_⟩,
        List.forall_mem_singleton.2 (.filter (by decide) ?_)⟩
      · exact ⟨"every".toList, by decide, by decide⟩
      · intro field word value hsplit
        have hone : "one".toList.splitOn d.innerSeparator = ["one".toList] := by decide
        exact absurd (hone.symm.trans hsplit) (by simp) }
  exact ⟨hcheck, hunambiguous, (reads_back_iff_unambiguous hcheck).2 hunambiguous⟩

/-- Checked dialects that are ambiguous: with the same mark for skips and pages, with a numeral as
`takeAll`, and with a digit as the separator. -/
theorem skip_is_read_as_page :
    let marked : Dialect := { skipMark := "page-".toList }
    let worded : Dialect := { takeAll := "5".toList }
    let cut : Dialect := { separator := '5' }
    (marked.check = .ok () ∧ compile marked (serialize marked [.skip 3]) =
      .ok [.page ⟨20, 10, by decide, by decide, by decide, by decide⟩]) ∧
    (worded.check = .ok () ∧ compile worded (serialize worded [.take .unbounded]) =
      .ok [.take (.count 5)]) ∧
    cut.check = .ok () ∧ compile cut (serialize cut [.skip 5]) = .ok [] := by
  simp only [Query.compile_eq_collect_reading]
  decide

end RecordQuery

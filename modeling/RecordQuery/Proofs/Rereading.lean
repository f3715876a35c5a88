import RecordQuery.Execution
import RecordQuery.Proofs.RoundTrip

/-!
# Compiling the canonical form

`serialize` writes the operations of a query in canonical form: lower-cased, and without the
segments that are no operation. In the default dialect the canonical form compiles to the same
operations unless one of them is *misread* (`Operation.Misread`):

* an ascending sort whose first column begins with `desc-`. The query can have such a column after
  an empty one, which the canonical form leaves out;
* a filter on a field `skip` or `take`. The query can have such a field with the Kelvin sign in
  place of the `k`: no mark matches it, but its lower case is `k`. The marks of pages and sorts have
  no `k`.

Without a misread operation the canonical form has the same result on every target
(`compile_serialize_iff_of_compile`). Compiled operations are spelled (`spelled_of_compile`),
because in the default dialect `lower` brings in no delimiter (`lowersFaithfully_default`); so it
remains to decide which of them are apart.
-/

namespace RecordQuery

open RecordQuery.Segment

/-! ### Misread operations -/

/-- **Misread operations**: in the default dialect they are serialized like another operation. -/
def Operation.Misread : Operation → Prop
  | .sort s => s.descending = false ∧ "desc-".toList <+: s.columns.head s.columns_ne_nil
  | .filter f => f.field = "skip".toList ∨ f.field = "take".toList
  | .skip _ | .take _ | .page _ => False

instance : DecidablePred Operation.Misread
  | .sort _ => inferInstanceAs (Decidable (_ ∧ _ <+: _))
  | .filter _ => inferInstanceAs (Decidable (_ ∨ _))
  | .skip _ | .take _ | .page _ => inferInstanceAs (Decidable False)

/-! ### Marks in front of delimited texts -/

/-- A mark without the delimiter is a prefix of joined columns exactly if it is one of the first
column. -/
theorem prefix_intercalate_iff {mark : Text} {delimiter : Char} (hmark : delimiter ∉ mark)
    (column : Text) (columns : List Text) :
    mark <+: [delimiter].intercalate (column :: columns) ↔ mark <+: column := by
  cases columns with
  | nil => rw [List.intercalate_singleton]
  | cons next columns =>
    rw [List.intercalate_cons_cons, List.append_assoc]
    constructor
    · intro hprefix
      rcases List.prefix_or_prefix_of_prefix hprefix (List.prefix_append column _) with h | h
      · exact h
      · -- the mark would extend behind the first column, where the delimiter is
        obtain ⟨more, rfl⟩ := h
        rw [List.prefix_append_right_inj] at hprefix
        cases more with
        | nil => exact ⟨[], by rw [List.append_nil, List.append_nil]⟩
        | cons c more =>
          obtain rfl := (List.cons_prefix_cons.1 hprefix).1
          exact absurd (List.mem_append_right _ (List.mem_cons_self ..)) hmark
    · intro hprefix
      exact hprefix.trans (List.prefix_append ..)

/-- A word and the delimiter are a prefix of joined pieces exactly if it is the first piece. -/
theorem append_delimiter_prefix_iff {word first rest : Text} {delimiter : Char}
    (hword : delimiter ∉ word) (hfirst : delimiter ∉ first) :
    word ++ [delimiter] <+: first ++ delimiter :: rest ↔ first = word := by
  constructor
  · rintro ⟨more, h⟩
    rw [List.append_assoc, List.singleton_append] at h
    -- both sides are split at the delimiter, and the first pieces compared
    have hcut := congrArg (List.splitOn delimiter) h
    rw [List.splitOn_append_cons_self_of_not_mem hword,
      List.splitOn_append_cons_self_of_not_mem hfirst] at hcut
    exact (List.cons.inj hcut).1.symm
  · rintro rfl
    exact ⟨rest, by rw [List.append_assoc, List.singleton_append]⟩

/-! ### The default dialect -/

/-- **`lower` brings in no delimiter and no null word of the default dialect**: the delimiters are
ASCII characters and no letters, and `null` has no `k`. -/
theorem lowersFaithfully_default (t : Text) : Dialect.LowersFaithfully {} t where
  delimiters x hx := by
    have hascii : ∀ x ∈ ['/', '-', ','], x.toNat < 128 ∧ x.isAlpha = false :=
      Text.forall_mem_of_all (by decide)
    exact Text.mem_of_mem_lower (hascii x hx).1 (hascii x hx).2
  nullWord := Text.sameLetters_of_lower_eq (Text.forall_mem_of_all (by decide))

/-- **Compiled operations are spelled.** -/
theorem spelled_of_compile {query : Text} {operations : List Operation}
    (h : compile {} query = .ok operations) : ∀ op ∈ operations, op.Spelled {} := by
  intro op hop
  obtain ⟨piece, hpiece, hread⟩ := Query.exists_piece_of_mem h hop
  obtain ⟨-, hsep, -⟩ := Query.mem_of_mem_pieces hpiece
  exact spelled_of_reading (fun t _ => lowersFaithfully_default t) hsep hread

/-- A spelled filter is apart exactly if its field is not the word of a mark. -/
theorem filter_apart_default_iff {f : Filter} (hspelled : (Operation.filter f).Spelled {}) :
    (Operation.filter f).Apart {} ↔
      ∀ word ∈ ["page".toList, "skip".toList, "take".toList, "sort".toList], f.field ≠ word := by
  have hfield : '-' ∉ f.field := hspelled.2.1.2.2
  have hmark : ∀ word ∈ ["page".toList, "skip".toList, "take".toList, "sort".toList],
      (word ++ ['-'] <+: f.render {} ↔ f.field = word) := by
    intro word hword
    have hnot : '-' ∉ word := by
      revert word
      decide
    rw [Filter.render, List.append_assoc]
    exact append_delimiter_prefix_iff hnot hfield
  have hopenings : Dialect.openings {} =
      ["page".toList, "skip".toList, "take".toList, "sort".toList].map (· ++ ['-']) := by decide
  rw [Operation.Apart, hopenings, List.forall_mem_map]
  exact forall₂_congr fun word hword => not_congr (hmark word hword)

/-- The field of a decoded filter is not the word of a mark without a `k`: the segment would have
begun with the mark. -/
theorem field_ne_of_reading {mark word piece : Text} {f : Filter}
    (hmark : mark = word ++ ['-']) (hword : ∀ c ∈ word, c.toNat < 128 ∧ c ≠ 'k')
    (hnone : after? mark piece = none) (hrow : filterRow {} piece = .ok (some (.filter f))) :
    f.field ≠ word := by
  obtain ⟨field, comparator, value, c, hsplit, -, hop⟩ := filterRow_says hrow
  obtain rfl := Operation.filter.inj hop
  intro hfield
  have hsame := Text.sameLetters_of_lower_eq hword hfield
  have hpiece : ['-'].intercalate (piece.splitOn '-') = piece := List.intercalate_splitOn '-'
  rw [hsplit, List.intercalate_cons_cons] at hpiece
  -- the field and the inner separator have the letters of the mark
  have hbegins : Text.sameLetters mark (field ++ ['-']) = true := by
    rw [Text.sameLetters_iff] at hsame ⊢
    rw [hmark, List.map_append, List.map_append, hsame]
  have hsome := Text.strip?_sameLetter_eq_some_iff.2 ⟨_, hpiece.symm, hbegins⟩
  rw [after?, hsome] at hnone
  exact absurd hnone (by simp)

/-- **A compiled operation is apart unless it is misread.** -/
theorem apart_iff_not_misread {piece : Text} {op : Operation}
    (h : reading {} piece = .ok (some op)) (hspelled : op.Spelled {}) :
    op.Apart {} ↔ ¬ op.Misread := by
  cases op with
  | sort s =>
    have hfirst : Dialect.descendingMark {} <+:
        [Dialect.listDelimiter {}].intercalate s.columns ↔
          "desc-".toList <+: s.columns.head s.columns_ne_nil := by
      obtain ⟨column, columns, hcolumns⟩ := List.exists_cons_of_ne_nil s.columns_ne_nil
      simp only [hcolumns, List.head_cons]
      exact prefix_intercalate_iff (by decide) column columns
    rw [Operation.Apart, Operation.Misread, hfirst, not_and]
  | filter f =>
    -- no mark matched the filter; if the mark has no `k`, neither does it match the field
    obtain ⟨⟨hpage, -, -, hsort⟩, hrow⟩ := reading_filter_iff.1 h
    have hnotpage : f.field ≠ "page".toList :=
      field_ne_of_reading rfl (Text.forall_mem_of_all (by decide)) hpage hrow
    have hnotsort : f.field ≠ "sort".toList :=
      field_ne_of_reading rfl (Text.forall_mem_of_all (by decide)) hsort hrow
    rw [filter_apart_default_iff hspelled, Operation.Misread, not_or]
    simp only [List.forall_mem_cons, List.not_mem_nil, false_imp_iff, implies_true, and_true]
    exact ⟨fun hall => ⟨hall.2.1, hall.2.2.1⟩, fun hno => ⟨hnotpage, hno.1, hno.2, hnotsort⟩⟩
  | skip _ => exact iff_of_true trivial id
  | take _ => exact iff_of_true trivial id
  | page _ => exact iff_of_true trivial id

/-- With the Kelvin sign, a filter has the word of a mark as its field. -/
example : reading {} "s\u212aip-equals-5".toList =
    .ok (some (.filter ⟨"skip".toList, .equals, .text "5".toList⟩)) := by rfl

/-! ### Queries and their canonical form -/

/-- The serialized operations compile to themselves exactly if none is misread. -/
theorem reread_iff {query : Text} {operations : List Operation}
    (h : compile {} query = .ok operations) :
    compile {} (serialize {} operations) = .ok operations ↔
      ∀ op ∈ operations, ¬ op.Misread := by
  have hspelled := spelled_of_compile h
  rw [compile_serialize_eq_ok_iff Dialect.plain_default hspelled]
  refine forall₂_congr fun op hop => ?_
  obtain ⟨piece, -, hread⟩ := Query.exists_piece_of_mem h hop
  exact apart_iff_not_misread hread (hspelled op hop)

/-- **The canonical form of a query.** The operations of a compiled query in the default dialect are
serialized to a query that compiles to them, if and only if none of them is misread; then both
queries have the same result on every target under every resolver. -/
theorem compile_serialize_iff_of_compile {query : Text} {operations : List Operation}
    (h : compile {} query = .ok operations) :
    (compile {} (serialize {} operations) = .ok operations ↔
      ∀ op ∈ operations, ¬ op.Misread) ∧
    ((∀ op ∈ operations, ¬ op.Misread) →
      ∀ (ρ : Type) (τ : Type → Type) [Target τ] (resolve : Resolver ρ) (t : τ ρ),
        answer resolve (serialize {} operations) t = answer resolve query t) := by
  refine ⟨reread_iff h, ?_⟩
  intro hnone ρ τ _ resolve t
  rw [answer, answer, (reread_iff h).2 hnone, h]

/-- A query in mixed case, with an empty column and a segment that is no operation, and its
canonical form `/sort-name/city-not-null/`. Neither operation is misread. -/
theorem compile_serialize_of_mixed_letters :
    let query := "Sort-,Name/oops//City-NOT-Null".toList
    let operations : List Operation :=
      [.sort ⟨["name".toList], false, by decide, by decide⟩, .filter ⟨"city".toList, .not, .null⟩]
    compile {} query = .ok operations ∧ compile {} (serialize {} operations) = .ok operations ∧
      ∀ (ρ : Type) (resolve : Resolver ρ) (rows : List ρ),
        answer resolve (serialize {} operations) rows = answer resolve query rows := by
  intro query operations
  have hread : compile {} query = .ok operations := by
    rw [Query.compile_eq_collect_reading]
    rfl
  obtain ⟨hiff, hanswer⟩ := compile_serialize_iff_of_compile hread
  have hnone : ∀ op ∈ operations, ¬ op.Misread := by decide
  exact ⟨hread, hiff.2 hnone, fun ρ => hanswer hnone ρ List⟩

/-- **A query with another canonical form.** The query sorts ascending by a column `desc-a` that
follows an empty one; its canonical form sorts descending by `a`. Where only `a` resolves, the query
leaves the rows as they are, and the canonical form sorts them. -/
theorem sort_by_dashed_column_is_misread :
    let query := "sort-,desc-a".toList
    let operations : List Operation :=
      [.sort ⟨["desc-a".toList], false, by decide, by decide⟩]
    let fields : Schema Bool := Schema.empty.field "a".toList .bool .bool
    compile {} query = .ok operations ∧ serialize {} operations = "/sort-desc-a/".toList ∧
      compile {} (serialize {} operations) ≠ .ok operations ∧
      answer fields.resolve query [false, true] = .ok [false, true] ∧
      answer fields.resolve (serialize {} operations) [false, true] = .ok [true, false] := by
  intro query operations fields
  have hread : compile {} query = .ok operations := by
    rw [Query.compile_eq_collect_reading]
    rfl
  have hwritten : serialize {} operations = "/sort-desc-a/".toList := by decide
  have hagain : compile {} (serialize {} operations) =
      .ok [.sort ⟨["a".toList], true, by decide, by decide⟩] := by
    rw [hwritten, Query.compile_eq_collect_reading]
    rfl
  refine ⟨hread, hwritten, ?_, ?_, ?_⟩
  · rw [hagain]
    decide
  · rw [answer, hread]
    rfl
  · rw [answer, hagain]
    rfl

end RecordQuery

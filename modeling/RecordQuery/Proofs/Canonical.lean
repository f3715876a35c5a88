import RecordQuery.Proofs.Paging
import RecordQuery.Proofs.Rereading

/-!
# Compiled queries are canonical

`Filter.of` and the constructors of sorts and pages normalize an operation when it is built;
`serialize` and `run` rely on that and check nothing. Here it is proved of every operation that
`compile` returns in the default dialect: it is canonical (`Operation.Canonical`,
`canonical_of_compile`).

The segment table splits the lower-cased text, and drops empty columns and the word `null`, before
an operation is built, which lower-cases again. `spelled_of_compile` states that no delimiter and no
`null` comes back by that. Pages are canonical because they were made from a number and a size
(`Page.IsAt.canonical`).
-/

namespace RecordQuery

open RecordQuery.Segment

/-! ### Canonical operations -/

/-- A lower-cased text without any of the delimiters. -/
def Text.Bare (delimiters : List Char) (t : Text) : Prop :=
  Text.lower t = t ∧ ∀ c ∈ delimiters, c ∉ t

/-- **Canonical pages.** The size is positive and divides the skip, and the page number is a
positive `Int64`. -/
structure Page.Canonical (p : Page) : Prop where
  take_pos : 1 ≤ p.take.toNat
  take_dvd_skip : p.take.toNat ∣ p.skip.toNat
  number_pos : 1 ≤ p.number
  number_le : (p.number : Int) ≤ Int64.maxValue.toInt
  /-- Computing `Page.number` does not overflow in `UInt64`. -/
  number_word : (p.skip / p.take + 1).toNat = p.number

/-- **Canonical operations.** A sort has columns and a filter has a field; columns, field and value
are lower-cased and without the delimiters of their segment. The text of a filter is not `null`. -/
def Operation.Canonical : Operation → Prop
  | .sort s => s.columns ≠ [] ∧ ∀ c ∈ s.columns, c ≠ [] ∧ c.Bare ['/', ',']
  | .page p => p.Canonical
  | .filter f => f.field ≠ [] ∧ f.field.Bare ['/', '-'] ∧
      ∀ t, f.value = .text t → t.Bare ['/', '-'] ∧ t ≠ "null".toList
  | .skip _ | .take _ => True

/-! ### Pages -/

/-- **A page made from a number and a size is canonical.** -/
theorem Page.IsAt.canonical {p : Page} {number size : Int64} (h : p.IsAt number size) :
    p.Canonical := by
  have hnumber := h.number_eq
  obtain ⟨hn, hs, hskip, htake⟩ := h
  have hmax := number.toInt_le
  refine ⟨by omega, ?_, by omega, by omega, ?_⟩
  · rw [← Int.natCast_dvd_natCast, hskip, htake]
    exact Int.dvd_mul_left ..
  · have hlt : p.number < 2 ^ 64 := by
      rw [Int64.toInt_maxValue] at hmax
      omega
    rw [UInt64.toNat_add, UInt64.toNat_div]
    exact Nat.mod_eq_of_lt hlt

/-! ### Queries -/

/-- A page in the reading of a segment is canonical. -/
theorem canonical_page_of_reading {d : Dialect} {piece : Text} {p : Page}
    (h : reading d piece = .ok (some (.page p))) : p.Canonical := by
  obtain ⟨rest, -, hrow⟩ := reading_page_iff.1 h
  obtain ⟨size, p', hmade, hop⟩ := pageRow_says hrow
  obtain rfl := Operation.page.inj hop
  exact (Page.of?_eq_ok_iff.1 hmade).canonical

/-- **Compiled queries are canonical**: every operation of a compiled query in the default dialect
is. -/
theorem canonical_of_compile {query : Text} {operations : List Operation}
    (h : compile {} query = .ok operations) : ∀ op ∈ operations, op.Canonical := by
  intro op hop
  have hspelled := spelled_of_compile h op hop
  cases op with
  | sort s =>
    refine ⟨s.columns_ne_nil, ?_⟩
    intro c hc
    obtain ⟨hne, hsep, hlist⟩ := hspelled c hc
    exact ⟨hne, s.lower_columns c hc, by simp [hsep, hlist]⟩
  | page p =>
    -- a page is canonical because `Page.of?` built it, so the piece is needed here
    obtain ⟨piece, -, hread⟩ := Query.exists_piece_of_mem h hop
    exact canonical_page_of_reading hread
  | filter f =>
    obtain ⟨hfield, ⟨hlower, hsep, hinner⟩, hvalue⟩ := hspelled
    refine ⟨hfield, ⟨hlower, by simp [hsep, hinner]⟩, ?_⟩
    intro t ht
    rw [ht] at hvalue
    obtain ⟨⟨htlower, htsep, htinner⟩, hnull⟩ := hvalue
    exact ⟨⟨htlower, by simp [htsep, htinner]⟩, hnull⟩
  | skip _ => trivial
  | take _ => trivial

/-- A query with capitals, among them the dotted one, empty columns, and a value that is almost
`null`. -/
theorem canonical_of_compile_of_capitals :
    let query := "Sort-,İd,,Name/PAGE-3-20/Κ-Like-Null /city-NOT-NULL".toList
    let operations : List Operation :=
      [.sort ⟨["i\u0307d".toList, "name".toList], false, by decide, by decide +kernel⟩,
        .page ⟨40, 20, by decide, by decide, by decide, by decide⟩,
        .filter ⟨"κ".toList, .like, .text "null ".toList⟩,
        .filter ⟨"city".toList, .not, .null⟩]
    compile {} query = .ok operations ∧ ∀ op ∈ operations, op.Canonical := by
  intro query operations
  have hread : compile {} query = .ok operations := by
    rw [Query.compile_eq_collect_reading]
    rfl
  exact ⟨hread, canonical_of_compile hread⟩

end RecordQuery

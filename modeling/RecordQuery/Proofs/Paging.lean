import Mathlib.Algebra.Order.Floor.Div
import Mathlib.Data.List.Pairwise
import Mathlib.Data.List.ReduceOption
import RecordQuery.Proofs.Pulling
import RecordQuery.Proofs.TargetRows

/-!
# Pages tile the rows

A page is made from a number and a size, and held as the rows to skip and to take.
`Page.of?_eq_ok_iff` specifies it without machine words (`Page.IsAt`): it is made whenever `UInt64`
holds the number of preceding rows.

Pages of one size are adjacent slices (`flatMap_slices`). So the pages up to `Page.count`, each
taken on its own, tile a list of rows, and later pages are empty (`Page.Tile`). This depends on the
number of rows only, and `run` gives some of the rows of its target (`rows_run_subperm`), so pages
tile the result of every query on every lawful target (`pages_tile`).
-/

namespace RecordQuery

variable {ρ : Type}

/-! ### Pages by number and size -/

/-- **The page with a number and a size**: the number counts from one, the skipped rows are those of
the preceding pages, and the taken rows are the size. -/
structure Page.IsAt (p : Page) (number size : Int64) : Prop where
  number_pos : 1 ≤ number.toInt
  size_pos : 1 ≤ size.toInt
  skip_eq : (p.skip.toNat : Int) = (number.toInt - 1) * size.toInt
  take_eq : (p.take.toNat : Int) = size.toInt

/-- The number of preceding rows, as a natural number. -/
theorem Page.natCast_rowsBefore {number size : Int64} (hn : 1 ≤ number.toInt)
    (hs : 1 ≤ size.toInt) :
    (((number.toInt.toNat - 1) * size.toInt.toNat : Nat) : Int) =
      (number.toInt - 1) * size.toInt := by
  have hnumber : ((number.toInt.toNat - 1 : Nat) : Int) = number.toInt - 1 := by omega
  have hsize : (size.toInt.toNat : Int) = size.toInt := Int.toNat_of_nonneg (by omega)
  rw [Int.natCast_mul, hnumber, hsize]

/-- **Making a page.** `Page.of?` makes the page with the number and the size, whenever there is
one. -/
theorem Page.of?_eq_ok_iff {number size : Int64} {p : Page} :
    Page.of? number size = .ok p ↔ p.IsAt number size := by
  constructor
  · intro h
    unfold Page.of? at h
    split at h
    · next hs =>
      split at h
      · next hn =>
        split at h
        · next hskip =>
          obtain rfl := Except.ok.inj h
          have hmax := size.toInt_le
          rw [Int64.toInt_maxValue] at hmax
          refine ⟨hn, hs, ?_, ?_⟩
          · rw [UInt64.toNat_ofNat_of_lt' hskip]
            exact natCast_rowsBefore hn hs
          · rw [UInt64.toNat_ofNat_of_lt' (by rw [UInt64.size]; omega)]
            omega
        · exact absurd h (by simp)
      · exact absurd h (by simp)
    · exact absurd h (by simp)
  · rintro ⟨hn, hs, hskip, htake⟩
    -- `UInt64` holds the number of preceding rows
    have hbefore := natCast_rowsBefore hn hs
    have hrows : (number.toInt.toNat - 1) * size.toInt.toNat = p.skip.toNat := by omega
    have hsize : size.toInt.toNat = p.take.toNat := by omega
    have hlt : (number.toInt.toNat - 1) * size.toInt.toNat < UInt64.size :=
      hrows ▸ p.skip.toNat_lt
    rw [Page.of?, dif_pos hs, dif_pos hn, dif_pos hlt]
    refine congrArg Except.ok (Page.ext ?_ ?_)
    · exact (congrArg UInt64.ofNat hrows).trans UInt64.ofNat_toNat
    · exact (congrArg UInt64.ofNat hsize).trans UInt64.ofNat_toNat

/-- The page with a number has it as its `Page.number`. -/
theorem Page.IsAt.number_eq {p : Page} {number size : Int64} (h : p.IsAt number size) :
    (p.number : Int) = number.toInt := by
  obtain ⟨hn, hs, hskip, htake⟩ := h
  have hbefore := Page.natCast_rowsBefore hn hs
  have hrows : p.skip.toNat = (number.toInt.toNat - 1) * size.toInt.toNat := by omega
  have hsize : p.take.toNat = size.toInt.toNat := by omega
  -- the preceding rows are those of whole pages, so the division is exact
  rw [Page.number, hrows, hsize, Nat.mul_div_cancel _ (by omega)]
  omega

/-- **A page is made again from its number and its size.** -/
theorem Page.of?_number (p : Page) :
    Page.of? (Int64.ofNat p.number) (Int64.ofNat p.take.toNat) = .ok p := by
  obtain ⟨hpos, hle, hdvd, hnum⟩ := p.valid
  rw [Int64.toInt_maxValue] at hle hnum
  have hnumber : (Int64.ofNat p.number).toInt = p.number :=
    Int64.toInt_ofNat_of_lt (by rw [Page.number]; omega)
  have hsize : (Int64.ofNat p.take.toNat).toInt = p.take.toNat :=
    Int64.toInt_ofNat_of_lt (by omega)
  -- the preceding rows are those of whole pages, so the division is exact
  have hrows : (p.number - 1) * p.take.toNat = p.skip.toNat := by
    rw [Page.number, Nat.add_sub_cancel, Nat.div_mul_cancel hdvd]
  have hone : 1 ≤ p.number := Nat.le_add_left ..
  refine Page.of?_eq_ok_iff.2 ⟨by omega, by omega, ?_, hsize.symm⟩
  rw [hnumber, hsize, ← hrows, Int.natCast_mul, Int.natCast_sub hone, Int.natCast_one]

/-- A page is made if `UInt64` holds the number of preceding rows. -/
theorem Page.exists_of? {number size : Int64} (hn : 1 ≤ number.toInt) (hs : 1 ≤ size.toInt)
    (hrows : (number.toInt - 1) * size.toInt < UInt64.size) :
    ∃ p, Page.of? number size = .ok p := by
  have hbefore := natCast_rowsBefore hn hs
  have hlt : (number.toInt.toNat - 1) * size.toInt.toNat < UInt64.size := by omega
  rw [Page.of?, dif_pos hs, dif_pos hn, dif_pos hlt]
  exact ⟨_, rfl⟩

/-! ### Slices of a list -/

/-- Adjacent slices of one size are a prefix of the list. -/
theorem flatMap_slices (rows : List ρ) (size count : Nat) :
    (List.range count).flatMap (fun k => (rows.drop (k * size)).take size) =
      rows.take (count * size) := by
  induction count with
  | zero => rw [Nat.zero_mul, List.take_zero]; rfl
  | succ count ih =>
    rw [List.range_succ, List.flatMap_append, ih, List.flatMap_singleton, Nat.succ_mul,
      List.take_add]

/-! ### Tiling -/

/-- The number of pages of a size that the rows need. -/
def Page.count (rows : Nat) (size : Int64) : Nat := rows ⌈/⌉ size.toInt.toNat

/-- The first `k` pages have room for all rows exactly if `Page.count` is at most `k`. -/
theorem Page.count_le_iff {rows k : Nat} {size : Int64} (hs : 1 ≤ size.toInt) :
    Page.count rows size ≤ k ↔ rows ≤ k * size.toInt.toNat := by
  rw [count, ceilDiv_le_iff_le_mul (by omega), Nat.mul_comm]

/-- **Pages tile the rows**, where `on` gives the rows of a page. -/
structure Page.Tile (size : Int64) (rows : List ρ) (on : Page → List ρ) : Prop where
  /-- The pages up to `Page.count` can be made, and their rows in order are the rows. -/
  side_by_side : ∃ pages : List Page,
    (List.range (Page.count rows.length size)).map
      (fun k => Page.of? (Int64.ofNat (k + 1)) size) = pages.map .ok ∧
    pages.flatMap on = rows ∧
    (rows.Nodup → ∀ row ∈ rows, ∃! p, p ∈ pages ∧ row ∈ on p)
  /-- A page has the rows of its slice. -/
  slice : ∀ number p, Page.of? number size = .ok p →
    on p = (rows.drop ((number.toInt - 1) * size.toInt).toNat).take size.toInt.toNat
  /-- A page after `Page.count` is empty. -/
  beyond : ∀ number p, Page.of? number size = .ok p →
    (Page.count rows.length size : Int) < number.toInt → on p = []

/-- If pages have distinct rows in order, every row is on exactly one of them. -/
theorem Page.existsUnique_of_flatMap {pages : List Page} {on : Page → List ρ} {rows : List ρ}
    (h : pages.flatMap on = rows) (hnodup : rows.Nodup) {row : ρ} (hrow : row ∈ rows) :
    ∃! p, p ∈ pages ∧ row ∈ on p := by
  subst h
  obtain ⟨p, hp, hon⟩ := List.mem_flatMap.1 hrow
  have hdisjoint := (List.nodup_flatMap.1 hnodup).2
  have : Std.Symm (Function.onFun List.Disjoint on) := ⟨fun _ _ h => h.symm⟩
  refine ⟨p, ⟨hp, hon⟩, ?_⟩
  rintro q ⟨hq, honq⟩
  by_contra hne
  -- different pages share no row
  exact hdisjoint.forall hq hp hne honq hon

/-- The pages up to `Page.count` begin before the last row, so they can be made. -/
theorem Page.exists_of?_of_lt_count {size : Int64} (hs : 1 ≤ size.toInt) {rows k : Nat}
    (hrows : (rows : Int) ≤ Int64.maxValue.toInt) (hk : k < Page.count rows size) :
    ∃ p, Page.of? (Int64.ofNat (k + 1)) size = .ok p ∧
      p.skip.toNat = k * size.toInt.toNat ∧ p.take.toNat = size.toInt.toNat := by
  have hbegins : k * size.toInt.toNat < rows := by
    rw [← Nat.not_le, ← Page.count_le_iff hs]
    exact Nat.not_le_of_lt hk
  have hle : k ≤ k * size.toInt.toNat := Nat.le_mul_of_pos_right k (by omega)
  rw [Int64.toInt_maxValue] at hrows
  have hnumber : (Int64.ofNat (k + 1)).toInt = k + 1 := Int64.toInt_ofNat_of_lt (by omega)
  have hbefore : ((Int64.ofNat (k + 1)).toInt - 1) * size.toInt =
      ((k * size.toInt.toNat : Nat) : Int) := by
    rw [hnumber, Int.natCast_mul, Int.toNat_of_nonneg (by omega), Int.add_sub_cancel]
  have hfirst : 1 ≤ (Int64.ofNat (k + 1)).toInt := by omega
  obtain ⟨p, hp⟩ := Page.exists_of? hfirst hs (by rw [hbefore, UInt64.size]; omega)
  obtain ⟨-, -, hskip, htake⟩ := Page.of?_eq_ok_iff.1 hp
  exact ⟨p, hp, by omega, by omega⟩

/-- **Pages that have their slices tile the rows.** -/
theorem Page.tile_of_slice {size : Int64} (hs : 1 ≤ size.toInt) {rows : List ρ}
    (hrows : (rows.length : Int) ≤ Int64.maxValue.toInt) {on : Page → List ρ}
    (hon : ∀ p, on p = (rows.drop p.skip.toNat).take p.take.toNat) : Page.Tile size rows on := by
  have hslice : ∀ number p, Page.of? number size = .ok p →
      on p = (rows.drop ((number.toInt - 1) * size.toInt).toNat).take size.toInt.toNat := by
    intro number p hp
    obtain ⟨-, -, hskip, htake⟩ := Page.of?_eq_ok_iff.1 hp
    rw [hon, ← hskip, ← htake, Int.toNat_natCast, Int.toNat_natCast]
  refine ⟨?_, hslice, ?_⟩
  · -- the pages in order of their numbers, each with the slice that begins at its first row
    have hmade : ∀ k : Fin (Page.count rows.length size), ∃ p, _ :=
      fun k => Page.exists_of?_of_lt_count hs hrows k.isLt
    choose page hof hskip htake using hmade
    have hall : ((List.finRange (Page.count rows.length size)).map page).flatMap on = rows := by
      have hslices := flatMap_slices rows size.toInt.toNat (Page.count rows.length size)
      rw [List.take_of_length_le ((Page.count_le_iff hs).1 (Nat.le_refl _)),
        ← List.map_coe_finRange_eq_range, List.flatMap_map] at hslices
      rw [List.flatMap_map]
      refine (List.flatMap_congr fun k _ => ?_).trans hslices
      rw [hon, hskip, htake]
    refine ⟨(List.finRange (Page.count rows.length size)).map page, ?_, hall, ?_⟩
    · rw [← List.map_coe_finRange_eq_range, List.map_map, List.map_map]
      exact List.map_congr_left fun k _ => hof k
    · exact fun hnodup row hrow => Page.existsUnique_of_flatMap hall hnodup hrow
  · -- a later page begins behind the last row
    intro number p hp hbeyond
    have hbehind : rows.length ≤ ((number.toInt - 1) * size.toInt).toNat := by
      have hcount : Page.count rows.length size ≤ (number.toInt - 1).toNat := by omega
      have hend := (Page.count_le_iff hs).1 hcount
      rwa [← Int.toNat_mul (by omega) (by omega)] at hend
    rw [hslice number p hp, List.drop_eq_nil_of_le hbehind, List.take_nil]

/-! ### Pages of a query -/

/-- A page at the end of a query gives a slice of the rows without it. -/
theorem rows_run_page {τ : Type → Type} [Target τ] [LawfulTarget τ] (resolve : Resolver ρ)
    (operations : List Operation) (p : Page) (t : τ ρ) :
    Target.rows (run resolve (operations ++ [.page p]) t) =
      ((Target.rows (run resolve operations t)).drop p.skip.toNat).take p.take.toNat := by
  rw [run_append, run_cons, run_nil, Operation.apply, LawfulTarget.rows_take,
    LawfulTarget.rows_skip]

/-- Pulling deferred rows at least as often as they have rows gives their rows. -/
theorem Deferred.reduceOption_pulls {d : Deferred ρ} {asked : Nat} (h : d.rows.length ≤ asked) :
    (d.pulls asked).1.reduceOption = d.rows := by
  obtain ⟨more, rfl⟩ := Nat.exists_eq_add_of_le h
  rw [pulls_rows, List.reduceOption_append, List.reduceOption_replicate_none, List.append_nil,
    List.reduceOption, List.filterMap_map]
  exact List.filterMap_some

/-- **Pages tile the rows of a query.** All pages of one size up to `Page.count` can be made. Each
of them at the end of the query gives its slice, these slices in order are the rows of the query,
distinct rows are on exactly one page, and later pages are empty. This holds on every lawful target
with no more rows than a page number counts, and of deferred rows that are pulled until they are
exhausted. -/
theorem pages_tile [SortMethod] (resolve : Resolver ρ) (operations : List Operation) {size : Int64}
    (hs : 1 ≤ size.toInt) :
    (∀ (τ : Type → Type) [Target τ] [LawfulTarget τ] (t : τ ρ),
      ((Target.rows t).length : Int) ≤ Int64.maxValue.toInt →
      Page.Tile size (Target.rows (run resolve operations t)) fun p =>
        Target.rows (run resolve (operations ++ [.page p]) t)) ∧
    ∀ (d : Deferred ρ) (asked : Nat), (d.rows.length : Int) ≤ Int64.maxValue.toInt →
      d.rows.length ≤ asked →
      Page.Tile size ((run resolve operations d).pulls asked).1.reduceOption fun p =>
        ((run resolve (operations ++ [.page p]) d).pulls asked).1.reduceOption := by
  have hlawful : ∀ (τ : Type → Type) [Target τ] [LawfulTarget τ] (t : τ ρ),
      ((Target.rows t).length : Int) ≤ Int64.maxValue.toInt →
      Page.Tile size (Target.rows (run resolve operations t)) fun p =>
        Target.rows (run resolve (operations ++ [.page p]) t) := by
    intro τ _ _ t hrows
    have hfound := (rows_run_subperm resolve operations t).length_le
    exact Page.tile_of_slice hs (by omega) fun p => rows_run_page resolve operations p t
  refine ⟨hlawful, ?_⟩
  intro d asked hrows hasked
  -- as many pulls as the source has rows give all rows of the query
  have hgiven : ∀ ops, ((run resolve ops d).pulls asked).1.reduceOption =
      Target.rows (run resolve ops d) := fun ops =>
    Deferred.reduceOption_pulls ((rows_run_subperm resolve ops d).length_le.trans hasked)
  simp only [hgiven]
  exact hlawful Deferred d hrows

/-- Three of four rows pass a filter and are tiled by two pages of two rows, also when deferred rows
are pulled. -/
theorem pages_tile_filtered_rows :
    let resolve := (Schema.empty.field "a".toList .bool fun row : Bool × Nat => .bool row.1).resolve
    let operations : List Operation := [.filter ⟨"a".toList, .equals, .text "true".toList⟩]
    let rows := [(true, 1), (false, 2), (true, 3), (true, 4)]
    let on (p : Page) := run resolve (operations ++ [.page p]) rows
    (∃ pages : List Page, [Page.of? 1 2, Page.of? 2 2] = pages.map .ok ∧
      pages.flatMap on = [(true, 1), (true, 3), (true, 4)] ∧
      ∃! p, p ∈ pages ∧ (true, 4) ∈ on p) ∧
    (∀ p, Page.of? 3 2 = .ok p → on p = []) ∧
    Page.Tile 2 ((run resolve operations (Deferred.ofSource (.ofList rows))).pulls 4).1.reduceOption
      fun p => ((run resolve (operations ++ [.page p])
        (Deferred.ofSource (.ofList rows))).pulls 4).1.reduceOption := by
  intro resolve operations rows on
  have hsize : 1 ≤ (2 : Int64).toInt := by decide
  obtain ⟨hlawful, hdeferred⟩ := pages_tile resolve operations hsize
  have htile := hlawful List rows (by decide)
  obtain ⟨pages, hmade, hall, honce⟩ := htile.side_by_side
  have hcount : Page.count (run resolve operations rows).length 2 = 2 := by decide
  rw [Target.rows_list, hcount] at hmade
  refine ⟨⟨pages, hmade, hall, ?_⟩, fun p hp => htile.beyond 3 p hp (by decide), ?_⟩
  · exact honce (by decide) (true, 4) (by decide)
  · have hrows : (Deferred.ofSource (.ofList rows)).rows = rows :=
      Deferred.rows_ofSource_ofList rows
    exact hdeferred _ 4 (by rw [hrows]; decide) (by rw [hrows]; decide)

end RecordQuery

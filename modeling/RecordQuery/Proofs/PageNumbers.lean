import RecordQuery.Proofs.Paging
import RecordQuery.Proofs.RoundTrip

/-!
# Page numbers

A `Page` is made from a number and a size, both `Int64`, and holds the rows to skip and to take as
`UInt64`. The number is not stored, but computed by `Page.number`.

* `Page.of?` first rejects a size below one, then a number below one or one with more preceding rows
  than `UInt64` holds; all others make a page (`Page.of?_cases`, `Page.Decided`).
* `Page.number` neither divides by zero nor overflows, because the number was an `Int64`
  (`Page.Counts`).
* So a page comes from exactly one number and size (`Page.existsUnique_of?`), and the segment that
  `Page.render` gives is decoded to the same page, with or without the size
  (`pages_keep_their_numbers`).
-/

namespace RecordQuery

namespace Page

/-! ### Making pages -/

/-- Whether there is no page with the number and the size: numbers start at one, and `UInt64` has to
hold the number of preceding rows. -/
def OutOfReach (number size : Int64) : Prop :=
  number.toInt < 1 ∨ 2 ^ 64 - 1 < (number.toInt - 1) * size.toInt

/-- The size is checked before the number, and what passes makes a page. -/
theorem of?_cases (number size : Int64) :
    size.toInt < 1 ∧ of? number size = .error (.pageSize size) ∨
    1 ≤ size.toInt ∧ OutOfReach number size ∧ of? number size = .error (.pageNumber number) ∨
    ∃ p, of? number size = .ok p ∧ p.IsAt number size := by
  by_cases hs : 1 ≤ size.toInt
  · by_cases hn : 1 ≤ number.toInt
    · have hbefore := natCast_rowsBefore hn hs
      by_cases hskip : (number.toInt.toNat - 1) * size.toInt.toNat < UInt64.size
      · have hmade : (number.toInt - 1) * size.toInt < UInt64.size := by omega
        obtain ⟨p, hp⟩ := exists_of? hn hs hmade
        exact .inr (.inr ⟨p, hp, of?_eq_ok_iff.1 hp⟩)
      · -- the product overflows, so the number is rejected
        have hfar : OutOfReach number size := by
          refine .inr ?_
          rw [UInt64.size] at hskip
          omega
        rw [of?, dif_pos hs, dif_pos hn, dif_neg hskip]
        exact .inr (.inl ⟨hs, hfar, rfl⟩)
    · have hlow : OutOfReach number size := .inl (by omega)
      rw [of?, dif_pos hs, dif_neg hn]
      exact .inr (.inl ⟨hs, hlow, rfl⟩)
  · rw [of?, dif_neg hs]
    exact .inl ⟨by omega, rfl⟩

/-- The number and size of a page are not out of reach. -/
theorem IsAt.not_outOfReach {p : Page} {number size : Int64} (h : p.IsAt number size) :
    ¬ OutOfReach number size := by
  obtain ⟨hn, -, hskip, -⟩ := h
  have hword := p.skip.toNat_lt
  rintro (hlow | hfar) <;> omega

/-! ### Computing numbers -/

/-- **The number is computed in `UInt64`**, as the skipped rows divided by the taken ones, plus one.
There is no division by zero and no overflow. -/
structure Counts (p : Page) (number : Int64) : Prop where
  size_ne_zero : p.take ≠ 0
  no_overflow : (p.skip / p.take).toNat + 1 < 2 ^ 64
  eq : ((p.skip / p.take + 1).toNat : Int) = number.toInt
  number_eq : (p.number : Int) = number.toInt

theorem IsAt.counts {p : Page} {number size : Int64} (h : p.IsAt number size) :
    p.Counts number := by
  have hnumber := h.number_eq
  have hmax := number.toInt_le
  rw [Int64.toInt_maxValue] at hmax
  have hquotient : (p.skip / p.take).toNat + 1 = p.number := by rw [UInt64.toNat_div, Page.number]
  -- the result is below the maximum of `Int64`
  have hfits : (p.skip / p.take).toNat + 1 < 2 ^ 64 := by omega
  refine ⟨?_, hfits, ?_, hnumber⟩
  · intro hzero
    have htake := h.take_eq
    have hsize := h.size_pos
    rw [hzero, UInt64.toNat_zero] at htake
    omega
  · rw [UInt64.toNat_add, UInt64.toNat_one, Nat.mod_eq_of_lt hfits, hquotient, hnumber]

/-! ### Numbers and sizes of pages -/

/-- **A page comes from exactly one number and size.** -/
theorem existsUnique_of? (p : Page) :
    ∃! asked : Int64 × Int64, of? asked.1 asked.2 = .ok p := by
  refine ⟨(Int64.ofNat p.number, Int64.ofNat p.take.toNat), of?_number p, ?_⟩
  rintro ⟨number, size⟩ hmade
  have hat := of?_eq_ok_iff.1 hmade
  have hat' := of?_eq_ok_iff.1 (of?_number p)
  -- the page holds the size, and the number is computed
  refine Prod.ext (Int64.toInt_inj.1 ?_) (Int64.toInt_inj.1 ?_)
  · exact hat.number_eq.symm.trans hat'.number_eq
  · exact hat.take_eq.symm.trans hat'.take_eq

/-- The size of a page is positive and divides its skip. -/
theorem IsAt.take_dvd_skip {p : Page} {number size : Int64} (h : p.IsAt number size) :
    1 ≤ p.take.toNat ∧ p.take.toNat ∣ p.skip.toNat := by
  obtain ⟨-, hs, hskip, htake⟩ := h
  have hdvd : (p.take.toNat : Int) ∣ p.skip.toNat := ⟨number.toInt - 1, by
    rw [hskip, htake, Int.mul_comm]⟩
  exact ⟨by omega, Int.natCast_dvd_natCast.1 hdvd⟩

/-- **The three outcomes for a number and a size.** -/
structure Decided (number size : Int64) : Prop where
  size_refused : of? number size = .error (.pageSize size) ↔ size.toInt < 1
  number_refused : 1 ≤ size.toInt →
    (of? number size = .error (.pageNumber number) ↔ OutOfReach number size)
  made : 1 ≤ size.toInt → ¬ OutOfReach number size →
    ∃ p, of? number size = .ok p ∧ (p.skip.toNat : Int) = (number.toInt - 1) * size.toInt ∧
      (p.take.toNat : Int) = size.toInt ∧ p.Counts number

theorem decided (number size : Int64) : Decided number size := by
  -- the size is refused, or the number is, or there is a page
  rcases of?_cases number size with ⟨hs, hof⟩ | ⟨hs, hfar, hof⟩ | ⟨p, hof, hat⟩
  · refine ⟨?_, fun h => absurd h (by omega), fun h => absurd h (by omega)⟩
    rw [hof]
    exact iff_of_true rfl hs
  · refine ⟨?_, fun _ => ?_, fun _ h => absurd hfar h⟩
    · rw [hof]
      exact iff_of_false (by simp) (by omega)
    · rw [hof]
      exact iff_of_true rfl hfar
  · have hs := hat.size_pos
    refine ⟨?_, fun _ => ?_, fun _ _ => ⟨p, hof, hat.skip_eq, hat.take_eq, hat.counts⟩⟩
    · rw [hof]
      exact iff_of_false (by simp) (by omega)
    · rw [hof]
      exact iff_of_false (by simp) hat.not_outOfReach

/-! ### Segments of pages -/

section Segments

open RecordQuery.Parser RecordQuery.Segment

/-- The segment of a page is decoded to the page, if the inner separator is no digit. -/
theorem terminated_table_render {d : Dialect} (h : d.innerSeparator.isDigit = false) (p : Page) :
    terminated (table d) atEnd ((Operation.page p).render d) =
      some ⟨.ok (some (.page p)), []⟩ := by
  rw [terminated_atEnd_apply (table_apply d _), Operation.render, render, List.append_assoc,
    Dialect.Plain.reading_page, pageRow_render fun n => Text.notMem_ofNat h n]

end Segments

end Page

open RecordQuery.Parser RecordQuery.Segment in
/-- **Pages keep their numbers.** A number and a size are rejected for the size, rejected for the
number, or make the page with that number. Every page has a positive size that divides its skip, and
comes from one number and one size. In every dialect whose inner separator is no digit, whatever its
default size, the segment of a page is decoded to the page. -/
theorem pages_keep_their_numbers :
    (∀ number size : Int64, Page.Decided number size) ∧
    (∀ p : Page, 1 ≤ p.take.toNat ∧ p.take.toNat ∣ p.skip.toNat ∧
      ∃! asked : Int64 × Int64, Page.of? asked.1 asked.2 = .ok p) ∧
    ∀ d : Dialect, d.innerSeparator.isDigit = false → ∀ p : Page,
      terminated (table d) atEnd ((Operation.page p).render d) =
        some ⟨.ok (some (.page p)), []⟩ := by
  refine ⟨Page.decided, fun p => ?_, fun d h p => Page.terminated_table_render h p⟩
  obtain ⟨asked, hasked, honly⟩ := p.existsUnique_of?
  obtain ⟨hrows, hwhole⟩ := (Page.of?_eq_ok_iff.1 hasked).take_dvd_skip
  exact ⟨hrows, hwhole, asked, hasked, honly⟩

open RecordQuery.Parser RecordQuery.Segment in
/-- The largest number makes a page of two rows, but none of three. The size is written where the
default size is above the maximum of `Int64`, and left out where the default size is two. -/
theorem pages_keep_their_numbers_at_the_limits :
    let wide : Dialect := { innerSeparator := '+', defaultPageSize := 18446744073709551615 }
    let narrow : Dialect := { defaultPageSize := 2 }
    Page.of? 9223372036854775807 3 = .error (.pageNumber 9223372036854775807) ∧
    ∃ p, Page.of? 9223372036854775807 2 = .ok p ∧ p.skip = 18446744073709551612 ∧
      p.Counts 9223372036854775807 ∧
      (Operation.page p).render wide = "page-9223372036854775807+2".toList ∧
      terminated (table wide) atEnd ((Operation.page p).render wide) =
        some ⟨.ok (some (.page p)), []⟩ ∧
      (Operation.page p).render narrow = "page-9223372036854775807".toList ∧
      terminated (table narrow) atEnd ((Operation.page p).render narrow) =
        some ⟨.ok (some (.page p)), []⟩ := by
  intro wide narrow
  obtain ⟨hdecided, -, hread⟩ := pages_keep_their_numbers
  have hfar : Page.OutOfReach 9223372036854775807 3 := .inr (by decide)
  have hnear : ¬ Page.OutOfReach 9223372036854775807 2 := by
    rintro (hlow | hlarge)
    · exact absurd hlow (by decide)
    · exact absurd hlarge (by decide)
  obtain ⟨p, hp, hskip, htake, hcounts⟩ :=
    (hdecided 9223372036854775807 2).made (by decide) hnear
  have hfirst : p.skip = 18446744073709551612 := UInt64.toNat_inj.1 (Int.ofNat_inj.1 hskip)
  have hsize : p.take = 2 := UInt64.toNat_inj.1 (Int.ofNat_inj.1 htake)
  have hnumber : p.number = 9223372036854775807 := Int.ofNat_inj.1 hcounts.number_eq
  have hwide : (Operation.page p).render wide = "page-9223372036854775807+2".toList := by
    rw [Operation.render, Page.render, hnumber, hsize]
    decide +kernel
  have hnarrow : (Operation.page p).render narrow = "page-9223372036854775807".toList := by
    rw [Operation.render, Page.render, hnumber, hsize]
    decide +kernel
  exact ⟨((hdecided _ _).number_refused (by decide)).2 hfar, p, hp, hfirst, hcounts, hwide,
    hread wide (by decide) p, hnarrow, hread narrow (by decide) p⟩

end RecordQuery

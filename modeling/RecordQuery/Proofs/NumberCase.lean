import RecordQuery.Proofs.LetterCase

/-!
# Numbers and lower case

`Filter.of` lower-cases the text of a filter before it is read as a number, a boolean or an ordinal.
That does not change what is read (`Number.read?_lower`, `Text.word32?_lower`,
`Operand.bool?_lower`).

All characters in a text that these readers accept are `Text.Steady`: `lower` changes at most their
ASCII case, and gives such a character only for one that is the same up to ASCII case. So it
suffices that a reader accepts steady characters only and does not depend on ASCII case
(`Text.apply_lower`).
-/

namespace RecordQuery

namespace Text

/-! ### Steady characters -/

/-- The whitespace outside ASCII. -/
def wideBlanks : List Stride := [
  ⟨0x85, 0x85, 1⟩, ⟨0xA0, 0xA0, 1⟩, ⟨0x1680, 0x1680, 1⟩, ⟨0x2000, 0x200A, 1⟩,
  ⟨0x2028, 0x2029, 1⟩, ⟨0x202F, 0x202F, 1⟩, ⟨0x205F, 0x205F, 1⟩, ⟨0x3000, 0x3000, 1⟩]

theorem exists_run_of_isBlank {c : Char} (hc : ¬ c.toNat < 128) (h : isBlank c = true) :
    ∃ run ∈ wideBlanks, run.covers c.toNat = true := by
  have htable : inTable wideBlanks c = true := by
    simp only [isBlank, Bool.or_eq_true, Bool.and_eq_true, decide_eq_true_eq, beq_iff_eq] at h
    simp only [inTable, wideBlanks, List.any_cons, List.any_nil, Stride.covers, Nat.mod_one,
      beq_self_eq_true, Bool.or_false, Bool.or_eq_true, Bool.and_eq_true, and_true,
      decide_eq_true_eq]
    omega
  exact List.any_eq_true.1 htable

/-- No whitespace has an entry in the lower-case table, nor is it the image of one. -/
theorem lowerTable_wideBlanks : (wideBlanks.all fun blanks => lowerTable.all fun run =>
    (⟨blanks, 0⟩ : Shift).movesApart run.toStride && run.movesApart blanks) = true := by
  decide +kernel

/-- Whitespace, or an ASCII character other than `k`, which is the lower case of the Kelvin sign. -/
def Steady (c : Char) : Prop := isBlank c = true ∨ c.toNat < 128 ∧ c.toLower ≠ 'k'

theorem settled_toLower_of_steady {c : Char} (h : Steady c) : Settled c.toLower := by
  by_cases hc : c.toNat < 128
  · exact settled_toLower hc
  · have hblank : isBlank c = true := h.resolve_right fun hascii => hc hascii.1
    obtain ⟨blanks, hmem, hcov⟩ := exists_run_of_isBlank hc hblank
    have htable := List.all_eq_true.1 lowerTable_wideBlanks blanks hmem
    -- the whitespace has no entry in the table
    rw [toLower_of_not_ascii hc]
    refine settled_of_shifted?_none hc ?_ ?_
    · rintro rfl
      exact absurd hblank (by decide)
    · rw [shifted?, Option.map_eq_none_iff, List.find?_eq_none]
      intro run hrun
      have happart := List.all_eq_true.1 htable run hrun
      rw [Bool.and_eq_true] at happart
      rw [Shift.movesApart_sound happart.1 hcov (Int.add_zero _).symm]
      exact Bool.false_ne_true

/-- On steady characters `lower` is `uncased`. -/
theorem lower_of_steady {t : Text} (h : ∀ c ∈ t, Steady c) : lower t = t.uncased := by
  refine lower_eq_uncased ?_
  intro x hx
  obtain ⟨c, hc, rfl⟩ := List.mem_map.1 hx
  exact settled_toLower_of_steady (h c hc)

/-- An image of the lower-case table is no whitespace. -/
theorem isBlank_of_shifted? {c d : Char} (h : shifted? lowerTable c = some d) :
    isBlank d = false := by
  obtain ⟨run, hmem, hcov, hd⟩ := exists_run_of_shifted? h
  rw [Bool.eq_false_iff]
  intro hblank
  by_cases hascii : d.toNat < 128
  · rw [eq_of_shifted?_ascii h hascii] at hblank
    exact absurd hblank (by decide)
  · obtain ⟨blanks, hblanks, hin⟩ := exists_run_of_isBlank hascii hblank
    have htable := List.all_eq_true.1 lowerTable_wideBlanks blanks hblanks
    have happart := List.all_eq_true.1 htable run hmem
    rw [Bool.and_eq_true] at happart
    rw [Shift.movesApart_sound happart.2 hcov hd] at hin
    exact absurd hin (by simp)

/-- **Steady characters come from steady ones.** -/
theorem steady_of_lowerAt {before after : Text} {c : Char}
    (h : ∀ x ∈ lowerAt before c after, Steady x) : Steady c := by
  by_cases hc : c.toNat < 128
  · -- an ASCII character has a lower case of one character
    have hsigma : c ≠ 'Σ' := by
      rintro rfl
      exact absurd hc (by decide)
    rw [lowerAt, if_neg hsigma, lowerChar_ascii hc, List.forall_mem_singleton] at h
    rcases h with hblank | ⟨-, hk⟩
    · exact Or.inl (apply_toLower isBlank (by decide +kernel) c ▸ hblank)
    · exact Or.inr ⟨hc, toLower_toLower c ▸ hk⟩
  · left
    by_cases hsigma : c = 'Σ'
    · -- neither lower case of the sigma is steady
      exfalso
      rw [lowerAt, if_pos hsigma, List.forall_mem_singleton] at h
      split at h <;> rcases h with h | h <;> exact absurd h (by decide)
    · by_cases hi : c = 'İ'
      · -- the combining dot in the lower case of `İ` is not steady
        exfalso
        subst hi
        have hdot := h (Char.ofNat 0x307) (by simp [lowerAt, lowerChar])
        rcases hdot with hdot | hdot <;> exact absurd hdot (by decide)
      · rw [lowerAt, if_neg hsigma, lowerChar, if_neg hc, if_neg hi,
          List.forall_mem_singleton] at h
        cases hs : shifted? lowerTable c with
        | none =>
          rw [hs, Option.getD_none] at h
          exact h.resolve_right fun hascii => hc hascii.1
        | some d =>
          -- an image of the table is no whitespace, and in ASCII it is `k`
          rw [hs, Option.getD_some] at h
          exfalso
          rcases h with hblank | ⟨hascii, hk⟩
          · rw [isBlank_of_shifted? hs] at hblank
            exact absurd hblank (by simp)
          · rw [eq_of_shifted?_ascii hs hascii] at hk
            exact hk (by decide)

theorem steady_of_lower {t : Text} (h : ∀ x ∈ lower t, Steady x) : ∀ c ∈ t, Steady c := by
  -- the lower case of a sigma depends on the text before it, so the induction is for every
  -- text before this one
  suffices ∀ before, (∀ x ∈ lowerAfter before t, Steady x) → ∀ c ∈ t, Steady c from this [] h
  clear h
  induction t with
  | nil =>
    intro before h c hc
    exact absurd hc List.not_mem_nil
  | cons d t ih =>
    intro before h
    rw [lowerAfter, List.forall_mem_append] at h
    exact List.forall_mem_cons.2 ⟨steady_of_lowerAt h.1, ih _ h.2⟩

/-- **Readers and `lower`.** A reader that accepts steady characters only, and does not depend on
ASCII case, reads the same from the lower-cased text. -/
theorem apply_lower {α : Type} {read : Text → Option α}
    (hsteady : ∀ t a, read t = some a → ∀ c ∈ t, Steady c)
    (huncased : ∀ t, read t.uncased = read t) (t : Text) : read t.lower = read t := by
  by_cases ht : ∀ c ∈ t, Steady c
  · rw [lower_of_steady ht, huncased]
  · -- the text is rejected, and its lower case has a character that is not steady either
    have hnone : read t = none := Option.eq_none_iff_forall_ne_some.2 fun a ha =>
      ht (hsteady t a ha)
    rw [hnone, Option.eq_none_iff_forall_ne_some]
    intro a ha
    exact ht (steady_of_lower (hsteady _ a ha))

/-! ### Integers -/

theorem steady_of_isDigit {c : Char} (h : c.isDigit = true) : Steady c := by
  have hc := toNat_lt_of_isDigit h
  have hk : c.isDigit = true → c.toLower ≠ 'k' :=
    forall_ascii (P := fun c => c.isDigit = true → c.toLower ≠ 'k') (by decide +kernel) hc
  exact Or.inr ⟨hc, hk h⟩

theorem steady_of_natural? {t : Text} {n : Nat} (h : natural? t = some n) :
    ∀ c ∈ t, Steady c := by
  unfold natural? at h
  split at h
  · next hdigits =>
    rw [Bool.and_eq_true, List.all_eq_true] at hdigits
    exact fun c hc => steady_of_isDigit (hdigits.2 c hc)
  · exact absurd h (by simp)

theorem steady_of_unsigned? {t : Text} {n : Nat} (h : unsigned? t = some n) :
    ∀ c ∈ t, Steady c := by
  unfold unsigned? at h
  split at h
  · exact List.forall_mem_cons.2 ⟨Or.inr (by decide), steady_of_natural? h⟩
  · exact steady_of_natural? h

theorem steady_of_signed? {t : Text} {n : Int} (h : signed? t = some n) :
    ∀ c ∈ t, Steady c := by
  unfold signed? at h
  split at h
  · obtain ⟨_, hint, -⟩ := Option.map_eq_some_iff.1 h
    obtain ⟨m, hm, -⟩ := Option.bind_eq_some_iff.1 hint
    exact List.forall_mem_cons.2 ⟨Or.inr (by decide), steady_of_natural? hm⟩
  · obtain ⟨_, hint, -⟩ := Option.map_eq_some_iff.1 h
    obtain ⟨m, hm, -⟩ := Option.bind_eq_some_iff.1 hint
    exact steady_of_unsigned? hm

theorem steady_of_int64? {t : Text} {n : Int64} (h : int64? t = some n) : ∀ c ∈ t, Steady c := by
  obtain ⟨m, hm, -⟩ := Option.bind_eq_some_iff.1 h
  exact steady_of_signed? hm

theorem steady_of_word64? {t : Text} {n : UInt64} (h : word64? t = some n) :
    ∀ c ∈ t, Steady c := by
  obtain ⟨m, hm, -⟩ := Option.bind_eq_some_iff.1 h
  exact steady_of_unsigned? hm

theorem word32?_lower (t : Text) : word32? t.lower = word32? t := by
  refine apply_lower ?_ ?_ t
  · intro t n h
    obtain ⟨m, hm, -⟩ := Option.bind_eq_some_iff.1 h
    exact steady_of_unsigned? hm
  · intro t
    rw [word32?, word32?, unsigned?_uncased]

/-! ### Words -/

/-- The spellings of a word of steady ASCII characters are steady. -/
theorem steady_of_sameLetters {t w : Text} (hw : ∀ c ∈ w, c.toNat < 128 ∧ c.toLower ≠ 'k')
    (h : sameLetters t w = true) : ∀ c ∈ t, Steady c := by
  intro c hc
  have hmem : c.toLower ∈ w.uncased :=
    (sameLetters_iff_uncased t w).1 h ▸ List.mem_map_of_mem hc
  obtain ⟨d, hd, heq⟩ := List.mem_map.1 hmem
  obtain ⟨hascii, hk⟩ := hw d hd
  refine Or.inr ⟨?_, heq ▸ hk⟩
  -- a character outside ASCII is not changed, and is no letter of the word
  by_contra hc'
  rw [toLower_of_not_ascii hc'] at heq
  have hlow : d.toLower.toNat < 128 :=
    forall_ascii (P := fun d => d.toLower.toNat < 128) (by decide +kernel) hascii
  exact hc' (heq ▸ hlow)

/-! ### Whitespace -/

theorem trim_uncased (t : Text) : trim t.uncased = (trim t).uncased := by
  have hblank : isBlank ∘ Char.toLower = isBlank :=
    funext fun c => apply_toLower isBlank (by decide +kernel) c
  have hdrop (s : Text) : s.uncased.dropWhile isBlank = uncased (s.dropWhile isBlank) := by
    rw [uncased, List.dropWhile_map, hblank]
    rfl
  have hreverse (s : Text) : s.uncased.reverse = uncased s.reverse := List.map_reverse.symm
  rw [trim, trim, hdrop, hreverse, hdrop, hreverse]

/-- A character that `trim` removes is whitespace. -/
theorem isBlank_or_mem_trim {t : Text} {c : Char} (h : c ∈ t) :
    isBlank c = true ∨ c ∈ trim t := by
  have hdrop {s : Text} (hc : c ∈ s) : isBlank c = true ∨ c ∈ s.dropWhile isBlank := by
    rw [← List.takeWhile_append_dropWhile (p := isBlank) (l := s), List.mem_append] at hc
    rcases hc with hc | hc
    · exact Or.inl (List.mem_takeWhile_imp hc)
    · exact Or.inr hc
  rcases hdrop h with hblank | hrest
  · exact Or.inl hblank
  · rcases hdrop (List.mem_reverse.2 hrest) with hblank | hrest
    · exact Or.inl hblank
    · exact Or.inr (List.mem_reverse.2 hrest)

end Text

/-! ### Floats -/

namespace Binary64

open RecordQuery.Text

theorem power?_uncased (t : Text) : power? t.uncased = power? t := by
  cases t with
  | nil => rfl
  | cons c t =>
    have he : (c.toLower = 'e' ∨ c.toLower = 'E') ↔ (c = 'e' ∨ c = 'E') :=
      decide_eq_decide.1 (apply_toLower (fun c => decide (c = 'e' ∨ c = 'E')) (by decide +kernel) c)
    rw [uncased_cons, power?, power?, signed?_uncased]
    simp only [he]

theorem steady_of_power? {t : Text} {n : Int} (h : power? t = some n) : ∀ c ∈ t, Steady c := by
  cases t with
  | nil => exact fun c hc => absurd hc List.not_mem_nil
  | cons c t =>
    rw [power?] at h
    split at h
    · next he =>
      refine List.forall_mem_cons.2 ⟨Or.inr ?_, steady_of_signed? h⟩
      rcases he with rfl | rfl <;> decide
    · exact absurd h (by simp)

/-- The digits after the point, if there is one, and the rest. -/
def fraction (t : Text) : Text × Text :=
  match t with
  | '.' :: rest => (rest.takeWhile Char.isDigit, rest.dropWhile Char.isDigit)
  | _ => ([], t)

/-- An unsigned float: digits before the point, digits after it, and an exponent. -/
theorem unsigned?_eq (p : Precision) (negative : Bool) (t : Text) :
    unsigned? p negative t =
      if (t.takeWhile Char.isDigit ++ (fraction (t.dropWhile Char.isDigit)).1).isEmpty then none
      else (power? (fraction (t.dropWhile Char.isDigit)).2).map fun power =>
        ofDecimal p negative (Nat.ofDigitChars 10
          (t.takeWhile Char.isDigit ++ (fraction (t.dropWhile Char.isDigit)).1) 0)
          (power - (fraction (t.dropWhile Char.isDigit)).1.length) := rfl

theorem takeWhile_isDigit_uncased (t : Text) :
    t.uncased.takeWhile Char.isDigit = t.takeWhile Char.isDigit := by
  have hdigit : Char.isDigit ∘ Char.toLower = Char.isDigit := funext isDigit_toLower
  rw [uncased, List.takeWhile_map, hdigit]
  exact uncased_of_isDigit (List.all_takeWhile ..)

theorem dropWhile_isDigit_uncased (t : Text) :
    t.uncased.dropWhile Char.isDigit = uncased (t.dropWhile Char.isDigit) := by
  have hdigit : Char.isDigit ∘ Char.toLower = Char.isDigit := funext isDigit_toLower
  rw [uncased, List.dropWhile_map, hdigit]
  rfl

theorem fraction_of_ne {c : Char} (hc : c ≠ '.') (t : Text) : fraction (c :: t) = ([], c :: t) := by
  unfold fraction
  split
  · next h => exact absurd (List.cons.inj h).1 hc
  · rfl

theorem fraction_uncased (t : Text) :
    fraction t.uncased = ((fraction t).1, (fraction t).2.uncased) := by
  cases t with
  | nil => rfl
  | cons c t =>
    by_cases hc : c = '.'
    · subst hc
      change ((uncased t).takeWhile Char.isDigit, (uncased t).dropWhile Char.isDigit) = _
      rw [takeWhile_isDigit_uncased, dropWhile_isDigit_uncased]
      rfl
    · have hlow : c.toLower ≠ '.' := mt (toLower_eq_iff (by decide)).1 hc
      rw [uncased_cons, fraction_of_ne hlow, fraction_of_ne hc]
      rfl

theorem unsigned?_uncased (p : Precision) (negative : Bool) (t : Text) :
    unsigned? p negative t.uncased = unsigned? p negative t := by
  rw [unsigned?_eq, unsigned?_eq, takeWhile_isDigit_uncased, dropWhile_isDigit_uncased,
    fraction_uncased, power?_uncased]

theorem steady_of_takeWhile_isDigit {t : Text}
    (h : ∀ c ∈ t.dropWhile Char.isDigit, Steady c) : ∀ c ∈ t, Steady c := by
  rw [← List.takeWhile_append_dropWhile (p := Char.isDigit) (l := t), List.forall_mem_append]
  exact ⟨fun c hc => steady_of_isDigit (List.mem_takeWhile_imp hc), h⟩

theorem steady_of_fraction {t : Text} (h : ∀ c ∈ (fraction t).2, Steady c) :
    ∀ c ∈ t, Steady c := by
  unfold fraction at h
  split at h
  · exact List.forall_mem_cons.2 ⟨Or.inr (by decide), steady_of_takeWhile_isDigit h⟩
  · exact h

theorem steady_of_unsigned? {p : Precision} {negative : Bool} {t : Text} {x : Binary64}
    (h : unsigned? p negative t = some x) : ∀ c ∈ t, Steady c := by
  rw [unsigned?_eq] at h
  split at h
  · exact absurd h (by simp)
  · obtain ⟨n, hn, -⟩ := Option.map_eq_some_iff.1 h
    exact steady_of_takeWhile_isDigit (steady_of_fraction (steady_of_power? hn))

theorem magnitude?_uncased (p : Precision) (negative : Bool) (t : Text) :
    magnitude? p negative t.uncased = magnitude? p negative t := by
  simp only [magnitude?, sameLetters_uncased_left, unsigned?_uncased]

theorem steady_of_magnitude? {p : Precision} {negative : Bool} {t : Text} {x : Binary64}
    (h : magnitude? p negative t = some x) : ∀ c ∈ t, Steady c := by
  unfold magnitude? at h
  split at h
  · next hinfinity =>
    rw [Bool.or_eq_true] at hinfinity
    rcases hinfinity with hword | hword
    · exact steady_of_sameLetters (forall_mem_of_all (by decide)) hword
    · exact steady_of_sameLetters (forall_mem_of_all (by decide)) hword
  · split at h
    · next hnan => exact steady_of_sameLetters (forall_mem_of_all (by decide)) hnan
    · exact steady_of_unsigned? h

theorem read?_of_ne (p : Precision) {c : Char} (hminus : c ≠ '-') (hplus : c ≠ '+') (t : Text) :
    read? p (c :: t) = magnitude? p false (c :: t) := by
  unfold read?
  split
  · next h => exact absurd (List.cons.inj h).1 hminus
  · next h => exact absurd (List.cons.inj h).1 hplus
  · rfl

theorem read?_uncased (p : Precision) (t : Text) : read? p t.uncased = read? p t := by
  cases t with
  | nil => rfl
  | cons c t =>
    by_cases hminus : c = '-'
    · subst hminus
      exact magnitude?_uncased p true t
    · by_cases hplus : c = '+'
      · subst hplus
        exact magnitude?_uncased p false t
      · have hlow := mt (toLower_eq_iff (a := '-') (by decide)).1 hminus
        have hlow' := mt (toLower_eq_iff (a := '+') (by decide)).1 hplus
        rw [uncased_cons, read?_of_ne p hlow hlow', read?_of_ne p hminus hplus]
        exact magnitude?_uncased p false (c :: t)

theorem steady_of_read? {p : Precision} {t : Text} {x : Binary64} (h : read? p t = some x) :
    ∀ c ∈ t, Steady c := by
  unfold read? at h
  split at h
  · exact List.forall_mem_cons.2 ⟨Or.inr (by decide), steady_of_magnitude? h⟩
  · exact List.forall_mem_cons.2 ⟨Or.inr (by decide), steady_of_magnitude? h⟩
  · exact steady_of_magnitude? h

end Binary64

/-! ### Numbers and booleans -/

/-- **A number is read the same from the lower-cased text.** -/
theorem Number.read?_lower (t : Text) : Number.read? t.lower = Number.read? t := by
  refine Text.apply_lower ?_ ?_ t
  · intro t n h
    -- one of the three readers has accepted the trimmed text
    have htrimmed : ∀ c ∈ t.trim, Text.Steady c := by
      rw [Number.read?, Option.or_eq_some_iff, Option.or_eq_some_iff] at h
      rcases h with h | ⟨-, h | ⟨-, h⟩⟩
      · obtain ⟨m, hm, -⟩ := Option.map_eq_some_iff.1 h
        exact Text.steady_of_int64? hm
      · obtain ⟨m, hm, -⟩ := Option.map_eq_some_iff.1 h
        exact Text.steady_of_word64? hm
      · obtain ⟨x, hx, -⟩ := Option.map_eq_some_iff.1 h
        exact Binary64.steady_of_read? (Option.filter_eq_some_iff.1 hx).1
    intro c hc
    rcases Text.isBlank_or_mem_trim hc with hblank | hmem
    · exact Or.inl hblank
    · exact htrimmed c hmem
  · intro t
    simp only [Number.read?, Text.trim_uncased, Text.int64?_uncased, Text.word64?_uncased,
      Binary64.read?_uncased]

/-- **A boolean is read the same from the lower-cased text.** -/
theorem Operand.bool?_lower (t : Text) : Operand.bool? t.lower = Operand.bool? t := by
  refine Text.apply_lower ?_ ?_ t
  · intro t b h
    unfold bool? at h
    split at h
    · next htrue =>
      exact Text.steady_of_sameLetters (Text.forall_mem_of_all (by decide)) htrue
    · split at h
      · next hfalse =>
        exact Text.steady_of_sameLetters (Text.forall_mem_of_all (by decide)) hfalse
      · exact absurd h (by simp)
  · intro t
    simp only [bool?, Text.sameLetters_uncased_left]

end RecordQuery

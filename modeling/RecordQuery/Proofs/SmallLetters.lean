import RecordQuery.Proofs.Recognition
import RecordQuery.Operation.Basic

/-!
# Lower case and ASCII case

Two notions of case meet in a query: marks and words are compared without regard to the case of `A`
to `Z` (`sameLetters`), and fields, values and columns are lower-cased by the rules of Unicode
(`lower`). This file relates them:

* on settled texts `sameLetters` is equality (`sameLetters_iff_eq`), and stripping a mark is
  removing a prefix (`strip?_eq_some_iff`);
* `lower` seldom brings in an ASCII character (`mem_lowerAt_ascii`): besides the letters `A` to `Z`,
  only the Kelvin sign, whose lower case is `k`, and the dotted capital i, whose lower case is `i`
  and a combining dot. So an ASCII character that is no letter is in the lower case only if it is in
  the text (`mem_of_mem_lower`), and an ASCII word without `k` is the lower case of its own
  spellings only (`sameLetters_of_lower_eq`).
-/

namespace RecordQuery.Text

/-- A decidable property of all characters, checked by `List.all`. -/
theorem forall_mem_of_all {t : Text} {P : Char → Prop} [DecidablePred P]
    (h : (t.all fun c => decide (P c)) = true) : ∀ c ∈ t, P c :=
  fun c hc => of_decide_eq_true (List.all_eq_true.1 h c hc)

/-! ### Settled texts -/

instance : DecidablePred Settled := fun _ => inferInstanceAs (Decidable (_ ∧ _))

theorem toLower_of_settled {c : Char} (h : Settled c) : c.toLower = c := by
  by_cases hc : c.toNat < 128
  · have hlower := lowerChar_ascii hc
    rw [h.1] at hlower
    exact (List.cons.inj hlower).1.symm
  · exact toLower_of_not_ascii hc

theorem map_toLower_of_settled {t : Text} (h : ∀ c ∈ t, Settled c) : t.map Char.toLower = t :=
  (List.map_congr_left fun c hc => toLower_of_settled (h c hc)).trans (List.map_id' t)

/-- On settled texts `sameLetters` is equality. -/
theorem sameLetters_iff_eq {s t : Text} (hs : ∀ c ∈ s, Settled c) (ht : ∀ c ∈ t, Settled c) :
    sameLetters s t = true ↔ s = t := by
  rw [sameLetters_iff, map_toLower_of_settled hs, map_toLower_of_settled ht]

/-- A settled mark is stripped exactly from the settled texts that begin with it. -/
theorem strip?_eq_some_iff {mark t rest : Text} (hmark : ∀ c ∈ mark, Settled c)
    (ht : ∀ c ∈ t, Settled c) :
    strip? sameLetter mark t = some rest ↔ t = mark ++ rest := by
  rw [strip?_sameLetter_eq_some_iff]
  constructor
  · rintro ⟨head, rfl, hsame⟩
    have hhead : ∀ c ∈ head, Settled c := fun c hc => ht c (List.mem_append_left _ hc)
    rw [(sameLetters_iff_eq hmark hhead).1 hsame]
  · rintro rfl
    exact ⟨mark, rfl, sameLetters_refl mark⟩

theorem toNat_lt_of_isDigit {c : Char} (h : c.isDigit = true) : c.toNat < 128 := by
  rw [Char.isDigit, Bool.and_eq_true, decide_eq_true_eq, decide_eq_true_eq] at h
  exact Nat.lt_of_le_of_lt h.2 (by decide)

/-- Digits are settled. -/
theorem settled_of_isDigit {c : Char} (h : c.isDigit = true) : Settled c := by
  have hc := toNat_lt_of_isDigit h
  have hlow : c.isDigit = true → c.toLower = c :=
    forall_ascii (P := fun c => c.isDigit = true → c.toLower = c) (by decide +kernel) hc
  rw [← hlow h]
  exact settled_toLower hc

theorem settled_of_mem_ofNat {n : Nat} {c : Char} (h : c ∈ ofNat n) : Settled c :=
  settled_of_isDigit (isDigit_of_mem_ofNat h)

/-- A character that is no digit does not occur in a numeral. -/
theorem notMem_ofNat {c : Char} (h : c.isDigit = false) (n : Nat) : c ∉ ofNat n := by
  intro hmem
  rw [isDigit_of_mem_ofNat hmem] at h
  exact absurd h (by simp)

/-- The tokens of the comparators are settled. -/
theorem settled_of_mem_token {comparator : Comparator} {c : Char} (h : c ∈ comparator.token) :
    Settled c := by
  have hlower : lower comparator.token = comparator.token := by cases comparator <;> rfl
  exact (lower_eq_self_iff _).1 hlower c h

/-! ### Where ASCII characters come from -/

/-- The Kelvin sign is the only entry of the lower-case table with an ASCII image. -/
theorem lowerTable_ascii : (lowerTable.all fun run =>
    decide (128 ≤ (run.first : Int) + run.distance) ||
      (run.first == 8490 && run.last == 8490 && run.distance == -8383)) = true := by
  decide +kernel

theorem eq_of_shifted?_ascii {c d : Char} (h : shifted? lowerTable c = some d)
    (hd : d.toNat < 128) : d = 'k' := by
  obtain ⟨run, hmem, hcov, hshift⟩ := exists_run_of_shifted? h
  rw [Stride.covers, Bool.and_eq_true, Bool.and_eq_true, decide_eq_true_eq,
    decide_eq_true_eq] at hcov
  have hrun := List.all_eq_true.1 lowerTable_ascii run hmem
  rw [Bool.or_eq_true, Bool.and_eq_true, Bool.and_eq_true, decide_eq_true_eq, beq_iff_eq,
    beq_iff_eq, beq_iff_eq] at hrun
  rcases hrun with hfar | ⟨⟨hfirst, hlast⟩, hdist⟩
  · -- an entry whose images are outside ASCII
    omega
  · -- the Kelvin sign
    have hnat : d.toNat = 107 := by omega
    rw [← Char.ofNat_toNat d, hnat]

/-- **Where an ASCII character comes from**: in the lower case of a character, it is the ASCII lower
case of the character, or the character is the Kelvin sign or the dotted capital i. -/
theorem mem_lowerAt_ascii {before after : Text} {c x : Char} (hx : x.toNat < 128)
    (h : x ∈ lowerAt before c after) :
    lowerAt before c after = [c.toLower] ∧ c.toNat < 128 ∨ x = 'k' ∨ c = 'İ' := by
  by_cases hc : c.toNat < 128
  · left
    have hsigma : c ≠ 'Σ' := by
      rintro rfl
      exact absurd hc (by decide)
    rw [lowerAt, if_neg hsigma, lowerChar_ascii hc]
    exact ⟨rfl, hc⟩
  · right
    by_cases hsigma : c = 'Σ'
    · -- both lower cases of the sigma are outside ASCII
      rw [lowerAt, if_pos hsigma, List.mem_singleton] at h
      exfalso
      subst h
      split at hx <;> exact absurd hx (by decide)
    · rw [lowerAt, if_neg hsigma, lowerChar, if_neg hc] at h
      by_cases hi : c = 'İ'
      · exact Or.inr hi
      · left
        rw [if_neg hi, List.mem_singleton] at h
        cases hs : shifted? lowerTable c with
        | none =>
          -- the character is its own lower case, and not in ASCII
          rw [h, hs, Option.getD_none] at hx
          exact absurd hx hc
        | some d =>
          rw [hs, Option.getD_some] at h
          exact h.trans (eq_of_shifted?_ascii hs (h ▸ hx))

theorem lowerAfter_cons_ascii {before t : Text} {c : Char} (hc : c.toNat < 128) :
    lowerAfter before (c :: t) = c.toLower :: lowerAfter (c :: before) t := by
  have hsigma : c ≠ 'Σ' := by
    rintro rfl
    exact absurd hc (by decide)
  rw [lowerAfter, lowerAt, if_neg hsigma, lowerChar_ascii hc]
  rfl

/-- The lower case of an appended text ends in the lower case of the second text in its context. -/
theorem exists_lowerAfter_append (before s t : Text) :
    ∃ u, lowerAfter before (s ++ t) = u ++ lowerAfter (s.reverse ++ before) t := by
  induction s generalizing before with
  | nil => exact ⟨[], rfl⟩
  | cons c s ih =>
    obtain ⟨u, hu⟩ := ih (c :: before)
    refine ⟨lowerAt before c (s ++ t) ++ u, ?_⟩
    rw [List.cons_append, lowerAfter, hu, List.append_assoc, List.reverse_cons, List.append_assoc]
    rfl

theorem lowerAt_ne_nil (before after : Text) (c : Char) : lowerAt before c after ≠ [] := by
  rw [lowerAt]
  split
  · exact List.cons_ne_nil _ _
  · rw [lowerChar]
    split
    · exact List.cons_ne_nil _ _
    · split <;> exact List.cons_ne_nil _ _

/-- Only the empty text has an empty lower case. -/
theorem lower_eq_nil_iff {t : Text} : lower t = [] ↔ t = [] := by
  cases t with
  | nil => exact iff_of_true rfl rfl
  | cons c t =>
    refine iff_of_false ?_ (List.cons_ne_nil _ _)
    intro h
    exact lowerAt_ne_nil _ _ _ (List.append_eq_nil_iff.1 h).1

/-- An ASCII character that is no letter comes from itself only. -/
theorem eq_of_mem_lowerAt {before after : Text} {c x : Char} (hx : x.toNat < 128)
    (hletter : x.isAlpha = false) (h : x ∈ lowerAt before c after) : x = c := by
  rcases mem_lowerAt_ascii hx h with ⟨heq, hc⟩ | rfl | rfl
  · rw [heq, List.mem_singleton] at h
    have hfix : c.toLower.isAlpha = false → c.toLower = c :=
      forall_ascii (P := fun c => c.toLower.isAlpha = false → c.toLower = c)
        (by decide +kernel) hc
    rw [← h] at hfix
    exact hfix hletter
  · -- the lower case of the Kelvin sign is a letter
    exact absurd hletter (by decide)
  · -- the lower case of `İ` is a letter and a combining dot
    have hmem : x = 'i' ∨ x = Char.ofNat 0x307 := by
      simpa [lowerAt, lowerChar] using h
    rcases hmem with rfl | rfl
    · exact absurd hletter (by decide)
    · exact absurd hx (by decide)

/-- An ASCII character that is no letter is in the lower case only if it is in the text. -/
theorem mem_of_mem_lower {t : Text} {x : Char} (hx : x.toNat < 128) (hletter : x.isAlpha = false)
    (h : x ∈ lower t) : x ∈ t := by
  -- the lower case of a sigma depends on the text before it, so the induction is for every
  -- text before this one
  suffices ∀ before, x ∈ lowerAfter before t → x ∈ t from this [] h
  clear h
  induction t with
  | nil => intro before h; exact h
  | cons c t ih =>
    intro before h
    rcases List.mem_append.1 h with h | h
    · rw [eq_of_mem_lowerAt hx hletter h]
      exact List.mem_cons_self ..
    · exact List.mem_cons_of_mem _ (ih _ h)

/-- An ASCII word without `k` is the lower case of its own spellings only. -/
theorem sameLetters_of_lower_eq {t w : Text} (hw : ∀ c ∈ w, c.toNat < 128 ∧ c ≠ 'k')
    (h : lower t = w) : sameLetters t w = true := by
  suffices ∀ before, lowerAfter before t = w → sameLetters t w = true from this [] h
  clear h
  induction t generalizing w with
  | nil =>
    intro before h
    subst h
    rfl
  | cons c t ih =>
    intro before h
    have hascii : ∀ x ∈ lowerAt before c t, x.toNat < 128 ∧ x ≠ 'k' := fun x hx =>
      hw x (h ▸ List.mem_append_left _ hx)
    obtain ⟨x, hx⟩ := List.exists_mem_of_ne_nil _ (lowerAt_ne_nil before t c)
    rcases mem_lowerAt_ascii (hascii x hx).1 hx with ⟨heq, hc⟩ | hk | rfl
    · -- the first letter of the word is the lower case of an ASCII character
      rw [lowerAfter_cons_ascii hc] at h
      subst h
      have hrest := ih (fun d hd => hw d (List.mem_cons_of_mem _ hd)) _ rfl
      have hsettled := toLower_of_settled (settled_toLower hc)
      rw [sameLetters_cons, hrest, sameLetter, hsettled, beq_self_eq_true]
      rfl
    · exact absurd hk (hascii x hx).2
    · -- the combining dot is outside ASCII
      have hdot := hascii (Char.ofNat 0x307) (by simp [lowerAt, lowerChar])
      exact absurd hdot.1 (by decide)

end RecordQuery.Text

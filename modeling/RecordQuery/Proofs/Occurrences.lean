import RecordQuery.Proofs.Comparison
import RecordQuery.Proofs.SmallLetters

/-!
# Substrings and lower case

`like` lower-cases the needle and the field, each as a whole, and tests whether the one is a
substring of the other (`Predicate.exists_like`). This would find every occurrence of the needle if
lower-casing did not depend on the context. It does for the capital sigma, which has another lower
case at the end of a word; where the word ends depends on the letters around the needle.

* `Text.decided` states that the text around a sigma decides its form, whatever surrounds that text
  (`Text.endsWord_of_decided`). Any other sigma changes its form when one letter is added at the
  front or at the back (`Text.endsWord_of_not_decided`).
* If all sigmas are decided, the lower-cased text is a substring of the lower case of every text
  that contains it (`Text.exists_lower_append`). If one is not, adding a letter leaves fewer sigmas
  of its form than the lower-cased text has (`Text.count_lowerAfter`).

So `like` finds every occurrence of a needle if and only if its sigmas are decided
(`like_finds_occurrences_iff`).
-/

namespace RecordQuery

variable {ρ : Type}

namespace Text

/-! ### Ends of words -/

/-- Whether the text has a character that is not case-ignorable, where the search for a cased letter
stops. -/
def stopsAhead (t : Text) : Bool := t.any fun c => !isCaseIgnorable c

/-- The search goes on behind a text only if it does not stop there. -/
theorem casedAhead_append (s t : Text) :
    casedAhead (s ++ t) = if stopsAhead s then casedAhead s else casedAhead t := by
  induction s with
  | nil => rfl
  | cons c s ih =>
    unfold casedAhead stopsAhead at ih ⊢
    by_cases hc : isCaseIgnorable c = true
    · rw [List.cons_append, List.dropWhile_cons_of_pos hc, List.dropWhile_cons_of_pos hc, ih,
        List.any_cons, hc]
      rfl
    · -- the search stops here, with the same result for both texts
      rw [List.cons_append, List.dropWhile_cons_of_neg hc, List.dropWhile_cons_of_neg hc,
        List.any_cons, Bool.eq_false_iff.2 hc]
      rfl

theorem stopsAhead_of_casedAhead {t : Text} (h : casedAhead t = true) : stopsAhead t = true := by
  by_contra hstops
  have hnone := casedAhead_append t []
  rw [List.append_nil, if_neg hstops, h] at hnone
  exact absurd hnone (by decide)

/-- **Whether the text around a sigma decides its form.** `before` is in reverse order. A cased
letter behind the sigma decides the form, a character before it that is not cased does, and so does
a cased letter before it together with a character behind it at which the search stops. -/
def decided (before after : Text) : Bool :=
  casedAhead after || stopsAhead before && (!casedAhead before || stopsAhead after)

/-- **A decided form is kept** in every context. -/
theorem endsWord_of_decided {before after : Text} (h : decided before after = true)
    (outer further : Text) :
    endsWord (before ++ outer) (after ++ further) = endsWord before after := by
  rw [decided, Bool.or_eq_true, Bool.and_eq_true, Bool.or_eq_true, Bool.not_eq_true'] at h
  rw [endsWord, endsWord, casedAhead_append, casedAhead_append]
  rcases h with hcased | ⟨hstops, hcased | hstops'⟩
  · -- a cased letter follows, so no word ends
    rw [if_pos (stopsAhead_of_casedAhead hcased), hcased, Bool.not_true, Bool.and_false,
      Bool.and_false]
  · -- the character before is not cased
    rw [if_pos hstops, hcased, Bool.false_and, Bool.false_and]
  · -- both searches end inside
    rw [if_pos hstops, if_pos hstops']

/-- A letter in front can make an end of a word, and never removes one. -/
theorem endsWord_append_letter {before after : Text} (h : endsWord before after = true) :
    endsWord (before ++ ['a']) after = true := by
  rw [endsWord, Bool.and_eq_true] at h ⊢
  rw [casedAhead_append, if_pos (stopsAhead_of_casedAhead h.1)]
  exact h

/-- A letter behind can remove an end of a word, and never makes one. -/
theorem endsWord_of_append_letter {before after : Text}
    (h : endsWord before (after ++ ['a']) = true) : endsWord before after = true := by
  rw [endsWord, Bool.and_eq_true, casedAhead_append] at h
  split at h
  · rwa [endsWord, Bool.and_eq_true]
  · exact absurd h.2 (by decide)

/-- **An undecided form changes with one letter**: in front if the sigma does not end a word, behind
if it does. -/
theorem endsWord_of_not_decided {before after : Text} (h : decided before after = false) :
    endsWord before after = false ∧ endsWord (before ++ ['a']) after = true ∨
      endsWord before after = true ∧ endsWord before (after ++ ['a']) = false := by
  rw [decided, Bool.or_eq_false_iff, Bool.and_eq_false_iff, Bool.or_eq_false_iff,
    Bool.not_eq_false'] at h
  obtain ⟨hafter, hbefore⟩ := h
  simp only [endsWord, casedAhead_append, hafter]
  rcases hbefore with hstops | ⟨hcased, hstops⟩
  · -- the search before reaches the letter in front
    left
    have hcased : casedAhead before = false := by
      by_contra hcased
      rw [stopsAhead_of_casedAhead (by simpa using hcased)] at hstops
      exact absurd hstops (by decide)
    rw [hcased, if_neg (by simp [hstops])]
    exact ⟨rfl, rfl⟩
  · -- the search after reaches the letter behind
    right
    rw [hcased, if_neg (by simp [hstops])]
    exact ⟨rfl, rfl⟩

/-! ### Texts with decided sigmas -/

/-- Whether the forms of all capital sigmas in a text are decided, given the text before it in
reverse order. -/
def sigmasDecidedAfter (before : Text) : Text → Bool
  | [] => true
  | c :: t => (c != 'Σ' || decided before t) && sigmasDecidedAfter (c :: before) t

/-- Whether the forms of all capital sigmas are decided by the text. -/
def sigmasDecided (t : Text) : Bool := sigmasDecidedAfter [] t

theorem lowerAt_of_decided {before after : Text} {c : Char}
    (h : (c != 'Σ' || decided before after) = true) (outer further : Text) :
    lowerAt (before ++ outer) c (after ++ further) = lowerAt before c after := by
  rw [lowerAt, lowerAt]
  split
  · next hsigma =>
    rw [endsWord_of_decided (by simpa [hsigma] using h)]
  · rfl

/-- If its sigmas are decided, the lower case of a text is the same in every context. -/
theorem exists_lower_append {before t : Text} (h : sigmasDecidedAfter before t = true)
    (outer further : Text) :
    ∃ u, lowerAfter (before ++ outer) (t ++ further) = lowerAfter before t ++ u := by
  induction t generalizing before with
  | nil => exact ⟨_, rfl⟩
  | cons c t ih =>
    rw [sigmasDecidedAfter, Bool.and_eq_true] at h
    obtain ⟨u, hu⟩ := ih h.2
    refine ⟨u, ?_⟩
    rw [List.cons_append, lowerAfter, lowerAfter, lowerAt_of_decided h.1,
      ← List.cons_append, hu, List.append_assoc]

/-! ### Counting sigmas -/

theorem count_lowerAt_le {before before' after after' : Text}
    (h : endsWord before after = true → endsWord before' after' = true) (c : Char) :
    (lowerAt before' c after').count 'σ' ≤ (lowerAt before c after).count 'σ' ∧
      (lowerAt before c after).count 'ς' ≤ (lowerAt before' c after').count 'ς' := by
  rw [lowerAt, lowerAt]
  split
  · revert h
    cases endsWord before after <;> cases endsWord before' after' <;> decide
  · exact ⟨le_rfl, le_rfl⟩

/-- **One letter more, and the lower case of one character.** A letter in front does not add sigmas
of the form inside a word, a letter behind none of the form at the end of a word. An undecided sigma
is lost with one of the letters. -/
theorem count_lowerAt (before after : Text) (c : Char) :
    (lowerAt (before ++ ['a']) c after).count 'σ' ≤ (lowerAt before c after).count 'σ' ∧
      (lowerAt before c (after ++ ['a'])).count 'ς' ≤ (lowerAt before c after).count 'ς' ∧
      ((c != 'Σ' || decided before after) = false →
        (lowerAt (before ++ ['a']) c after).count 'σ' < (lowerAt before c after).count 'σ' ∨
          (lowerAt before c (after ++ ['a'])).count 'ς' < (lowerAt before c after).count 'ς') := by
  refine ⟨(count_lowerAt_le endsWord_append_letter c).1,
    (count_lowerAt_le endsWord_of_append_letter c).2, fun h => ?_⟩
  rw [Bool.or_eq_false_iff, bne_eq_false_iff_eq] at h
  obtain ⟨rfl, hdecided⟩ := h
  simp only [lowerAt, if_true]
  rcases endsWord_of_not_decided hdecided with ⟨hinside, hend⟩ | ⟨hend, hinside⟩
  · rw [hinside, hend]
    exact .inl (by decide)
  · rw [hinside, hend]
    exact .inr (by decide)

/-- **One letter more, and the lower case of a text.** The same for all characters together. -/
theorem count_lowerAfter (before t : Text) :
    (lowerAfter (before ++ ['a']) t).count 'σ' ≤ (lowerAfter before t).count 'σ' ∧
      (lowerAfter before (t ++ ['a'])).count 'ς' ≤ (lowerAfter before t).count 'ς' ∧
      (sigmasDecidedAfter before t = false →
        (lowerAfter (before ++ ['a']) t).count 'σ' < (lowerAfter before t).count 'σ' ∨
          (lowerAfter before (t ++ ['a'])).count 'ς' < (lowerAfter before t).count 'ς') := by
  induction t generalizing before with
  | nil =>
    refine ⟨le_rfl, ?_, fun h => absurd h (by simp [sigmasDecidedAfter])⟩
    rw [List.nil_append, lowerAfter_cons_ascii (by decide)]
    exact le_rfl
  | cons c t ih =>
    -- the letter in front precedes every character, the one behind follows every character
    obtain ⟨hfront, hbehind, hfirst⟩ := count_lowerAt before t c
    obtain ⟨hfront', hbehind', hrest⟩ := ih (c :: before)
    rw [List.cons_append] at hfront' hrest
    simp only [List.cons_append, lowerAfter, List.count_append]
    refine ⟨by omega, by omega, fun h => ?_⟩
    -- the undecided sigma is the first character, or a later one
    rw [sigmasDecidedAfter, Bool.and_eq_false_iff] at h
    rcases h with h | h
    · rcases hfirst h with hlt | hlt
      · exact .inl (by omega)
      · exact .inr (by omega)
    · rcases hrest h with hlt | hlt
      · exact .inl (by omega)
      · exact .inr (by omega)

/-- **The lower-cased text is a substring of the lower case of every text that contains it**, if and
only if its sigmas are decided. -/
theorem infix_lower_iff {t : Text} :
    (∀ s, t <:+: s → lower t <:+: lower s) ↔ sigmasDecided t = true := by
  constructor
  · intro h
    by_contra hundecided
    -- one letter more would leave too few sigmas of one form
    rcases (count_lowerAfter [] t).2.2 (Bool.eq_false_iff.2 hundecided) with hlt | hlt
    · have hpart := h ('a' :: t) (List.suffix_cons 'a' t).isInfix
      rw [lower, lower, lowerAfter_cons_ascii (by decide)] at hpart
      have hcount := hpart.sublist.count_le 'σ'
      rw [List.count_cons_of_ne (by decide)] at hcount
      exact absurd hcount (not_le_of_gt hlt)
    · have hpart := h (t ++ ['a']) (List.prefix_append t ['a']).isInfix
      exact absurd (hpart.sublist.count_le 'ς') (not_le_of_gt hlt)
  · rintro h s ⟨x, y, rfl⟩
    obtain ⟨u, hu⟩ := exists_lowerAfter_append [] x (t ++ y)
    obtain ⟨v, hv⟩ := exists_lower_append h x.reverse y
    refine ⟨u, v, ?_⟩
    rw [lower, lower, List.append_assoc x, hu, List.append_nil, List.append_assoc, ← hv]
    rfl

end Text

/-! ### The comparator `like` -/

/-- **`like` binds on every field**, and tests lower-cased texts for a substring. -/
theorem Predicate.exists_like {resolve : Resolver ρ} {name : Text} {f : Field ρ}
    (hf : resolve name.lower = some f) (t : Text) :
    ∃ p, bind? resolve (.of name .like (.text t)) = some p ∧
      ∀ record s, f.read record = .text s →
        (p.holds record = true ↔ t.lower <:+: s.lower) := by
  refine ⟨⟨name.lower, f.kind, f.read, .like, .text t.lower.lower⟩, ?_, fun record s hs => ?_⟩
  · exact comparing?_eq_some_iff.2 ⟨f, _, hf, fun h => absurd h (by decide), rfl, rfl⟩
  · change holdsValue f.kind .like (f.read record) (.text t.lower.lower) = true ↔ _
    rw [hs, Text.lower_lower, ← Text.includes_iff]
    rfl

/-- **`like` finds every occurrence of a needle**, in every text field of every record, if and only
if its sigmas are decided. -/
theorem like_finds_occurrences_iff (t : Text) :
    (∀ (ρ : Type) (resolve : Resolver ρ) (name : Text) (f : Field ρ),
      resolve name.lower = some f → f.kind = .text →
        ∃ p, Predicate.bind? resolve (.of name .like (.text t)) = some p ∧
          ∀ record s, f.read record = .text s → t <:+: s → p.holds record = true) ↔
      t.sigmasDecided = true := by
  rw [← Text.infix_lower_iff]
  constructor
  · intro hfinds s hs
    -- a record that is the text itself
    let f : Field Value := ⟨[], .text, false, id⟩
    obtain ⟨p, hp, hholds⟩ := hfinds Value (fun _ => some f) [] f rfl rfl
    obtain ⟨q, hq, hasks⟩ := @Predicate.exists_like Value (fun _ => some f) [] f rfl t
    obtain rfl : p = q := Option.some.inj (hp.symm.trans hq)
    exact (hasks (.text s) s rfl).1 (hholds (.text s) s rfl hs)
  · intro hkeeps ρ resolve name f hf _
    obtain ⟨p, hp, hasks⟩ := Predicate.exists_like hf t
    exact ⟨p, hp, fun record s hs hpart => (hasks record s hs).2 (hkeeps s hpart)⟩

/-- A needle with a decided sigma is found: a letter precedes the sigma, and a blank follows it. -/
theorem like_finds_street :
    let title : Field Value := ⟨"title".toList, .text, false, id⟩
    let resolve := (Schema.empty.insert title).resolve
    ∃ p, Predicate.bind? resolve (.of "Title".toList .like (.text "ΟΔΟΣ Α".toList)) = some p ∧
      p.holds (.text "Η ΟΔΟΣ ΑΥΤΗ".toList) = true := by
  intro title resolve
  have hdecided : Text.sigmasDecided "ΟΔΟΣ Α".toList = true := by decide +kernel
  obtain ⟨p, hp, hholds⟩ := (like_finds_occurrences_iff "ΟΔΟΣ Α".toList).2 hdecided Value resolve
    "Title".toList title (by rfl) rfl
  exact ⟨p, hp, hholds (.text "Η ΟΔΟΣ ΑΥΤΗ".toList) _ rfl
    ⟨"Η ".toList, "ΥΤΗ".toList, by decide⟩⟩

/-- A needle that ends in a sigma is not found where a letter follows. -/
theorem sigma_is_not_found_inside_a_word :
    let resolve := (Schema.empty.field "title".toList .text (id : Value → Value)).resolve
    ∃ p, Predicate.bind? resolve (.of "title".toList .like (.text "ΑΣ".toList)) = some p ∧
      "ΑΣ".toList <:+: "ΑΣΑ".toList ∧ p.holds (.text "ΑΣΑ".toList) = false ∧
      p.holds (.text "ΑΣ".toList) = true := by
  intro resolve
  exact ⟨_, rfl, ⟨[], "Α".toList, by decide⟩, by decide +kernel, by decide +kernel⟩

end RecordQuery

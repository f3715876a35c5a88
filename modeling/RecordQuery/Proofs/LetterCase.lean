import RecordQuery.Execution
import RecordQuery.Proofs.Segmentwise
import RecordQuery.Proofs.SmallLetters

/-!
# Queries do not depend on ASCII case

Two queries that differ at most in the case of the letters `A` to `Z` compile to the same result
(`compile_eq_of_sameLetters`). `compile` treats case in two ways: marks, words and comparators are
compared without regard to ASCII case, and fields, columns and values are lower-cased by the rules
of Unicode. Both factor through `Text.uncased`, which lower-cases the letters `A` to `Z` only:

* a character that is no letter splits a text at the same places (`Text.splitOn_uncased`);
* numerals contain no letters (`Text.natural?_uncased`);
* `Text.lower` gives the same, also where a capital sigma depends on the letters around it
  (`Text.lower_uncased`).

From there the invariance is carried through the rows of the segment table
(`Segment.reading_uncased`) to whole queries (`compile_uncased`).
-/

namespace RecordQuery

namespace Text

/-! ### Characters -/

/-- A function that agrees on an ASCII character and its lower case agrees on every character and
its ASCII lower case. -/
theorem apply_toLower {β : Type} (f : Char → β)
    (hascii : ∀ n : Fin 128, f (Char.ofNat n).toLower = f (Char.ofNat n)) (c : Char) :
    f c.toLower = f c := by
  by_cases hc : c.toNat < 128
  · exact forall_ascii (P := fun c => f c.toLower = f c) hascii hc
  · rw [toLower_of_not_ascii hc]

theorem toLower_toLower (c : Char) : c.toLower.toLower = c.toLower :=
  apply_toLower Char.toLower (by decide +kernel) c

theorem isAlpha_toLower (c : Char) : c.toLower.isAlpha = c.isAlpha :=
  apply_toLower Char.isAlpha (by decide +kernel) c

theorem isDigit_toLower (c : Char) : c.toLower.isDigit = c.isDigit :=
  apply_toLower Char.isDigit (by decide +kernel) c

theorem isCased_toLower (c : Char) : isCased c.toLower = isCased c :=
  apply_toLower isCased (by decide +kernel) c

theorem isCaseIgnorable_toLower (c : Char) : isCaseIgnorable c.toLower = isCaseIgnorable c :=
  apply_toLower isCaseIgnorable (by decide +kernel) c

theorem lowerChar_toLower (c : Char) : lowerChar c.toLower = lowerChar c :=
  apply_toLower lowerChar (by decide +kernel) c

theorem toLower_of_not_isAlpha {c : Char} (h : c.isAlpha = false) : c.toLower = c := by
  by_cases hc : c.toNat < 128
  · exact forall_ascii (P := fun c => c.isAlpha = false → c.toLower = c) (by decide +kernel) hc h
  · exact toLower_of_not_ascii hc

/-- If `a` is no letter, it is the only character whose lower case is `a`. -/
theorem toLower_eq_iff {a c : Char} (ha : a.isAlpha = false) : c.toLower = a ↔ c = a := by
  constructor
  · intro h
    -- a character and its lower case are both letters, or neither is
    have hc : c.isAlpha = false := by rw [← isAlpha_toLower, h, ha]
    rw [← h, toLower_of_not_isAlpha hc]
  · rintro rfl
    exact toLower_of_not_isAlpha ha

theorem sameLetter_toLower (c d : Char) : sameLetter c d.toLower = sameLetter c d := by
  rw [sameLetter, sameLetter, toLower_toLower]

/-! ### Texts without ASCII case -/

/-- Lower-cases the letters `A` to `Z`. -/
def uncased (t : Text) : Text := t.map Char.toLower

@[simp] theorem uncased_cons (c : Char) (t : Text) :
    uncased (c :: t) = c.toLower :: t.uncased := rfl

theorem uncased_append (s t : Text) : (s ++ t).uncased = s.uncased ++ t.uncased :=
  List.map_append

@[simp] theorem isEmpty_uncased (t : Text) : t.uncased.isEmpty = t.isEmpty := List.isEmpty_map

/-- Comparing with `sameLetters` is comparing the `uncased` texts. -/
theorem sameLetters_iff_uncased (s t : Text) :
    sameLetters s t = true ↔ s.uncased = t.uncased := sameLetters_iff s t

theorem uncased_uncased (t : Text) : t.uncased.uncased = t.uncased := by
  rw [uncased, uncased, List.map_map]
  exact List.map_congr_left fun c _ => toLower_toLower c

theorem sameLetters_uncased_left (s t : Text) : sameLetters s.uncased t = sameLetters s t := by
  rw [Bool.eq_iff_iff, sameLetters_iff_uncased, sameLetters_iff_uncased, uncased_uncased]

theorem sameLetters_uncased_right (s t : Text) : sameLetters s t.uncased = sameLetters s t := by
  rw [sameLetters_comm, sameLetters_uncased_left, sameLetters_comm]

/-- A mark is stripped whatever the case, and leaves the same rest. -/
theorem strip?_uncased (mark t : Text) :
    strip? sameLetter mark t.uncased = (strip? sameLetter mark t).map uncased := by
  induction mark generalizing t with
  | nil => rfl
  | cons c mark ih =>
    cases t with
    | nil => rfl
    | cons d t =>
      rw [uncased_cons, strip?, strip?, sameLetter_toLower]
      split
      · exact ih t
      · rfl

/-! ### Splitting -/

/-- A character that is no letter splits the text at the same places. -/
theorem splitOn_uncased {a : Char} (ha : a.isAlpha = false) (t : Text) :
    t.uncased.splitOn a = (t.splitOn a).map uncased := by
  induction t with
  | nil => rfl
  | cons c t ih =>
    obtain ⟨first, others, hsplit⟩ := List.exists_cons_of_ne_nil (List.splitOn_ne_nil a t)
    rw [uncased_cons, List.splitOn_cons_eq_if_modifyHead, List.splitOn_cons_eq_if_modifyHead, ih,
      hsplit]
    by_cases hc : c = a
    · -- a separator, in both texts
      rw [if_pos (by simpa using (toLower_eq_iff ha).2 hc), if_pos (by simpa using hc)]
      rfl
    · -- one more character of the first piece
      rw [if_neg (by simpa using mt (toLower_eq_iff ha).1 hc), if_neg (by simpa using hc)]
      rfl

/-- The pieces that are not empty stay so. -/
theorem filter_splitOn_uncased {a : Char} (ha : a.isAlpha = false) (t : Text) :
    (t.uncased.splitOn a).filter (fun piece => !piece.isEmpty) =
      ((t.splitOn a).filter fun piece => !piece.isEmpty).map uncased := by
  rw [splitOn_uncased ha, List.filter_map]
  congr 2
  funext piece
  exact congrArg not (isEmpty_uncased piece)

/-! ### Numerals -/

theorem all_isDigit_uncased (t : Text) : t.uncased.all Char.isDigit = t.all Char.isDigit := by
  rw [uncased, List.all_map]
  exact List.all_congr rfl fun c => isDigit_toLower c

/-- Digits have no case. -/
theorem uncased_of_isDigit {t : Text} (h : t.all Char.isDigit = true) : t.uncased = t := by
  refine (List.map_congr_left fun c hc => ?_).trans (List.map_id' t)
  exact toLower_of_settled (settled_of_isDigit (List.all_eq_true.1 h c hc))

theorem natural?_uncased (t : Text) : natural? t.uncased = natural? t := by
  by_cases h : t.all Char.isDigit = true
  · rw [uncased_of_isDigit h]
  · -- a text with other characters than digits is rejected, `uncased` or not
    simp only [natural?, all_isDigit_uncased, h, Bool.and_false, Bool.false_eq_true, if_false]

theorem unsigned?_of_ne {c : Char} (hc : c ≠ '+') (t : Text) :
    unsigned? (c :: t) = natural? (c :: t) := by
  unfold unsigned?
  split
  · next h => exact absurd (List.cons.inj h).1 hc
  · rfl

theorem unsigned?_uncased (t : Text) : unsigned? t.uncased = unsigned? t := by
  cases t with
  | nil => rfl
  | cons c t =>
    by_cases hc : c = '+'
    · subst hc
      exact natural?_uncased t
    · have hlow : c.toLower ≠ '+' := mt (toLower_eq_iff (by decide)).1 hc
      rw [uncased_cons, unsigned?_of_ne hlow, unsigned?_of_ne hc]
      exact natural?_uncased (c :: t)

theorem signed?_minus (t : Text) : signed? ('-' :: t) = (natural? t).map fun n => -(n : Int) := rfl

theorem signed?_of_ne {c : Char} (hc : c ≠ '-') (t : Text) :
    signed? (c :: t) = (unsigned? (c :: t)).map fun n => (n : Int) := by
  unfold signed?
  split
  · next h => exact absurd (List.cons.inj h).1 hc
  · rfl

theorem signed?_uncased (t : Text) : signed? t.uncased = signed? t := by
  cases t with
  | nil => rfl
  | cons c t =>
    by_cases hc : c = '-'
    · subst hc
      change signed? ('-' :: uncased t) = signed? ('-' :: t)
      rw [signed?_minus, signed?_minus, natural?_uncased]
    · have hlow : c.toLower ≠ '-' := mt (toLower_eq_iff (by decide)).1 hc
      have hrest : unsigned? (c.toLower :: uncased t) = unsigned? (c :: t) :=
        unsigned?_uncased (c :: t)
      rw [uncased_cons, signed?_of_ne hlow, signed?_of_ne hc, hrest]

theorem word64?_uncased (t : Text) : word64? t.uncased = word64? t := by
  rw [word64?, word64?, unsigned?_uncased]

theorem int64?_uncased (t : Text) : int64? t.uncased = int64? t := by
  rw [int64?, int64?, signed?_uncased]

/-! ### Lower case -/

/-- The next cased letter is at the same place. -/
theorem casedAhead_uncased (t : Text) : casedAhead t.uncased = casedAhead t := by
  induction t with
  | nil => rfl
  | cons c t ih =>
    unfold casedAhead at ih ⊢
    by_cases hc : isCaseIgnorable c = true
    · -- the character is case-ignorable, `uncased` or not
      rw [uncased_cons, List.dropWhile_cons_of_pos hc,
        List.dropWhile_cons_of_pos (by rwa [isCaseIgnorable_toLower]), ih]
    · rw [uncased_cons, List.dropWhile_cons_of_neg hc,
        List.dropWhile_cons_of_neg (by rwa [isCaseIgnorable_toLower])]
      exact isCased_toLower c

theorem endsWord_uncased (before after : Text) :
    endsWord before.uncased after.uncased = endsWord before after := by
  rw [endsWord, endsWord, casedAhead_uncased, casedAhead_uncased]

/-- The position of a sigma in its word does not depend on case, and no other character depends on
its context. -/
theorem lowerAt_uncased (before : Text) (c : Char) (after : Text) :
    lowerAt before.uncased c.toLower after.uncased = lowerAt before c after := by
  rw [lowerAt, lowerAt, endsWord_uncased, lowerChar_toLower]
  simp only [toLower_eq_iff (a := 'Σ') (by decide)]

theorem lowerAfter_uncased (before t : Text) :
    lowerAfter before.uncased t.uncased = lowerAfter before t := by
  induction t generalizing before with
  | nil => rfl
  | cons c t ih =>
    -- the context of the next character gains this one, uncased
    rw [uncased_cons, lowerAfter, lowerAfter, lowerAt_uncased, ← ih]
    rfl

/-- **`lower` does not depend on ASCII case.** -/
theorem lower_uncased (t : Text) : lower t.uncased = lower t := lowerAfter_uncased [] t

/-- If the `uncased` text is settled, it is the lower case. -/
theorem lower_eq_uncased {t : Text} (h : ∀ c ∈ t.uncased, Settled c) : lower t = t.uncased := by
  rw [← lower_uncased, lower_of_settled h]

end Text

/-! ### Operations -/

theorem Comparator.ofToken?_uncased (t : Text) :
    Comparator.ofToken? t.uncased = Comparator.ofToken? t := by
  simp only [Comparator.ofToken?, Text.sameLetters_uncased_right]

/-- A sort has the same columns. -/
theorem Sorting.of?_map_uncased (columns : List Text) (descending : Bool) :
    Sorting.of? (columns.map Text.uncased) descending = Sorting.of? columns descending := by
  have hlower : (columns.map Text.uncased).map Text.lower = columns.map Text.lower := by
    rw [List.map_map]
    exact List.map_congr_left fun c _ => Text.lower_uncased c
  simp only [Sorting.of?, List.map_eq_nil_iff, hlower]

/-! ### Segments -/

namespace Segment

theorem after?_uncased (mark t : Text) : after? mark t.uncased = (after? mark t).map Text.uncased :=
  Text.strip?_uncased mark t

theorem pageRow_uncased {d : Dialect} (hinner : d.innerSeparator.isAlpha = false) (t : Text) :
    pageRow d t.uncased = pageRow d t := by
  rw [pageRow, pageRow, Text.splitOn_uncased hinner]
  generalize t.splitOn d.innerSeparator = pieces
  -- by the number of parts: none, a number, a number and a size, more
  rcases pieces with _ | ⟨number, _ | ⟨size, _ | ⟨other, others⟩⟩⟩
  · rfl
  · simp only [List.map_cons, List.map_nil, Text.int64?_uncased]
  · simp only [List.map_cons, List.map_nil, Text.int64?_uncased]
  · rfl

theorem skipRow_uncased (t : Text) : skipRow t.uncased = skipRow t := by
  rw [skipRow, skipRow, Text.word64?_uncased]

theorem takeRow_uncased (t : Text) : takeRow t.uncased = takeRow t := by
  rw [takeRow, takeRow, Text.word64?_uncased]

theorem columns_uncased {d : Dialect} (hlist : d.listDelimiter.isAlpha = false) (t : Text) :
    columns d t.uncased = (columns d t).map Text.uncased :=
  Text.filter_splitOn_uncased hlist t

theorem sortRow_uncased {d : Dialect} (hlist : d.listDelimiter.isAlpha = false) (t : Text) :
    sortRow d t.uncased = sortRow d t := by
  rw [sortRow, sortRow, after?_uncased]
  cases after? d.descendingMark t with
  | none => simp only [Option.map_none, columns_uncased hlist, Sorting.of?_map_uncased]
  | some rest => simp only [Option.map_some, columns_uncased hlist, Sorting.of?_map_uncased]

theorem filterRow_uncased {d : Dialect} (hinner : d.innerSeparator.isAlpha = false) (t : Text) :
    filterRow d t.uncased = filterRow d t := by
  rw [filterRow, filterRow, Text.splitOn_uncased hinner]
  generalize t.splitOn d.innerSeparator = pieces
  -- only three parts make a filter
  rcases pieces with _ | ⟨field, _ | ⟨word, _ | ⟨value, _ | ⟨other, others⟩⟩⟩⟩
  · rfl
  · rfl
  · rfl
  · -- field and value are lower-cased, comparator and `nullWord` are compared up to case
    simp only [List.map_cons, List.map_nil, Text.isEmpty_uncased, Comparator.ofToken?_uncased,
      Text.sameLetters_uncased_left, Text.lower_uncased]
  · rfl

/-- **The reading of a segment does not depend on ASCII case.** -/
theorem reading_uncased {d : Dialect} (hinner : d.innerSeparator.isAlpha = false)
    (hlist : d.listDelimiter.isAlpha = false) (t : Text) :
    reading d t.uncased = reading d t := by
  simp only [reading, after?_uncased]
  -- the same mark is the first that matches, with the same row
  cases after? d.pageMark t with
  | some rest => exact pageRow_uncased hinner rest
  | none =>
    cases after? d.skipMark t with
    | some rest => exact skipRow_uncased rest
    | none =>
      cases after? d.takeMark t with
      | some rest => exact takeRow_uncased rest
      | none =>
        cases after? d.sortMark t with
        | some rest => exact sortRow_uncased hlist rest
        | none => exact filterRow_uncased hinner t

end Segment

/-! ### Queries -/

theorem Query.pieces_uncased {d : Dialect} (hsep : d.separator.isAlpha = false) (query : Text) :
    Query.pieces d query.uncased = (Query.pieces d query).map Text.uncased :=
  Text.filter_splitOn_uncased hsep query

/-- **`compile` does not depend on ASCII case.** -/
theorem compile_uncased {d : Dialect} (hsep : d.separator.isAlpha = false)
    (hinner : d.innerSeparator.isAlpha = false) (hlist : d.listDelimiter.isAlpha = false)
    (query : Text) : compile d query.uncased = compile d query := by
  rw [Query.compile_eq_collect_reading, Query.compile_eq_collect_reading,
    Query.pieces_uncased hsep, List.map_map]
  exact congrArg Query.collect
    (List.map_congr_left fun piece _ => Segment.reading_uncased hinner hlist piece)

/-- **Queries do not depend on ASCII case.** In a dialect whose delimiters are no ASCII letters, two
queries that differ at most in the case of the letters `A` to `Z` compile to the same operations or
to the same error, and so have the same result on every target under every resolver. -/
theorem compile_eq_of_sameLetters {d : Dialect} (hsep : d.separator.isAlpha = false)
    (hinner : d.innerSeparator.isAlpha = false) (hlist : d.listDelimiter.isAlpha = false)
    {query other : Text} (h : Text.sameLetters query other = true) :
    compile d query = compile d other ∧
      ∀ (ρ : Type) (τ : Type → Type) [Target τ] (resolve : Resolver ρ) (t : τ ρ),
        (compile d query).map (fun operations => run resolve operations t) =
          (compile d other).map fun operations => run resolve operations t := by
  have hcompile : compile d query = compile d other := by
    rw [← compile_uncased hsep hinner hlist query, ← compile_uncased hsep hinner hlist other,
      (Text.sameLetters_iff_uncased query other).1 h]
  refine ⟨hcompile, ?_⟩
  intro ρ τ _ resolve t
  rw [hcompile]

/-- A sort by a column that ends in a sigma, and a `null` filter, each in two spellings. In both the
sigma is final, because a letter precedes it in both. -/
theorem compile_of_other_spelling :
    let query := "Sort-DESC-xΣ/a-NOT-Null".toList
    let other := "sORT-desc-XΣ/A-not-nULL".toList
    let operations : List Operation :=
      [.sort ⟨["xς".toList], true, by decide, by decide +kernel⟩,
        .filter ⟨"a".toList, .not, .null⟩]
    Text.sameLetters query other = true ∧ compile {} query = .ok operations ∧
      compile {} query = compile {} other ∧
      ∀ (ρ : Type) (resolve : Resolver ρ) (rows : List ρ),
        answer resolve query rows = answer resolve other rows := by
  intro query other operations
  have hletters : Text.sameLetters query other = true := by decide
  obtain ⟨hcompile, hanswer⟩ :=
    compile_eq_of_sameLetters (d := {}) (by decide) (by decide) (by decide) hletters
  refine ⟨hletters, ?_, hcompile, fun ρ => hanswer ρ List⟩
  rw [Query.compile_eq_collect_reading]
  rfl

end RecordQuery

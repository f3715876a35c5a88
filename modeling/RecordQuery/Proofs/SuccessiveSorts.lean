import RecordQuery.Proofs.Pulling
import RecordQuery.Proofs.StableSort

/-!
# Successive sorts

A stable sort keeps the order of the rows that are equal by it, so the order of an earlier sort is
kept among them: the later sort decides first, then the earlier one, and then the given order
(`SortedInTurn`).

* Two stable sorts in succession give rows in this order (`StablySorted.inTurn`), which is unique
  (`SortedInTurn.unique`).
* Ranks in the columns of both sorts, appended, compare in the same way (`append_lt_append_iff`). So
  two sorts with the same direction are one sort by the columns of both, those of the later sort
  first (`StablySorted.inTurn_of_append`).

Columns that do not resolve, absent values and opposite directions are no special cases: a sort is
the stable sort by its fields, and without fields all rows have the same rank (`sorts_compose`).
-/

namespace RecordQuery

variable {ρ κ : Type}

/-! ### Rows sorted by two places -/

section Turns

variable [LinearOrder κ] {d e : Direction} {place inner : ρ → κ} {rows between sorted : List ρ}

/-- **Rows sorted in turn**: by `place`, then by `inner`, then in their given order. -/
structure SortedInTurn (d e : Direction) (place inner : ρ → κ) (rows sorted : List ρ) : Prop where
  /-- The sorted rows are a permutation of the rows. -/
  perm : sorted.Perm rows
  /-- The rows are ordered by `place`, and those with the same `place` by `inner`. -/
  ordered : sorted.Pairwise fun a b =>
    d.le (place a) (place b) ∧ (place a = place b → e.le (inner a) (inner b))
  /-- Rows with the same two places keep their order. -/
  stable : ∀ k, (sorted.filter fun row => (place row, inner row) = k) =
    rows.filter fun row => (place row, inner row) = k

/-- Rows with the same place are in some order if all filters by a place are. -/
theorem pairwise_of_filter {le : ρ → ρ → Prop}
    (h : ∀ k, (sorted.filter fun row => place row = k).Pairwise le) :
    sorted.Pairwise fun a b => place a = place b → le a b := by
  rw [List.pairwise_iff_forall_sublist]
  intro a b hab hplace
  -- the two rows are in the filter by their place
  have hsub := hab.filter fun row => decide (place row = place b)
  rw [List.filter_cons_of_pos (by simp [hplace]), List.filter_cons_of_pos (by simp),
    List.filter_nil] at hsub
  exact List.pairwise_iff_forall_sublist.1 (h (place b)) hsub

/-- Filtering by two places is filtering by one after the other. -/
theorem filter_pair (rows : List ρ) (k : κ × κ) :
    (rows.filter fun row => (place row, inner row) = k) =
      (rows.filter fun row => place row = k.1).filter fun row => inner row = k.2 := by
  rw [List.filter_filter]
  refine List.filter_congr fun row _ => ?_
  rw [← Bool.decide_and, decide_eq_decide, Prod.ext_iff, and_comm]

/-- **Stable sorts in succession** sort rows in turn, by the later one first. -/
theorem StablySorted.inTurn (hfirst : StablySorted e inner rows between)
    (hsecond : StablySorted d place between sorted) : SortedInTurn d e place inner rows sorted := by
  refine ⟨hsecond.perm.trans hfirst.perm, ?_, fun k => ?_⟩
  · -- the rows of one place are still in the order of the first sort
    have hkept : ∀ k, (sorted.filter fun row => place row = k).Pairwise
        fun a b => e.le (inner a) (inner b) := by
      intro k
      rw [hsecond.stable k]
      exact hfirst.ordered.filter _
    exact hsecond.ordered.and (pairwise_of_filter hkept)
  · -- the later sort keeps the filters by its places, the earlier one those by its own
    calc (sorted.filter fun row => (place row, inner row) = k)
      _ = (sorted.filter fun row => place row = k.1).filter fun row => inner row = k.2 :=
        filter_pair sorted k
      _ = (between.filter fun row => place row = k.1).filter fun row => inner row = k.2 := by
        rw [hsecond.stable]
      _ = (between.filter fun row => inner row = k.2).filter fun row => place row = k.1 := by
        rw [List.filter_comm]
      _ = (rows.filter fun row => inner row = k.2).filter fun row => place row = k.1 := by
        rw [hfirst.stable]
      _ = (rows.filter fun row => place row = k.1).filter fun row => inner row = k.2 := by
        rw [List.filter_comm]
      _ = rows.filter fun row => (place row, inner row) = k := (filter_pair rows k).symm

/-- The same stable sort twice is the stable sort. -/
theorem StablySorted.trans (hfirst : StablySorted d place rows between)
    (hsecond : StablySorted d place between sorted) : StablySorted d place rows sorted :=
  ⟨hsecond.perm.trans hfirst.perm, hsecond.ordered,
    fun k => (hsecond.stable k).trans (hfirst.stable k)⟩

/-- Rows sorted in turn are unique. -/
theorem SortedInTurn.unique {other : List ρ} (h : SortedInTurn d e place inner rows sorted)
    (h' : SortedInTurn d e place inner rows other) : sorted = other := by
  refine eq_of_filter_eq (fun a b => (place b, inner b) = (place a, inner a)) (fun a _ => rfl) ?_
    (h'.perm.trans h.perm.symm) h.ordered h'.ordered fun a _ => ?_
  · rintro a _ b _ ⟨hab, hinner⟩ ⟨hba, hinner'⟩
    have hplace : place b = place a := Direction.le_antisymm hba hab
    exact Prod.ext hplace (Direction.le_antisymm (hinner' hplace) (hinner hplace.symm))
  · exact (h.stable (place a, inner a)).trans (h'.stable (place a, inner a)).symm

end Turns

/-! ### The columns of both sorts -/

section Append

variable [LinearOrder κ] {d : Direction} {x y x' y' : List κ}

/-- Appended lists compare by their first parts, if these have the same length, and then by their
second parts. -/
theorem append_lt_append_iff (h : x.length = y.length) :
    x ++ x' < y ++ y' ↔ x < y ∨ x = y ∧ x' < y' := by
  induction x generalizing y with
  | nil =>
    obtain rfl : y = [] := List.eq_nil_of_length_eq_zero h.symm
    simp
  | cons a x ih =>
    cases y with
    | nil => simp at h
    | cons b y =>
      rw [List.cons_append, List.cons_append, List.cons_lt_cons_iff, ih (by simpa using h),
        List.cons_lt_cons_iff, List.cons.injEq, and_or_left, or_assoc, and_assoc]

theorem le_of_append_le (h : x.length = y.length) (hle : x ++ x' ≤ y ++ y') :
    x ≤ y ∧ (x = y → x' ≤ y') := by
  rw [← not_lt, append_lt_append_iff h.symm, not_or] at hle
  exact ⟨not_lt.1 hle.1, fun heq => not_lt.1 fun hlt => hle.2 ⟨heq.symm, hlt⟩⟩

theorem Direction.le_of_append_le (h : x.length = y.length) (hle : d.le (x ++ x') (y ++ y')) :
    d.le x y ∧ (x = y → d.le x' y') := by
  cases d with
  | ascending => exact RecordQuery.le_of_append_le h hle
  | descending =>
    obtain ⟨hxy, hrest⟩ := RecordQuery.le_of_append_le h.symm hle
    exact ⟨hxy, fun heq => hrest heq.symm⟩

/-- **A sort by the columns of two sorts** sorts rows in turn. -/
theorem StablySorted.inTurn_of_append {place inner : ρ → List κ} {rows sorted : List ρ}
    (hlength : ∀ a b, (place a).length = (place b).length)
    (h : StablySorted d (fun row => place row ++ inner row) rows sorted) :
    SortedInTurn d d place inner rows sorted := by
  refine ⟨h.perm, h.ordered.imp fun hab => Direction.le_of_append_le (hlength _ _) hab, ?_⟩
  intro k
  by_cases hk : ∃ row, (place row, inner row) = k
  · -- the appended ranks determine both ranks
    obtain ⟨last, rfl⟩ := hk
    have hboth : ∀ row, (place row, inner row) = (place last, inner last) ↔
        place row ++ inner row = place last ++ inner last := by
      intro row
      rw [Prod.mk.injEq]
      exact ⟨fun ⟨hp, hi⟩ => by rw [hp, hi], fun h => List.append_inj h (hlength row last)⟩
    have hstable := h.stable (place last ++ inner last)
    exact (List.filter_congr fun row _ => decide_eq_decide.2 (hboth row)).trans
      (hstable.trans (List.filter_congr fun row _ => decide_eq_decide.2 (hboth row).symm))
  · -- no row has these places
    have hnone : ∀ row, (place row, inner row) ≠ k := not_exists.1 hk
    simp [hnone]

end Append

/-- The columns of two sorts make a sort. -/
theorem Sorting.exists_of?_append (first second : Sorting) :
    ∃ both, Sorting.of? (second.columns ++ first.columns) second.descending = .ok both ∧
      both.columns = second.columns ++ first.columns ∧ both.descending = second.descending := by
  have hne : second.columns ++ first.columns ≠ [] := by simp [second.columns_ne_nil]
  have hlower : ∀ c ∈ second.columns ++ first.columns, c.lower = c := by
    intro c hc
    rcases List.mem_append.1 hc with hc | hc
    · exact second.lower_columns c hc
    · exact first.lower_columns c hc
  exact ⟨⟨_, second.descending, hne, hlower⟩, Sorting.of?_columns ⟨_, _, hne, hlower⟩, rfl, rfl⟩

/-! ### Sorts of targets -/

section Sorts

variable {τ : Type → Type} [Target τ] [LawfulTarget τ] {resolve : Resolver ρ}
  {first second both : Sorting} {t : τ ρ}

theorem rowRank_append (fields others : List (Field ρ)) :
    rowRank (fields ++ others) = fun row => rowRank fields row ++ rowRank others row :=
  funext fun _ => List.map_append

/-- Two sorts in succession sort rows in turn. -/
theorem Sorting.inTurn_apply_apply (hfirst : ∀ f ∈ first.fields resolve, f.Uniform (Target.rows t))
    (hsecond : ∀ f ∈ second.fields resolve, f.Uniform (Target.rows t)) :
    SortedInTurn (Direction.ofDescending second.descending)
      (Direction.ofDescending first.descending) (rowRank (second.fields resolve))
      (rowRank (first.fields resolve)) (Target.rows t)
      (Target.rows (second.apply resolve (first.apply resolve t))) := by
  have hbetween := stablySorted_apply hfirst
  refine hbetween.inTurn (stablySorted_apply fun f hf => ?_)
  exact (hsecond f hf).mono fun row hrow => hbetween.perm.mem_iff.1 hrow

/-- The same sort twice is the stable sort. -/
theorem Sorting.stablySorted_apply_apply
    (h : ∀ f ∈ first.fields resolve, f.Uniform (Target.rows t)) :
    StablySorted (Direction.ofDescending first.descending) (rowRank (first.fields resolve))
      (Target.rows t) (Target.rows (first.apply resolve (first.apply resolve t))) := by
  have hbetween := stablySorted_apply h
  refine hbetween.trans (stablySorted_apply fun f hf => ?_)
  exact (h f hf).mono fun row hrow => hbetween.perm.mem_iff.1 hrow

/-- One sort by the columns of both sorts rows in turn. -/
theorem Sorting.inTurn_apply_append (hcolumns : both.columns = second.columns ++ first.columns)
    (hfirst : ∀ f ∈ first.fields resolve, f.Uniform (Target.rows t))
    (hsecond : ∀ f ∈ second.fields resolve, f.Uniform (Target.rows t)) :
    SortedInTurn (Direction.ofDescending both.descending)
      (Direction.ofDescending both.descending) (rowRank (second.fields resolve))
      (rowRank (first.fields resolve)) (Target.rows t) (Target.rows (both.apply resolve t)) := by
  have hfields : both.fields resolve = second.fields resolve ++ first.fields resolve := by
    rw [fields, hcolumns, List.filterMap_append]
    rfl
  have huniform : ∀ f ∈ both.fields resolve, f.Uniform (Target.rows t) := by
    rw [hfields]
    exact List.forall_mem_append.2 ⟨hsecond, hfirst⟩
  have hstable := stablySorted_apply huniform
  rw [hfields, rowRank_append] at hstable
  refine StablySorted.inTurn_of_append (fun a b => ?_) hstable
  rw [rowRank, rowRank, List.length_map, List.length_map]

/-- **Sorts compose.** If the fields of two sorts are uniform, the sorts in succession order the
rows of a lawful target by the later one, then by the earlier one, and then by the given order. Two
sorts with the same direction are the sort by the columns of both, and sorts are idempotent. -/
theorem sorts_compose [SortMethod] {τ : Type → Type} [Target τ] [LawfulTarget τ]
    (resolve : Resolver ρ) (first second : Sorting) (t : τ ρ)
    (hfirst : ∀ f ∈ first.fields resolve, f.Uniform (Target.rows t))
    (hsecond : ∀ f ∈ second.fields resolve, f.Uniform (Target.rows t)) :
    (∀ sorted, SortedInTurn (Direction.ofDescending second.descending)
        (Direction.ofDescending first.descending) (rowRank (second.fields resolve))
        (rowRank (first.fields resolve)) (Target.rows t) sorted ↔
      sorted = Target.rows (run resolve [.sort first, .sort second] t)) ∧
    (first.descending = second.descending → ∃ both,
      Sorting.of? (second.columns ++ first.columns) first.descending = .ok both ∧
        GiveSame resolve [.sort first, .sort second] [.sort both] (Target.rows t)) ∧
    GiveSame resolve [.sort first, .sort first] [.sort first] (Target.rows t) := by
  refine ⟨fun sorted => ?_, fun hdirection => ?_, ?_⟩
  · have hturn := Sorting.inTurn_apply_apply hfirst hsecond
    exact ⟨fun h => h.unique hturn, fun h => h ▸ hturn⟩
  · obtain ⟨both, hboth, hcolumns, hdescending⟩ := Sorting.exists_of?_append first second
    refine ⟨both, hdirection ▸ hboth, .of_rows_eq fun τ' _ _ t' ht' => ?_⟩
    rw [← ht'] at hfirst hsecond
    -- both the two sorts and the one sort by all columns give the rows in turn, which is unique
    have hturn := Sorting.inTurn_apply_apply hfirst hsecond
    have honce := Sorting.inTurn_apply_append hcolumns hfirst hsecond
    rw [hdescending] at honce
    rw [hdirection] at hturn
    exact hturn.unique honce
  · refine .of_rows_eq fun τ' _ _ t' ht' => ?_
    rw [← ht'] at hfirst
    exact (Sorting.stablySorted_apply_apply hfirst).unique (Sorting.stablySorted_apply hfirst)

end Sorts

/-- An ascending sort by grade and then a descending one by weight: signed and unsigned integers,
absent weights last, and absent grades first among equal weights. Two rows that agree in both keep
their order. The sort by grade and the one by all columns have a column that does not resolve. -/
theorem sorts_compose_by_grade_then_weight :
    let schema : Schema (Value × Value × Nat) :=
      (Schema.empty.optionalField "weight".toList .number fun row => row.1).optionalField
        "grade".toList .char fun row => row.2.1
    let resolve := schema.resolve
    let grade : Sorting := ⟨["color".toList, "grade".toList], false, by decide, by decide +kernel⟩
    let weight (descending : Bool) : Sorting :=
      ⟨["weight".toList], descending, by decide, by decide +kernel⟩
    let rows : List (Value × Value × Nat) := [
      (.absent, .char 'b', 0),
      (.number (.signed 7), .char 'b', 1),
      (.number (.unsigned 7), .char 'a', 2),
      (.absent, .char 'a', 3),
      (.number (.unsigned 9223372036854775808), .char 'z', 4),
      (.number (.unsigned 7), .char 'b', 5),
      (.number (.signed 7), .absent, 6)]
    let sorted := run resolve [.sort grade, .sort (weight true)] rows
    sorted.map (fun row => row.2.2) = [4, 6, 2, 1, 5, 3, 0] ∧
      SortedInTurn .descending .ascending (rowRank ((weight true).fields resolve))
        (rowRank (grade.fields resolve)) rows sorted ∧
      (∃ both, Sorting.of? ["weight".toList, "color".toList, "grade".toList] false = .ok both ∧
        GiveSame resolve [.sort grade, .sort (weight false)] [.sort both] rows) ∧
      GiveSame resolve [.sort grade, .sort grade] [.sort grade] rows := by
  intro schema resolve grade weight rows sorted
  have hgradeFields : grade.fields resolve =
      [⟨"grade".toList, .char, true, fun row => row.2.1⟩] := by rfl
  have hweightFields (descending : Bool) : (weight descending).fields resolve =
      [⟨"weight".toList, .number, true, fun row => row.1⟩] := by rfl
  have hgrade : ∀ f ∈ grade.fields resolve, f.Uniform rows := by
    rw [hgradeFields]
    exact List.forall_mem_singleton.2 ⟨.char, by decide⟩
  have hweight (descending : Bool) : ∀ f ∈ (weight descending).fields resolve, f.Uniform rows := by
    rw [hweightFields]
    exact List.forall_mem_singleton.2 ⟨.number, by decide⟩
  obtain ⟨hturn, -, hagain⟩ := sorts_compose resolve grade (weight true) rows hgrade (hweight true)
  have hboth := (sorts_compose resolve grade (weight false) rows hgrade (hweight false)).2.1 rfl
  exact ⟨by decide +kernel, (hturn sorted).2 rfl, hboth, hagain⟩

end RecordQuery

import Mathlib.Data.List.Perm.Subperm
import RecordQuery.Execution

/-!
# Rows of targets

A lawful target filters, skips and takes its rows as a list does, but it may sort them by a method
of its own. `IsStableSort` fixes the result of a sort if the comparison is a total preorder of the
rows (`IsStableSort.unique`), and then all lawful targets sort alike
(`Sorting.rows_apply_of_totalOn`).

So a query gives the same rows on a lawful target as on the list of its rows, if each of its sorts
does so on the rows that it is given (`rows_run_of_sort`). Deferred rows are sorted by the method
that sorts lists, and meet this whatever the comparison is (`Deferred.rows_run`).
-/

namespace RecordQuery

variable {ρ : Type}

/-! ### The result of a stable sort -/

/-- **A list is determined by its order and by its classes of equal rows**, if only equal rows may
stand either way around. -/
theorem eq_of_filter_eq {le : ρ → ρ → Prop} (same : ρ → ρ → Prop) [DecidableRel same]
    {rows other : List ρ}
    (hself : ∀ a ∈ rows, same a a) (hanti : ∀ a ∈ rows, ∀ b ∈ rows, le a b → le b a → same a b)
    (hperm : other.Perm rows) (hrows : rows.Pairwise le) (hother : other.Pairwise le)
    (hclass : ∀ a ∈ rows, (rows.filter fun b => same a b) = other.filter fun b => same a b) :
    rows = other := by
  induction rows generalizing other with
  | nil => exact hperm.eq_nil.symm
  | cons a rows ih =>
    cases other with
    | nil => exact absurd hperm.symm.eq_nil (List.cons_ne_nil a rows)
    | cons b other =>
      obtain ⟨ha, hbehind⟩ := List.pairwise_cons.1 hrows
      obtain ⟨hb, hbehind'⟩ := List.pairwise_cons.1 hother
      have hfirst : same a a := hself a (List.mem_cons_self ..)
      -- each of the two first rows is behind the other one, if they are not the same
      have hab : same a b := by
        rcases List.mem_cons.1 (hperm.mem_iff.1 (List.mem_cons_self ..)) with rfl | hbrows
        · exact hfirst
        rcases List.mem_cons.1 (hperm.mem_iff.2 (List.mem_cons_self ..)) with rfl | haother
        · exact hfirst
        · exact hanti a (List.mem_cons_self ..) b (List.mem_cons_of_mem a hbrows) (ha b hbrows)
            (hb a haother)
      -- the class of the first row begins with it in both lists, so the first rows are equal
      have hfilter := hclass a (List.mem_cons_self ..)
      rw [List.filter_cons_of_pos (by simpa using hfirst),
        List.filter_cons_of_pos (by simpa using hab)] at hfilter
      obtain rfl := (List.cons.inj hfilter).1
      have hmem (c : ρ) (hc : c ∈ rows) : c ∈ a :: rows := List.mem_cons_of_mem a hc
      -- without the first row, each class is as before or loses its first row in both lists
      have hrest : ∀ c ∈ rows,
          (rows.filter fun b => same c b) = other.filter fun b => same c b := by
        intro c hc
        have hrow := hclass c (hmem c hc)
        rw [List.filter_cons, List.filter_cons] at hrow
        split at hrow
        · exact (List.cons.inj hrow).2
        · exact hrow
      rw [ih (fun c hc => hself c (hmem c hc))
        (fun c hc d hd => hanti c (hmem c hc) d (hmem d hd)) hperm.cons_inv hbehind hbehind' hrest]

namespace IsStableSort

variable {order : ρ → ρ → Ordering} {rows sorted other : List ρ}

/-- **The contract fixes the result** where the comparison is a total preorder of the rows. -/
theorem unique (h : IsStableSort order rows sorted) (h' : IsStableSort order rows other)
    (htotal : TotalOn order rows) : sorted = other := by
  have hsorted : TotalOn order sorted := htotal.mono fun a => h.perm.mem_iff.1
  -- both results are in order, and stable: the equal rows are those of `rows` in their order
  refine eq_of_filter_eq (fun a b => order a b = .eq) (fun a ha => hsorted.self ha) ?_
    (h'.perm.trans h.perm.symm) (h.ordered htotal) (h'.ordered htotal) fun a ha => ?_
  · intro a ha b hb hab hba
    rw [hsorted.swap a ha b hb] at hba
    revert hab hba
    cases order a b <;> decide
  · have hrow := h.perm.mem_iff.1 ha
    rw [h.stable htotal a hrow, h'.stable htotal a hrow]

/-- Where all rows are equal, nothing has to be sorted. -/
theorem refl_of_eq (h : ∀ a b, order a b = .eq) : IsStableSort order rows rows where
  perm := .refl rows
  ordered _ := List.pairwise_of_forall fun a b => by rw [h]; decide
  stable _ _ _ := rfl

end IsStableSort

/-! ### Sorts of targets -/

section Targets

variable {τ : Type → Type} [Target τ] [LawfulTarget τ]

/-- A sort of a lawful target is stable, also where no column resolves and nothing is done. -/
theorem Sorting.isStableSort_apply (resolve : Resolver ρ) (s : Sorting) (t : τ ρ) :
    IsStableSort (compareByKeys (s.keys resolve)) (Target.rows t)
      (Target.rows (s.apply resolve t)) := by
  rw [apply]
  split
  · next hkeys =>
    rw [List.isEmpty_iff.1 hkeys]
    exact .refl_of_eq fun _ _ => rfl
  · exact LawfulTarget.rows_sort ..

/-- An operation gives some of the rows of a lawful target, in some order. -/
theorem rows_apply_subperm (resolve : Resolver ρ) (op : Operation) (t : τ ρ) :
    (Target.rows (op.apply resolve t)).Subperm (Target.rows t) := by
  cases op with
  | sort s => exact (s.isStableSort_apply resolve t).perm.subperm
  | skip count =>
    rw [Operation.apply, LawfulTarget.rows_skip]
    exact (List.drop_sublist ..).subperm
  | take limit =>
    cases limit with
    | count n =>
      rw [Operation.apply, LawfulTarget.rows_take]
      exact (List.take_sublist ..).subperm
    | unbounded => exact .refl _
  | page p =>
    rw [Operation.apply, LawfulTarget.rows_take, LawfulTarget.rows_skip]
    exact ((List.take_sublist ..).trans (List.drop_sublist ..)).subperm
  | filter f =>
    rw [Operation.apply, Filter.apply]
    split
    · rw [LawfulTarget.rows_keep]
      exact List.filter_sublist.subperm
    · exact .refl _

/-- A query gives some of the rows of a lawful target, in some order. -/
theorem rows_run_subperm (resolve : Resolver ρ) (operations : List Operation) (t : τ ρ) :
    (Target.rows (run resolve operations t)).Subperm (Target.rows t) := by
  induction operations generalizing t with
  | nil => exact .refl _
  | cons op operations ih => exact (ih _).trans (rows_apply_subperm resolve op t)

variable [SortMethod]

/-- Lawful targets sort alike where the comparison is a total preorder of their rows. -/
theorem Sorting.rows_apply_of_totalOn {resolve : Resolver ρ} {s : Sorting} {t : τ ρ}
    (h : TotalOn (compareByKeys (s.keys resolve)) (Target.rows t)) :
    Target.rows (s.apply resolve t) = s.apply resolve (Target.rows t) :=
  (s.isStableSort_apply resolve t).unique (s.isStableSort_apply resolve (Target.rows t)) h

/-! ### Queries on targets -/

/-- A query does to the rows of a lawful target what it does to a list of rows, if each of its sorts
does so on the rows that it is given. -/
theorem rows_run_of_sort {resolve : Resolver ρ} {operations : List Operation} {t : τ ρ}
    (h : ∀ before s after, operations = before ++ Operation.sort s :: after → ∀ t' : τ ρ,
      Target.rows t' = run resolve before (Target.rows t) →
        Target.rows (s.apply resolve t') = s.apply resolve (Target.rows t')) :
    Target.rows (run resolve operations t) = run resolve operations (Target.rows t) := by
  induction operations generalizing t with
  | nil => rfl
  | cons op operations ih =>
    -- the first operation is preceded by none, and the others by it
    have hop : Target.rows (op.apply resolve t) = op.apply resolve (Target.rows t) := by
      refine rows_apply resolve op t fun s hs => ?_
      exact h [] s operations (by rw [hs]; rfl) t rfl
    rw [run_cons, run_cons, ← hop]
    refine ih fun before s after heq t' ht' => ?_
    refine h (op :: before) s after (by rw [heq]; rfl) t' ?_
    rw [ht', run_cons, hop]

end Targets

/-- **A query gives deferred rows what it gives a list of rows**, whatever its sorts are given:
deferred rows are sorted as a list. -/
theorem Deferred.rows_run [SortMethod] (resolve : Resolver ρ) (operations : List Operation)
    (d : Deferred ρ) : (run resolve operations d).rows = run resolve operations d.rows := by
  refine rows_run_of_sort (t := d) fun before s after _ t' _ => ?_
  rw [Sorting.apply, Sorting.apply]
  split
  · rfl
  · exact Deferred.rows_sort ..

end RecordQuery

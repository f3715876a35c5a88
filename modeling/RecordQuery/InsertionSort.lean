import RecordQuery.Order

/-!
# Insertion sort

`insertionSort` puts one row after another behind all rows that are not greater (`insertLast`). It
satisfies the contract `IsStableSort` (`isStableSort_insertionSort`): each insertion keeps the rows
in order (`pairwise_insertLast`) and does not change the order of equal rows
(`filter_insertLast`), and so does the run over all rows (`foldl_insertLast`).

It is the `SortMethod` that is used where no other one is given.
-/

namespace RecordQuery

variable {ρ : Type}

/-- Inserts a row behind all rows that are not greater. The list is in reverse order. -/
def insertLast (order : ρ → ρ → Ordering) (row : ρ) : List ρ → List ρ
  | [] => [row]
  | last :: rows =>
    if order row last = .lt then last :: insertLast order row rows else row :: last :: rows

/-- Sorts rows by inserting each of them into those before it. -/
def insertionSort (order : ρ → ρ → Ordering) (rows : List ρ) : List ρ :=
  (rows.foldl (fun sorted row => insertLast order row sorted) []).reverse

theorem insertLast_perm (order : ρ → ρ → Ordering) (row : ρ) (rows : List ρ) :
    (insertLast order row rows).Perm (row :: rows) := by
  induction rows with
  | nil => exact .refl _
  | cons last rows ih =>
    rw [insertLast]
    split
    · exact (ih.cons last).trans (.swap row last rows)
    · exact .refl _

theorem foldl_insertLast_perm (order : ρ → ρ → Ordering) (rows sorted : List ρ) :
    (rows.foldl (fun sorted row => insertLast order row sorted) sorted).Perm
      (rows ++ sorted) := by
  induction rows generalizing sorted with
  | nil => exact .refl _
  | cons row rows ih =>
    refine (ih (insertLast order row sorted)).trans ?_
    refine ((insertLast_perm order row sorted).append_left rows).trans ?_
    exact List.perm_middle

/-- Insertion sort permutes the rows. -/
theorem insertionSort_perm (order : ρ → ρ → Ordering) (rows : List ρ) :
    (insertionSort order rows).Perm rows := by
  have h := foldl_insertLast_perm order rows []
  rw [List.append_nil] at h
  exact (List.reverse_perm _).trans h

section Insertion

variable {order : ρ → ρ → Ordering} {row : ρ} {rows sorted : List ρ}

/-- **One insertion keeps the order.** The list is in reverse order. -/
theorem pairwise_insertLast (h : TotalOn order (row :: rows))
    (hrows : rows.Pairwise fun a b => order b a ≠ .gt) :
    (insertLast order row rows).Pairwise fun a b => order b a ≠ .gt := by
  induction rows with
  | nil => exact List.pairwise_singleton _ row
  | cons last rows ih =>
    obtain ⟨hbefore, hrest⟩ := List.pairwise_cons.1 hrows
    rw [insertLast]
    split
    · next hlt =>
      -- `row` goes further to the front, and all rows that are left stand before `last`
      refine List.pairwise_cons.2 ⟨?_, ih (h.mono (by simp +contextual)) hrest⟩
      intro b hb
      rcases List.mem_cons.1 ((insertLast_perm order row rows).mem_iff.1 hb) with rfl | hb
      · rw [hlt]
        decide
      · exact hbefore b hb
    · next hge =>
      -- `row` goes behind `last`, and so behind all rows before `last`
      have hlast : order last row ≠ .gt := by
        rw [h.swap row (by simp) last (by simp), ne_eq, Ordering.swap_eq_gt]
        exact hge
      refine List.pairwise_cons.2 ⟨fun b hb => ?_, hrows⟩
      rcases List.mem_cons.1 hb with rfl | hb
      · exact hlast
      · exact h.trans b (by simp [hb]) last (by simp) row (by simp) (hbefore b hb) hlast

/-- Rows that are equal to one row are equal to each other. -/
theorem TotalOn.not_lt_of_eq {a b c : ρ} (h : TotalOn order rows) (ha : a ∈ rows) (hb : b ∈ rows)
    (hc : c ∈ rows) (hab : order a b = .eq) (hac : order a c = .eq) : order b c ≠ .lt := by
  have hca : order c a ≠ .gt := by
    rw [h.swap a ha c hc, hac]
    decide
  have hcb := h.trans c hc a ha b hb hca (by rw [hab]; decide)
  rwa [h.swap b hb c hc, ne_eq, Ordering.swap_eq_gt] at hcb

/-- **One insertion is stable.** A row equal to `a` is not moved past another one. -/
theorem filter_insertLast {all : List ρ} (h : TotalOn order all) {a : ρ} (ha : a ∈ all)
    (hrows : ∀ b ∈ row :: rows, b ∈ all) :
    ((insertLast order row rows).filter fun b => order a b = .eq) =
      (row :: rows).filter fun b => order a b = .eq := by
  induction rows with
  | nil => rfl
  | cons last rows ih =>
    rw [insertLast]
    split
    · next hlt =>
      have hrest := ih fun b hb => hrows b (by rcases List.mem_cons.1 hb with rfl | hb <;> simp [*])
      by_cases hlast : order a last = .eq
      · -- `row` is not among the rows that `a` is equal to
        have hrow : order a row ≠ .eq := fun hrow =>
          h.not_lt_of_eq ha (hrows row (by simp)) (hrows last (by simp)) hrow hlast hlt
        rw [List.filter_cons_of_pos (by simpa using hlast), hrest,
          List.filter_cons_of_neg (by simpa using hrow),
          List.filter_cons_of_neg (by simpa using hrow),
          List.filter_cons_of_pos (by simpa using hlast)]
      · rw [List.filter_cons_of_neg (by simpa using hlast), hrest, List.filter_cons,
          List.filter_cons, List.filter_cons_of_neg (by simpa using hlast)]
    · rfl

/-- **A run of insertions** keeps the order and is stable. The list that is sorted so far is in
reverse order. -/
theorem foldl_insertLast (h : TotalOn order (rows ++ sorted))
    (hsorted : sorted.Pairwise fun a b => order b a ≠ .gt) :
    ((rows.foldl (fun sorted row => insertLast order row sorted) sorted).Pairwise
      fun a b => order b a ≠ .gt) ∧
    ∀ a ∈ rows ++ sorted, ((rows.foldl (fun sorted row => insertLast order row sorted)
      sorted).filter fun b => order a b = .eq) =
        (rows.filter fun b => order a b = .eq).reverse ++
          sorted.filter fun b => order a b = .eq := by
  induction rows generalizing sorted with
  | nil => exact ⟨hsorted, fun a _ => rfl⟩
  | cons row rows ih =>
    have hrow : ∀ b ∈ row :: sorted, b ∈ row :: rows ++ sorted := by simp +contextual
    -- an insertion adds no row, so `order` is still a total preorder of all rows
    have hperm : (rows ++ insertLast order row sorted).Perm (row :: rows ++ sorted) :=
      ((insertLast_perm order row sorted).append_left rows).trans List.perm_middle
    obtain ⟨hordered, hstable⟩ := ih (h.mono fun a ha => hperm.mem_iff.1 ha)
      (pairwise_insertLast (h.mono hrow) hsorted)
    refine ⟨hordered, fun a ha => ?_⟩
    rw [List.foldl_cons, hstable a (hperm.mem_iff.2 ha), filter_insertLast h ha hrow,
      List.filter_cons, List.filter_cons]
    split <;> simp

/-- **Insertion sort satisfies the contract.** -/
theorem isStableSort_insertionSort (order : ρ → ρ → Ordering) (rows : List ρ) :
    IsStableSort order rows (insertionSort order rows) := by
  have hrun (h : TotalOn order (rows ++ [])) := foldl_insertLast h List.Pairwise.nil
  refine ⟨insertionSort_perm order rows, fun h => ?_, fun h a ha => ?_⟩
  · exact List.pairwise_reverse.2 (hrun (by rwa [List.append_nil])).1
  · rw [insertionSort, List.filter_reverse,
      (hrun (by rwa [List.append_nil])).2 a (by simpa using ha),
      List.filter_nil, List.append_nil, List.reverse_reverse]

end Insertion

/-- Insertion sort as a method. -/
instance (priority := low) SortMethod.insertion : SortMethod where
  sort := insertionSort
  isStableSort := isStableSort_insertionSort

end RecordQuery

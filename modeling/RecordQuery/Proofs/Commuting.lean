import RecordQuery.Proofs.Pulling
import RecordQuery.Proofs.StableSort

/-!
# Filters commute

A filter is `List.filter` by some test on the rows, also where it does not bind: then the test is
`true` (`Filter.exists_rows_apply_eq`). So filters commute with each other and are idempotent.

Filters commute with a sort because the stable order is unique: filtering stably sorted rows leaves
the filtered rows stably sorted (`StablySorted.filter`), so the result is the one of sorting the
filtered rows (`Sorting.rows_filter_apply`).
-/

namespace RecordQuery

variable {ρ κ : Type}

/-- A filter is `List.filter` by a test on the rows of every lawful target. -/
theorem Filter.exists_rows_apply_eq (resolve : Resolver ρ) (f : Filter) :
    ∃ test : ρ → Bool, ∀ {τ : Type → Type} [Target τ] [LawfulTarget τ] (t : τ ρ),
      Target.rows (f.apply resolve t) = (Target.rows t).filter test := by
  cases hbind : Predicate.bind? resolve f with
  | none =>
    refine ⟨fun _ => true, fun t => ?_⟩
    rw [apply, hbind, List.filter_true]
  | some p =>
    refine ⟨p.holds, fun t => ?_⟩
    rw [apply, hbind, LawfulTarget.rows_keep]

/-- **Filtered stably sorted rows** are the filtered rows, stably sorted. -/
theorem StablySorted.filter [LinearOrder κ] {d : Direction} {place : ρ → κ} {rows sorted : List ρ}
    (h : StablySorted d place rows sorted) (test : ρ → Bool) :
    StablySorted d place (rows.filter test) (sorted.filter test) := by
  refine ⟨h.perm.filter test, h.ordered.filter test, fun k => ?_⟩
  rw [List.filter_comm, h.stable k, List.filter_comm]

/-- Filtering after a sort is sorting the filtered rows. -/
theorem Sorting.rows_filter_apply {τ : Type → Type} [Target τ] [LawfulTarget τ]
    {resolve : Resolver ρ} {s : Sorting} {t filtered : τ ρ} {test : ρ → Bool}
    (hfiltered : Target.rows filtered = (Target.rows t).filter test)
    (h : ∀ f ∈ s.fields resolve, f.Uniform (Target.rows t)) :
    (Target.rows (s.apply resolve t)).filter test = Target.rows (s.apply resolve filtered) := by
  have hleft := (stablySorted_apply h).filter test
  have hsorted := stablySorted_apply (s := s) (t := filtered) fun f hf =>
    (h f hf).mono fun row hrow => List.mem_of_mem_filter (hfiltered ▸ hrow)
  rw [hfiltered] at hsorted
  exact hleft.unique hsorted

/-- **Filters commute** with each other, whether or not they bind, and are idempotent; a filter
commutes with a sort whose columns hold uniform values. This holds on every lawful target, and of
deferred rows that are pulled one by one. -/
theorem filters_commute [SortMethod] (resolve : Resolver ρ) (f g : Filter) (s : Sorting)
    (rows : List ρ) :
    GiveSame resolve [.filter f, .filter g] [.filter g, .filter f] rows ∧
    GiveSame resolve [.filter f, .filter f] [.filter f] rows ∧
    ((∀ field ∈ s.fields resolve, field.Uniform rows) →
      GiveSame resolve [.sort s, .filter f] [.filter f, .sort s] rows) := by
  -- a filter keeps the rows of a test, which is true of all of them if the filter does not bind
  obtain ⟨test, hf⟩ := f.exists_rows_apply_eq resolve
  obtain ⟨test', hg⟩ := g.exists_rows_apply_eq resolve
  refine ⟨.of_rows_eq fun τ _ _ t _ => ?_, .of_rows_eq fun τ _ _ t _ => ?_, fun huniform =>
    .of_rows_eq ?_⟩
  · change Target.rows (g.apply resolve (f.apply resolve t)) =
      Target.rows (f.apply resolve (g.apply resolve t))
    rw [hg, hf, hf, hg, List.filter_comm]
  · change Target.rows (f.apply resolve (f.apply resolve t)) = Target.rows (f.apply resolve t)
    rw [hf, hf, List.filter_filter]
    simp only [Bool.and_self]
  · rintro τ _ _ t rfl
    change Target.rows (f.apply resolve (s.apply resolve t)) =
      Target.rows (s.apply resolve (f.apply resolve t))
    rw [hf, Sorting.rows_filter_apply (hf t) huniform]

/-- A descending sort by size and a filter of the sizes from three on, over mixed numbers, two equal
sizes and an absent one. The other filter does not bind, because booleans have no order. -/
theorem filters_commute_with_sizes :
    let schema : Schema (Value × Bool × Nat) :=
      (Schema.empty.optionalField "size".toList .number fun row => row.1).field
        "done".toList .bool fun row => .bool row.2.1
    let resolve := schema.resolve
    let f : Filter := ⟨"size".toList, .greaterThanEqual, .text "3".toList⟩
    let g : Filter := ⟨"done".toList, .greaterThan, .text "false".toList⟩
    let s : Sorting := ⟨["size".toList, "color".toList], true, by decide, by decide +kernel⟩
    let rows : List (Value × Bool × Nat) := [
      (.number (.signed 3), true, 0),
      (.absent, false, 1),
      (.number (.signed (-9)), true, 2),
      (.number (.unsigned 9223372036854775808), false, 3),
      (.number (.unsigned 3), true, 4)]
    (run resolve [.sort s, .filter f, .filter g] rows).map (fun row => row.2.2) = [3, 0, 4] ∧
      GiveSame resolve [.filter f, .filter g] [.filter g, .filter f] rows ∧
      GiveSame resolve [.sort s, .filter f] [.filter f, .sort s] rows ∧
      GiveSame resolve [.sort s, .filter g] [.filter g, .sort s] rows := by
  intro schema resolve f g s rows
  have hfields : s.fields resolve = [⟨"size".toList, .number, true, fun row => row.1⟩] := by rfl
  have huniform : ∀ field ∈ s.fields resolve, field.Uniform rows := by
    rw [hfields]
    exact List.forall_mem_singleton.2 ⟨.number, by decide⟩
  obtain ⟨hswap, -, hf⟩ := filters_commute resolve f g s rows
  obtain ⟨-, -, hg⟩ := filters_commute resolve g f s rows
  exact ⟨by decide +kernel, hswap, hf huniform, hg huniform⟩

end RecordQuery

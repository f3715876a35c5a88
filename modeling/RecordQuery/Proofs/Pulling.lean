import RecordQuery.Execution

/-!
# Pulling deferred rows

`Deferred.pull` gives the next row, and `Deferred.rows` is defined by reading all rows at once
(`Deferred.drain`). This file relates the two:

* one pull gives the first row of `Deferred.drain` and leaves the others
  (`Deferred.pull_of_drain_cons`);
* any number of pulls gives the rows in order and then `none` (`Deferred.pulls_rows`,
  `Deferred.pulls_eq_take`).

So two queries that give the same rows on every lawful target also give the same pulls of deferred
rows (`GiveSame.of_rows_eq`).
-/

namespace RecordQuery

variable {ρ : Type}

namespace Deferred

/-! ### One pull -/

theorem pull_of_step_none {d : Deferred ρ} (h : d.step = none) : d.pull = (none, d) := by
  rw [pull]
  split <;> simp_all

theorem pull_of_step_some {d next : Deferred ρ} {row : ρ} (h : d.step = some (some row, next)) :
    d.pull = (some row, next) := by
  rw [pull]
  split <;> simp_all

/-- A row that does not pass is no result of a pull: the next row is read. -/
theorem pull_of_step_held {d next : Deferred ρ} (h : d.step = some (none, next)) :
    d.pull = next.pull := by
  rw [pull]
  split <;> simp_all

theorem drain_of_step_none {d : Deferred ρ} (h : d.step = none) : d.drain = ([], d) := by
  rw [drain]
  split <;> simp_all

theorem drain_of_step_some {d next : Deferred ρ} {out : Option ρ} (h : d.step = some (out, next)) :
    d.drain = (out.toList ++ next.drain.1, next.drain.2) := by
  rw [drain]
  split
  · simp_all
  · next out' next' h' =>
    obtain ⟨rfl, rfl⟩ : out' = out ∧ next' = next := by simpa [h] using h'.symm
    rfl

/-- After draining, no step is possible. -/
theorem step_drain (d : Deferred ρ) : d.drain.2.step = none := by
  induction d using drain.induct with
  | case1 d h => rwa [drain_of_step_none h]
  | case2 d out next h ih => rwa [drain_of_step_some h]

/-- Without rows, a pull gives `none`. -/
theorem pull_of_drain_nil {d last : Deferred ρ} (h : d.drain = ([], last)) :
    d.pull = (none, last) := by
  induction d using pull.induct with
  | case1 d hstep =>
    rw [drain_of_step_none hstep, Prod.mk.injEq] at h
    rw [pull_of_step_none hstep, h.2]
  | case2 d row next hstep =>
    -- a row that passes would have been drained
    rw [drain_of_step_some hstep] at h
    simp at h
  | case3 d next hstep ih =>
    rw [drain_of_step_some hstep] at h
    rw [pull_of_step_held hstep]
    exact ih h

/-- With rows, a pull gives the first one and leaves the others. -/
theorem pull_of_drain_cons {d last : Deferred ρ} {row : ρ} {rows : List ρ}
    (h : d.drain = (row :: rows, last)) :
    ∃ next, d.pull = (some row, next) ∧ next.drain = (rows, last) := by
  induction d using pull.induct with
  | case1 d hstep =>
    -- no step is possible, so nothing was drained
    rw [drain_of_step_none hstep] at h
    simp at h
  | case2 d first next hstep =>
    -- the row that passes is the first of the drained ones
    rw [drain_of_step_some hstep, Option.toList_some, List.singleton_append, Prod.mk.injEq,
      List.cons.injEq] at h
    obtain ⟨⟨rfl, hrows⟩, hlast⟩ := h
    exact ⟨next, pull_of_step_some hstep, Prod.ext hrows hlast⟩
  | case3 d next hstep ih =>
    rw [drain_of_step_some hstep] at h
    rw [pull_of_step_held hstep]
    exact ih h

/-! ### Several pulls -/

/-- Pulls a number of times: the results in order, and what is left. -/
def pulls : Nat → Deferred ρ → List (Option ρ) × Deferred ρ
  | 0, d => ([], d)
  | n + 1, d => (pulls n d.pull.2).map (d.pull.1 :: ·) id

@[simp] theorem pulls_zero (d : Deferred ρ) : pulls 0 d = ([], d) := rfl

theorem pulls_succ {d next : Deferred ρ} {out : Option ρ} (h : d.pull = (out, next)) (n : Nat) :
    d.pulls (n + 1) = (out :: (next.pulls n).1, (next.pulls n).2) := by
  rw [pulls, h]
  rfl

/-- Where no step is possible, every pull gives `none` and changes nothing. -/
theorem pulls_of_step_none {d : Deferred ρ} (h : d.step = none) (n : Nat) :
    d.pulls n = (List.replicate n none, d) := by
  induction n with
  | zero => rfl
  | succ n ih => rw [pulls_succ (pull_of_step_none h), ih, List.replicate_succ]

/-- Pulls can be split into earlier and later ones. -/
theorem pulls_add (m n : Nat) (d : Deferred ρ) :
    d.pulls (m + n) = ((d.pulls m).1 ++ ((d.pulls m).2.pulls n).1, ((d.pulls m).2.pulls n).2) := by
  induction m generalizing d with
  | zero => rw [Nat.zero_add, pulls_zero, List.nil_append]
  | succ m ih =>
    have hpull : d.pull = (d.pull.1, d.pull.2) := rfl
    rw [Nat.add_right_comm, pulls_succ hpull, pulls_succ hpull, ih, List.cons_append]

/-- Without rows, every pull gives `none`. -/
theorem pulls_of_drain_nil {d last : Deferred ρ} (h : d.drain = ([], last)) (n : Nat) :
    (d.pulls n).1 = List.replicate n none := by
  cases n with
  | zero => rfl
  | succ n =>
    -- the first pull reads the rows that do not pass; after it no step is possible
    have hlast : last.step = none := by
      have hstep := step_drain d
      rwa [h] at hstep
    rw [pulls_succ (pull_of_drain_nil h), pulls_of_step_none hlast, List.replicate_succ]

/-- As many pulls as there are rows give the rows, and no row is left. -/
theorem pulls_of_drain {d last : Deferred ρ} {rows : List ρ} (h : d.drain = (rows, last)) :
    ∃ next, d.pulls rows.length = (rows.map some, next) ∧ next.drain = ([], last) := by
  induction rows generalizing d with
  | nil => exact ⟨d, rfl, h⟩
  | cons row rows ih =>
    obtain ⟨next, hpull, hdrain⟩ := pull_of_drain_cons h
    obtain ⟨after, hpulls, hafter⟩ := ih hdrain
    refine ⟨after, ?_, hafter⟩
    rw [List.length_cons, pulls_succ hpull, hpulls, List.map_cons]

/-- **Pulls until the end.** The results are the rows in order, and then `none`. -/
theorem pulls_rows (d : Deferred ρ) (n : Nat) :
    (d.pulls (d.rows.length + n)).1 = d.rows.map some ++ List.replicate n none := by
  have hdrain : d.drain = (d.rows, d.drain.2) := rfl
  obtain ⟨next, hpulls, hnext⟩ := pulls_of_drain hdrain
  rw [pulls_add, hpulls, pulls_of_drain_nil hnext]

theorem length_pulls (d : Deferred ρ) (n : Nat) : (d.pulls n).1.length = n := by
  induction n generalizing d with
  | zero => rfl
  | succ n ih =>
    have hpull : d.pull = (d.pull.1, d.pull.2) := rfl
    rw [pulls_succ hpull, List.length_cons, ih]

/-- **Pulls depend on the rows only**, for any number of pulls. -/
theorem pulls_eq_take (d : Deferred ρ) (n : Nat) :
    (d.pulls n).1 = (d.rows.map some ++ List.replicate n none).take n := by
  have hmore : (d.pulls (n + d.rows.length)).1 = d.rows.map some ++ List.replicate n none := by
    rw [Nat.add_comm, pulls_rows]
  rw [← hmore, pulls_add, List.take_left' (length_pulls d n)]

/-- The rows of a source of a list are the list. -/
theorem rows_ofSource_ofList (rows : List ρ) : (ofSource (.ofList rows)).rows = rows := by
  rw [rows_eq, ofSource, Stage.through, Source.startingAt_ofList, List.drop_zero]

end Deferred

/-! ### Queries that give the same rows -/

/-- **Two queries give the same** on some rows: the same rows in the same order on every lawful
target with these rows, and the same results of any number of pulls of deferred rows. -/
structure GiveSame [SortMethod] (resolve : Resolver ρ) (one other : List Operation)
    (rows : List ρ) : Prop where
  rows_eq : ∀ (τ : Type → Type) [Target τ] [LawfulTarget τ] (t : τ ρ), Target.rows t = rows →
    Target.rows (run resolve one t) = Target.rows (run resolve other t)
  pulls_eq : ∀ d : Deferred ρ, d.rows = rows → ∀ n,
    ((run resolve one d).pulls n).1 = ((run resolve other d).pulls n).1

/-- Two queries that give the same rows on every lawful target give the same pulls, because deferred
rows are a lawful target and pulls depend on the rows only. -/
theorem GiveSame.of_rows_eq [SortMethod] {resolve : Resolver ρ} {one other : List Operation}
    {rows : List ρ}
    (h : ∀ (τ : Type → Type) [Target τ] [LawfulTarget τ] (t : τ ρ), Target.rows t = rows →
      Target.rows (run resolve one t) = Target.rows (run resolve other t)) :
    GiveSame resolve one other rows where
  rows_eq := h
  pulls_eq d hd n := by
    have hrows : (run resolve one d).rows = (run resolve other d).rows := h Deferred d hd
    rw [Deferred.pulls_eq_take, Deferred.pulls_eq_take, hrows]

end RecordQuery

import Mathlib.Order.Bounds.Defs
import RecordQuery.Proofs.Pulling
import RecordQuery.Proofs.TargetRows

/-!
# Deferred rows read no more than necessary

A query without an effective sort only adds stages behind a source (`run_staged`), so nothing is
read before the first `pull`. The reads after that are described step by step: `Deferred.Produces
start rows d` states that steps from `start`, each of which reads one row of the source, have passed
`rows` and reached `d`. By induction on the steps:

* the passed rows are `Stage.through` of the rows read, and the stages of `d` are what the stages
  have become (`Deferred.Produces.through_first`);
* no step depends on the source beyond the rows read (`Deferred.Produces.of_first_eq`);
* a take at the end counts the passed rows (`Deferred.Produces.limit`).

A pull stops at the step that passes a row (`Deferred.pulls_eq_iff`). So the number of reads after
some pulls is the least length of a prefix of the source on which the query has as many rows
(`reads_no_more_than_needed`).
-/

namespace RecordQuery

variable {ρ : Type}

/-! ### The first rows of a source -/

namespace Source

/-- The first `count` rows of a source, or all of them if there are fewer. -/
def first (s : Source ρ) (count : Nat) : List ρ := (s.startingAt 0).take count

theorem startingAt_eq_drop (s : Source ρ) (position : Nat) :
    s.startingAt position = (List.ofFn s.item).drop position := by
  by_cases h : position < s.size
  · have hlen : position < (List.ofFn s.item).length := by rwa [List.length_ofFn]
    rw [startingAt_of_lt s h, startingAt_eq_drop s (position + 1),
      List.drop_eq_getElem_cons hlen, List.getElem_ofFn]
  · have hlen : (List.ofFn s.item).length ≤ position := by rw [List.length_ofFn]; omega
    rw [startingAt_of_not_lt s h, List.drop_eq_nil_of_le hlen]
termination_by s.size - position

theorem first_eq_take (s : Source ρ) (count : Nat) :
    s.first count = (List.ofFn s.item).take count := by
  rw [first, startingAt_eq_drop, List.drop_zero]

theorem first_succ (s : Source ρ) {count : Nat} (h : count < s.size) :
    s.first (count + 1) = s.first count ++ [s.item ⟨count, h⟩] := by
  have hlen : count < (List.ofFn s.item).length := by rwa [List.length_ofFn]
  rw [first_eq_take, first_eq_take, List.take_succ_eq_append_getElem hlen, List.getElem_ofFn]

/-- The first rows of a source are monotone in the count. -/
theorem first_prefix (s : Source ρ) {m n : Nat} (h : m ≤ n) : s.first m <+: s.first n :=
  List.take_prefix_take_left h

/-- Sources with the same first rows have the same rows at those indices. -/
theorem item_of_first_eq {s other : Source ρ} {count : Nat} (h : count < s.size)
    (heq : other.first (count + 1) = s.first (count + 1)) :
    ∃ h' : count < other.size, other.item ⟨count, h'⟩ = s.item ⟨count, h⟩ := by
  have hlen : (other.first (count + 1)).length = (s.first (count + 1)).length := by rw [heq]
  simp only [first_eq_take, List.length_take, List.length_ofFn] at hlen
  have h' : count < other.size := by omega
  refine ⟨h', ?_⟩
  rw [first_succ s h, first_succ other h'] at heq
  exact List.singleton_inj.1 (List.append_inj_right' heq rfl)

theorem first_eq_of_le {s other : Source ρ} {m n : Nat} (h : m ≤ n)
    (heq : other.first n = s.first n) : other.first m = s.first m := by
  have htake := congrArg (List.take m) heq
  rwa [first, first, List.take_take, List.take_take, Nat.min_eq_left h] at htake

end Source

/-! ### Stages on longer lists -/

namespace Stage

/-- The rows that pass first do not depend on later rows. -/
theorem exists_through_append (stages : List (Stage ρ)) (rows : List ρ) :
    ∃ after, ∀ more, through stages (rows ++ more) = through stages rows ++ through after more := by
  induction rows generalizing stages with
  | nil => exact ⟨stages, fun more => by rw [through_nil, List.nil_append, List.nil_append]⟩
  | cons row rows ih =>
    obtain ⟨after, hafter⟩ := ih (feed stages row).1
    refine ⟨after, fun more => ?_⟩
    rw [List.cons_append, through_cons, hafter, through_cons, List.append_assoc]

/-- **`Stage.through` is monotone** in the list of rows. -/
theorem through_prefix (stages : List (Stage ρ)) {rows all : List ρ} (h : rows <+: all) :
    through stages rows <+: through stages all := by
  obtain ⟨more, rfl⟩ := h
  obtain ⟨after, hafter⟩ := exists_through_append stages rows
  exact ⟨through after more, (hafter more).symm⟩

/-- **One stage on one row**: whether it passes the row does not depend on the other stages. -/
theorem exists_feed_cons (stage : Stage ρ) (row : ρ) :
    ∃ (next : Stage ρ) (passes : Bool), ∀ stages, feed (stage :: stages) row =
      if passes then (feed stages row).map (next :: ·) id else (next :: stages, none) := by
  cases stage with
  | keep test => exact ⟨.keep test, test row, fun _ => rfl⟩
  | skip n =>
    cases n with
    | zero => exact ⟨.skip 0, true, fun _ => rfl⟩
    | succ n => exact ⟨.skip n, false, fun _ => rfl⟩
  | take n =>
    cases n with
    | zero => exact ⟨.take 0, false, fun _ => rfl⟩
    | succ n => exact ⟨.take n, true, fun _ => rfl⟩

/-- The last stage is fed the rows that pass the stages in front of it. -/
theorem feed_append (stages : List (Stage ρ)) (last : Stage ρ) (row : ρ) :
    feed (stages ++ [last]) row =
      match (feed stages row).2 with
      | none => ((feed stages row).1 ++ [last], none)
      | some passed => ((feed stages row).1 ++ (feed [last] passed).1, (feed [last] passed).2) := by
  induction stages with
  | nil => rfl
  | cons stage stages ih =>
    obtain ⟨next, passes, hfeed⟩ := exists_feed_cons stage row
    rw [List.cons_append, hfeed, hfeed]
    cases passes with
    | false => rfl
    | true =>
      rw [if_pos rfl, if_pos rfl, ih]
      rcases feed stages row with ⟨others, _ | passed⟩ <;> rfl

/-- A take at the end that is not closed counts the row that it passes. -/
theorem feed_append_take (stages : List (Stage ρ)) (n : Nat) (row : ρ) :
    ∃ others, (feed (stages ++ [.take n]) row).1 =
      others ++ [.take (n - (feed (stages ++ [.take n]) row).2.toList.length)] := by
  refine ⟨(feed stages row).1, ?_⟩
  rw [feed_append]
  cases (feed stages row).2 with
  | none => rfl
  | some passed => cases n <;> rfl

end Stage

/-! ### Steps -/

namespace Deferred

/-- The rows of a source behind stages, none of them read yet. -/
def staged (source : Source ρ) (stages : List (Stage ρ)) : Deferred ρ :=
  { ofSource source with stages := stages }

/-- **A step** requires open stages and a row in the source, which it feeds through the stages. -/
theorem step_eq_some_iff {d next : Deferred ρ} {out : Option ρ} :
    d.step = some (out, next) ↔ d.stages.any Stage.isClosed = false ∧
      ∃ h : d.position < d.source.size,
        out = (Stage.feed d.stages (d.source.item ⟨d.position, h⟩)).2 ∧
        next = { d with
          position := d.position + 1
          stages := (Stage.feed d.stages (d.source.item ⟨d.position, h⟩)).1
          reads := if d.buffered then d.reads else d.reads + 1 } := by
  constructor
  · intro h
    unfold step at h
    split at h
    · exact absurd h (by simp)
    · next hopen =>
      split at h
      · next hlt =>
        rw [Option.some.injEq, Prod.mk.injEq] at h
        exact ⟨by simpa using hopen, hlt, h.1.symm, h.2.symm⟩
      · exact absurd h (by simp)
  · -- the stages are open and the source has a row, so both guards pass
    rintro ⟨hopen, hlt, rfl, rfl⟩
    rw [step, if_neg (by simp [hopen]), dif_pos hlt]

theorem position_of_step {d next : Deferred ρ} {out : Option ρ} (h : d.step = some (out, next)) :
    next.position = d.position + 1 := by
  obtain ⟨-, -, -, rfl⟩ := step_eq_some_iff.1 h
  rfl

/-- A step depends on one row of the source only. -/
theorem step_of_first_eq {d next : Deferred ρ} {out : Option ρ} {other : Source ρ}
    (h : d.step = some (out, next))
    (heq : other.first next.position = d.source.first next.position) :
    ({ d with source := other } : Deferred ρ).step = some (out, { next with source := other }) := by
  obtain ⟨hopen, hlt, rfl, rfl⟩ := step_eq_some_iff.1 h
  obtain ⟨hlt', hitem⟩ := Source.item_of_first_eq hlt heq
  refine step_eq_some_iff.2 ⟨hopen, hlt', ?_, ?_⟩
  · rw [hitem]
  · rw [hitem]

/-- **Steps in sequence** from `start` to the last argument pass `rows`. -/
inductive Produces (start : Deferred ρ) : List ρ → Deferred ρ → Prop where
  | nothing : Produces start [] start
  | read {rows : List ρ} {mid next : Deferred ρ} {out : Option ρ} :
    Produces start rows mid → mid.step = some (out, next) →
      Produces start (rows ++ out.toList) next

namespace Produces

variable {source other : Source ρ} {stages : List (Stage ρ)} {rows : List ρ} {d : Deferred ρ}

theorem source_eq (h : Produces (staged source stages) rows d) : d.source = source := by
  induction h with
  | nothing => rfl
  | read _ hstep ih =>
    obtain ⟨-, -, -, rfl⟩ := step_eq_some_iff.1 hstep
    exact ih

/-- Every step counts as a read. -/
theorem reads_eq (h : Produces (staged source stages) rows d) :
    d.buffered = false ∧ d.reads = d.position := by
  induction h with
  | nothing => exact ⟨rfl, rfl⟩
  | read _ hstep ih =>
    obtain ⟨-, -, -, rfl⟩ := step_eq_some_iff.1 hstep
    refine ⟨ih.1, ?_⟩
    simp only [ih.1, ih.2, Bool.false_eq_true, if_false]

/-- **Invariant of the steps**: on the rows read, followed by any rows, the stages pass `rows` and
then what the current stages pass of the following rows. -/
theorem through_first (h : Produces (staged source stages) rows d) (more : List ρ) :
    Stage.through stages (source.first d.position ++ more) =
      rows ++ Stage.through d.stages more := by
  induction h generalizing more with
  | nothing => rfl
  | read hmid hstep ih =>
    have hsource := hmid.source_eq
    obtain ⟨-, hlt, rfl, rfl⟩ := step_eq_some_iff.1 hstep
    subst hsource
    -- the row that is read moves from the following rows to the rows read
    rw [Source.first_succ _ hlt, List.append_assoc, ih, List.singleton_append,
      Stage.through_cons, List.append_assoc]

theorem through_first_eq (h : Produces (staged source stages) rows d) :
    Stage.through stages (source.first d.position) = rows := by
  have hnil := h.through_first []
  rwa [List.append_nil, Stage.through_nil, List.append_nil] at hnil

/-- **Steps depend on the rows read only**: a source with the same first rows has the same steps. -/
theorem of_first_eq (h : Produces (staged source stages) rows d)
    (heq : other.first d.position = source.first d.position) :
    Produces (staged other stages) rows { d with source := other } := by
  induction h with
  | nothing => exact .nothing
  | read hmid hstep ih =>
    have hle := Nat.le.intro (position_of_step hstep).symm
    refine .read (ih (Source.first_eq_of_le hle heq)) ?_
    exact step_of_first_eq hstep (hmid.source_eq ▸ heq)

/-- A take at the end counts the passed rows. -/
theorem limit {n : Nat} (h : Produces (staged source (stages ++ [.take n])) rows d) :
    ∃ others, d.stages = others ++ [.take (n - rows.length)] := by
  induction h with
  | nothing => exact ⟨stages, rfl⟩
  | read _ hstep ih =>
    obtain ⟨others, hstages⟩ := ih
    obtain ⟨-, hlt, rfl, rfl⟩ := step_eq_some_iff.1 hstep
    rw [hstages]
    obtain ⟨next, hnext⟩ := Stage.feed_append_take others _ _
    refine ⟨next, ?_⟩
    rw [hnext, List.length_append, Nat.sub_add_eq]

end Produces

/-! ### Pulls as steps -/

/-- **Pulls in sequence** stop at the step that passes the last row. -/
inductive HandsOut (start : Deferred ρ) : List ρ → Deferred ρ → Prop where
  | nothing : HandsOut start [] start
  | row {rows : List ρ} {mid next : Deferred ρ} {row : ρ} :
    Produces start rows mid → mid.step = some (some row, next) →
      HandsOut start (rows ++ [row]) next

namespace Produces

variable {start d : Deferred ρ} {rows : List ρ}

/-- A pull that gives a row ends with the step that passes it. -/
theorem pull {row : ρ} {next : Deferred ρ} (h : Produces start rows d)
    (hpull : d.pull = (some row, next)) :
    ∃ mid, Produces start rows mid ∧ mid.step = some (some row, next) := by
  induction d using Deferred.pull.induct with
  | case1 d hstep =>
    rw [pull_of_step_none hstep] at hpull
    exact absurd hpull (by simp)
  | case2 d first after hstep =>
    rw [pull_of_step_some hstep] at hpull
    exact ⟨d, h, hpull ▸ hstep⟩
  | case3 d after hstep ih =>
    -- a row that does not pass adds nothing to `rows`
    rw [pull_of_step_held hstep] at hpull
    have hread := h.read hstep
    rw [Option.toList_none, List.append_nil] at hread
    exact ih hread hpull

/-- One pull for each passed row gives these rows. Later steps belong to the next pull. -/
theorem pulls (h : Produces start rows d) :
    ∃ next, start.pulls rows.length = (rows.map some, next) ∧ next.pull = d.pull := by
  induction h with
  | nothing => exact ⟨start, rfl, rfl⟩
  | @read rows mid after out _ hstep ih =>
    obtain ⟨next, hpulls, hnext⟩ := ih
    cases out with
    | none =>
      -- a row that does not pass is read by the next pull
      refine ⟨next, ?_, ?_⟩
      · rwa [Option.toList_none, List.append_nil]
      · rw [hnext, pull_of_step_held hstep]
    | some row =>
      -- a row that passes is the result of the next pull
      rw [pull_of_step_some hstep] at hnext
      refine ⟨after, ?_, rfl⟩
      rw [Option.toList_some, List.length_append, List.length_singleton, pulls_add, hpulls,
        pulls_succ hnext, List.map_append]
      rfl

end Produces

namespace HandsOut

variable {source other : Source ρ} {stages : List (Stage ρ)} {start d last : Deferred ρ}
  {given rows : List ρ}

theorem produces (h : HandsOut start rows d) : Produces start rows d := by
  cases h with
  | nothing => exact .nothing
  | row hmid hstep => exact .read hmid hstep

/-- Further pulls continue from the last one. -/
theorem pulls_append (h : HandsOut start given d)
    (hpulls : d.pulls rows.length = (rows.map some, last)) :
    HandsOut start (given ++ rows) last := by
  induction rows generalizing given d with
  | nil =>
    obtain rfl : d = last := congrArg Prod.snd hpulls
    rwa [List.append_nil]
  | cons row rows ih =>
    obtain ⟨out, next, hpull⟩ : ∃ out next, d.pull = (out, next) := ⟨_, _, rfl⟩
    rw [List.length_cons, pulls_succ hpull, List.map_cons, Prod.mk.injEq, List.cons.injEq] at hpulls
    obtain ⟨⟨rfl, hrows⟩, hlast⟩ := hpulls
    obtain ⟨mid, hmid, hstep⟩ := h.produces.pull hpull
    rw [← List.singleton_append, ← List.append_assoc]
    exact ih (.row hmid hstep) (Prod.ext hrows hlast)

/-- The last of the rows read was needed: fewer rows of the source pass fewer rows. -/
theorem length_lt (h : HandsOut (staged source stages) rows d) {count : Nat}
    (hcount : count < d.position) :
    (Stage.through stages (source.first count)).length < rows.length := by
  cases h with
  | nothing => exact absurd hcount (Nat.not_lt_zero _)
  | row hmid hstep =>
    -- without the last row read, only the earlier pulls have their rows
    rw [position_of_step hstep] at hcount
    have hprefix := Stage.through_prefix stages
      (Source.first_prefix source (Nat.le_of_lt_succ hcount))
    rw [hmid.through_first_eq] at hprefix
    rw [List.length_append, List.length_singleton]
    exact Nat.lt_succ_of_le hprefix.length_le

/-- From a source with the same first rows, the pulls are the same. -/
theorem of_first_eq (h : HandsOut (staged source stages) rows d)
    (heq : other.first d.position = source.first d.position) :
    HandsOut (staged other stages) rows { d with source := other } := by
  cases h with
  | nothing => exact .nothing
  | row hmid hstep =>
    have hle := Nat.le.intro (position_of_step hstep).symm
    refine .row (hmid.of_first_eq (Source.first_eq_of_le hle heq)) ?_
    exact step_of_first_eq hstep (hmid.source_eq ▸ heq)

end HandsOut

/-- **Pulls that give rows are steps up to the last of them.** -/
theorem pulls_eq_iff {start d : Deferred ρ} {rows : List ρ} :
    start.pulls rows.length = (rows.map some, d) ↔ HandsOut start rows d := by
  constructor
  · exact HandsOut.nothing.pulls_append
  · intro h
    cases h with
    | nothing => rfl
    | row hmid hstep =>
      obtain ⟨next, hpulls, hpull⟩ := hmid.pulls
      rw [pull_of_step_some hstep] at hpull
      rw [List.length_append, List.length_singleton, pulls_add, hpulls, pulls_succ hpull,
        List.map_append]
      rfl

end Deferred

/-! ### Queries as stages -/

/-- The stages that an operation other than an effective sort adds. -/
def Operation.stages (resolve : Resolver ρ) : Operation → List (Stage ρ)
  | .sort _ => []
  | .skip count => [.skip count.toNat]
  | .take (.count n) => [.take n.toNat]
  | .take .unbounded => []
  | .page p => [.skip p.skip.toNat, .take p.take.toNat]
  | .filter f => ((Predicate.bind? resolve f).map fun p => .keep p.holds).toList

/-- No column of any sort resolves. -/
def Unsorted (resolve : Resolver ρ) (operations : List Operation) : Prop :=
  ∀ s, Operation.sort s ∈ operations → ∀ column ∈ s.columns, resolve column = none

theorem Sorting.keys_eq_nil {resolve : Resolver ρ} {s : Sorting}
    (h : ∀ column ∈ s.columns, resolve column = none) : s.keys resolve = [] := by
  rw [keys, List.filterMap_eq_nil_iff]
  intro column hcolumn
  rw [h column hcolumn, Option.map_none]

theorem Operation.apply_staged [SortMethod] {resolve : Resolver ρ} {op : Operation}
    (h : Unsorted resolve [op]) (source : Source ρ) (stages : List (Stage ρ)) :
    op.apply resolve (Deferred.staged source stages) =
      Deferred.staged source (stages ++ op.stages resolve) := by
  cases op with
  | sort s =>
    -- no column resolves, so the sort does nothing
    have hkeys := Sorting.keys_eq_nil (h s (List.mem_singleton_self _))
    rw [apply, Sorting.apply, hkeys, Operation.stages, List.append_nil]
    rfl
  | skip count => rfl
  | take limit =>
    cases limit with
    | count n => rfl
    | unbounded => rw [apply, Operation.stages, List.append_nil]
  | page p =>
    rw [apply, Operation.stages, ← List.singleton_append, ← List.append_assoc]
    rfl
  | filter f =>
    rw [apply, Filter.apply, Operation.stages]
    cases Predicate.bind? resolve f with
    | none => exact (List.append_nil stages).symm ▸ rfl
    | some p => rfl

/-- **Running reads nothing**: a query without an effective sort only adds stages. -/
theorem run_staged [SortMethod] {resolve : Resolver ρ} {operations : List Operation}
    (h : Unsorted resolve operations) (source : Source ρ) (stages : List (Stage ρ)) :
    run resolve operations (Deferred.staged source stages) =
      Deferred.staged source (stages ++ operations.flatMap (Operation.stages resolve)) := by
  induction operations generalizing stages with
  | nil => rw [run_nil, List.flatMap_nil, List.append_nil]
  | cons op operations ih =>
    have hop : Unsorted resolve [op] := fun s hs =>
      h s (List.mem_singleton.1 hs ▸ List.mem_cons_self ..)
    have hrest : Unsorted resolve operations := fun s hs => h s (List.mem_cons_of_mem _ hs)
    rw [run_cons, Operation.apply_staged hop, ih hrest, List.flatMap_cons, List.append_assoc]

theorem run_ofSource [SortMethod] {resolve : Resolver ρ} {operations : List Operation}
    (h : Unsorted resolve operations) (source : Source ρ) :
    run resolve operations (Deferred.ofSource source) =
      Deferred.staged source (operations.flatMap (Operation.stages resolve)) :=
  run_staged h source []

/-- On a list, a query without an effective sort is `Stage.through` of its stages. -/
theorem run_eq_through [SortMethod] {resolve : Resolver ρ} {operations : List Operation}
    (h : Unsorted resolve operations) (rows : List ρ) :
    run resolve operations rows =
      Stage.through (operations.flatMap (Operation.stages resolve)) rows := by
  -- the deferred rows of the list, drained
  have hrows := Deferred.rows_run resolve operations (Deferred.ofSource (.ofList rows))
  rw [Deferred.rows_ofSource_ofList, run_ofSource h, Deferred.rows_eq] at hrows
  rw [← hrows, Deferred.staged, Deferred.ofSource, Source.startingAt_ofList, List.drop_zero]

/-! ### The number of reads -/

/-- **Deferred rows read no more than necessary.** Suppose that no column of any sort resolves.
Running the query reads nothing. Whenever the first pulls give rows,

* the number of reads is the least length of a prefix of the source on which the query has as many
  rows, and the pulled rows are those of the query on this prefix;
* the source beyond this prefix has no influence: from any source with the same prefix, the pulls
  and the number of reads are the same.

If the query ends with a take and all its rows have been pulled, every later pull gives `none` and
reads nothing. -/
theorem reads_no_more_than_needed [SortMethod] {resolve : Resolver ρ} {operations : List Operation}
    (h : Unsorted resolve operations) (source : Source ρ) :
    (run resolve operations (Deferred.ofSource source)).reads = 0 ∧
    (∀ (rows : List ρ) (left : Deferred ρ),
      (run resolve operations (Deferred.ofSource source)).pulls rows.length =
        (rows.map some, left) →
      IsLeast {count | rows.length ≤ (run resolve operations (source.first count)).length}
        left.reads ∧
      rows = run resolve operations (source.first left.reads) ∧
      ∀ other : Source ρ, other.first left.reads = source.first left.reads →
        ∃ left', (run resolve operations (Deferred.ofSource other)).pulls rows.length =
          (rows.map some, left') ∧ left'.reads = left.reads) ∧
    ∀ before n, operations = before ++ [.take (.count n)] → ∀ (rows : List ρ) (left : Deferred ρ),
      rows.length = n.toNat →
      (run resolve operations (Deferred.ofSource source)).pulls rows.length =
        (rows.map some, left) →
      ∀ later, left.pulls later = (List.replicate later none, left) := by
  rw [run_ofSource h]
  refine ⟨rfl, ?_, ?_⟩
  · -- as long as the pulls give rows
    intro rows left hpulls
    have hands := Deferred.pulls_eq_iff.1 hpulls
    have hread := hands.produces
    rw [hread.reads_eq.2]
    have hgiven : run resolve operations (source.first left.position) = rows := by
      rw [run_eq_through h, hread.through_first_eq]
    refine ⟨⟨?_, ?_⟩, hgiven.symm, ?_⟩
    · -- the rows read are enough
      change rows.length ≤ (run resolve operations (source.first left.position)).length
      exact Nat.le_of_eq (congrArg List.length hgiven.symm)
    · -- fewer rows of the source would give fewer rows
      intro count hcount
      change rows.length ≤ (run resolve operations (source.first count)).length at hcount
      rw [run_eq_through h] at hcount
      exact Nat.le_of_not_lt fun hlt => absurd (hands.length_lt hlt) (Nat.not_lt_of_le hcount)
    · -- another source with the same prefix
      intro other heq
      have hother := hands.of_first_eq heq
      rw [run_ofSource h]
      exact ⟨_, Deferred.pulls_eq_iff.2 hother, hother.produces.reads_eq.2⟩
  · -- after the last row of a take
    rintro before n rfl rows left hlength hpulls later
    have hread := (Deferred.pulls_eq_iff.1 hpulls).produces
    rw [List.flatMap_append] at hread
    obtain ⟨others, hstages⟩ := hread.limit
    -- the take at the end is exhausted
    have hclosed : left.stages.any Stage.isClosed = true := by
      rw [hstages, hlength, Nat.sub_self]
      simp [Stage.isClosed]
    exact Deferred.pulls_of_step_none (by rw [Deferred.step, if_pos hclosed]) later

/-- A query that sorts by an unknown column, filters, and takes one row reads two of three rows. -/
theorem reads_two_of_three_rows :
    let resolve := (Schema.empty.field "a".toList .bool .bool).resolve
    let operations : List Operation :=
      [.sort ⟨["b".toList], true, by decide, by decide⟩,
        .filter ⟨"a".toList, .equals, .text "TRUE".toList⟩, .take (.count 1)]
    let rows := [false, true, true]
    Unsorted resolve operations ∧
      ∃ left, (run resolve operations (Deferred.ofSource (.ofList rows))).pulls 1 =
          ([some true], left) ∧ left.reads = 2 ∧
        IsLeast {count | 1 ≤ (run resolve operations
          ((Source.ofList rows).first count)).length} left.reads ∧
        ∀ later, left.pulls later = (List.replicate later none, left) := by
  intro resolve operations rows
  have hunsorted : Unsorted resolve operations := by
    intro s hs column hcolumn
    obtain rfl : s = ⟨["b".toList], true, by decide, by decide⟩ := by
      simpa [operations] using hs
    rw [List.mem_singleton.1 hcolumn]
    decide
  -- the first row does not pass, the second one does
  obtain ⟨left, hpulls, hreads⟩ : ∃ left,
      (run resolve operations (Deferred.ofSource (.ofList rows))).pulls 1 = ([some true], left) ∧
        left.reads = 2 := by
    rw [Deferred.pulls, Deferred.pull_of_step_held rfl, Deferred.pull_of_step_some rfl]
    exact ⟨_, rfl, rfl⟩
  obtain ⟨-, hanswers, hlater⟩ := reads_no_more_than_needed hunsorted (.ofList rows)
  refine ⟨hunsorted, left, hpulls, hreads, (hanswers [true] left hpulls).1, ?_⟩
  exact hlater [_, _] 1 rfl [true] left rfl hpulls

end RecordQuery

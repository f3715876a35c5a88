import RecordQuery.Proofs.Comparison
import RecordQuery.Proofs.RecordOrder

/-!
# Thresholds in sorted rows

An ordinal filter compares the value of a row with a threshold, and a sort compares the values of
two rows. If both follow one order, a threshold cuts sorted rows into the lesser, the equal and the
greater ones (`CutBy`), so a reader can continue after the last value that was seen.

* Among values of one kind, integers if they are numbers, every threshold has one place, also a
  float to which integers are rounded when they are compared (`Value.order_threshold`), because no
  such value blurs another one and the threshold.
* But filters fold the case of values (`Value.folded`), and sorts do not. Thresholds cut sorted rows
  if folding preserves the order of the values (`cutBy_of_foldsInOrder`), and otherwise one of the
  values is a threshold that does not (`foldsInOrder_of_cutBy`).

Numbers and ordinals are not folded, so thresholds always cut; for characters it depends on the
values in the rows (`sort_cuts_iff`).
-/

namespace RecordQuery

variable {ρ : Type}

/-! ### Values and thresholds -/

namespace Value

/-- The value as filters compare it: texts and characters are folded. -/
def folded : Value → Value
  | .text t => .text t.lower
  | .char c => .char (Text.foldChar c)
  | v => v

variable {kind : Kind} {u v : Value}

theorem covers_folded (h : kind.covers v = true) : kind.covers v.folded = true := by
  cases v with
  | text t => cases kind <;> exact h
  | char c => cases kind <;> exact h
  | _ => exact h

theorem folded_of_covers (hordered : kind.isOrdered = true) (hkind : kind ≠ .char)
    (h : kind.covers v = true) : v.folded = v := by
  cases v with
  | text t => cases kind <;> simp [Kind.covers, Kind.isOrdered] at h hordered
  | char c => cases kind <;> simp [Kind.covers] at h hkind
  | _ => rfl

/-- A value does not blur another one of its kind. -/
theorem not_blurs_of_covers (hu : kind.covers u = true) (hv : kind.covers v = true) (w : Value) :
    ¬ Blurs u v w := by
  rintro ⟨-, ⟨hnone, -⟩ | ⟨hnearest, -⟩⟩
  · obtain ⟨o, ho, -⟩ := exists_compare?_of_covers hu hv
    exact absurd (hnone.symm.trans ho) (by simp)
  · unfold isNearestTo at hnearest
    split at hnearest
    · -- only a float is nearest to an integer
      cases kind <;> exact absurd hu (by simp [Kind.covers, Number.toInt?])
    · exact absurd hnearest (by simp)

/-- **A threshold has one place among values of one kind**: a value after a greater one is greater,
and a value before a lesser one is lesser. The threshold can be of any kind. -/
theorem order_threshold (hu : kind.covers u = true) (hv : kind.covers v = true)
    (huv : u.order v ≠ .gt) (w : Value) :
    (u.order w = .gt → v.order w = .gt) ∧ (v.order w = .lt → u.order w = .lt) := by
  constructor
  · intro huw
    -- otherwise the second value would be between the first one and the threshold, and blur them
    by_contra hvw
    exact not_blurs_of_covers hv hu w (blurs_of_order huv hvw huw)
  · intro hvw
    by_contra huw
    have hwu : w.order u ≠ .gt := by rwa [order_swap, Ne, Ordering.swap_eq_gt]
    have hwv : w.order v = .gt := by rw [order_swap, hvw]; rfl
    exact not_blurs_of_covers hu hv w (blurs_of_order hwu huv hwv).symm

end Value

namespace Predicate

theorem compare?_eq_folded (v : Value) (o : Operand) :
    compare? v o = v.folded.compare? o.toValue := by
  cases v <;> cases o <;> rfl

theorem order_of_outcome? {v : Value} {o : Operand} {x : Ordering} (h : outcome? v o = some x) :
    v.folded.order o.toValue = x := by
  unfold outcome? at h
  split at h
  · exact absurd h (by simp)
  · rw [Value.order, ← compare?_eq_folded, h, Option.getD_some]

/-- The three comparators admit the order of the folded value and the operand. -/
theorem order_of_admits (v : Value) (o : Operand) :
    (admits .lessThan (outcome? v o) = true → v.folded.order o.toValue = .lt) ∧
    (admits .equals (outcome? v o) = true → v.folded.order o.toValue = .eq) ∧
    (admits .greaterThan (outcome? v o) = true → v.folded.order o.toValue = .gt) := by
  cases h : outcome? v o with
  | none => exact ⟨nofun, nofun, nofun⟩
  | some x =>
    rw [order_of_outcome? h]
    cases x <;> decide

end Predicate

/-! ### Cuts -/

/-- No row that satisfies `second` comes before a row that satisfies `first`. -/
def Precede (first second : ρ → Bool) (rows : List ρ) : Prop :=
  rows.Pairwise fun a b => ¬ (second a = true ∧ first b = true)

instance (first second : ρ → Bool) (rows : List ρ) : Decidable (Precede first second rows) :=
  inferInstanceAs (Decidable (List.Pairwise _ rows))

/-- Rows on the wrong sides of a cut are out of order. -/
theorem Precede.rel_of_holds {first second : ρ → Bool} {rows : List ρ} {r : ρ → ρ → Prop}
    (h : Precede first second rows) (hrows : rows.Pairwise r) {a b : ρ} (ha : a ∈ rows)
    (hb : b ∈ rows) (hne : a ≠ b) (hsecond : second a = true) (hfirst : first b = true) :
    r b a := by
  refine List.Pairwise.forall_of_forall_of_flip
    (R := fun x y => x ≠ y → second x = true → first y = true → r y x) ?_ ?_ ?_ ha hb hne hsecond
    hfirst
  · exact fun _ _ hself => absurd rfl hself
  · exact h.imp fun hnot _ hsecond hfirst => absurd ⟨hsecond, hfirst⟩ hnot
  · exact hrows.imp fun hr _ _ _ => hr

/-- **A threshold cuts the rows** into the lesser, the equal and the greater ones. -/
structure CutBy (p : Comparator → Predicate ρ) (rows : List ρ) : Prop where
  less_equal : Precede (p .lessThan).holds (p .equals).holds rows
  equal_greater : Precede (p .equals).holds (p .greaterThan).holds rows
  less_greater : Precede (p .lessThan).holds (p .greaterThan).holds rows

/-- Folding preserves the order of the values in the field. -/
def Field.FoldsInOrder (f : Field ρ) (rows : List ρ) : Prop :=
  ∀ a ∈ rows, ∀ b ∈ rows, (f.read a).order (f.read b) ≠ .gt →
    (f.read a).folded.order (f.read b).folded ≠ .gt

section Cuts

variable {resolve : Resolver ρ} {field : Text} {f : Field ρ} {rows : List ρ}

/-- Values of kinds other than texts and characters are not folded. -/
theorem Field.foldsInOrder_of_kind (hordered : f.kind.isOrdered = true) (hkind : f.kind ≠ .char)
    (hcells : ∀ row ∈ rows, f.kind.covers (f.read row) = true) : f.FoldsInOrder rows := by
  intro a ha b hb hab
  rwa [Value.folded_of_covers hordered hkind (hcells a ha),
    Value.folded_of_covers hordered hkind (hcells b hb)]

/-- **Thresholds cut sorted rows** if folding preserves the order of the values. -/
theorem cutBy_of_foldsInOrder {p : Comparator → Predicate ρ} {o : Operand}
    (hreads : ∀ c ≠ .like, ∀ record,
      (p c).holds record = Predicate.admits c (Predicate.outcome? (f.read record) o))
    (hcells : ∀ row ∈ rows, f.kind.covers (f.read row) = true)
    (hsorted : rows.Pairwise fun a b => (f.read a).order (f.read b) ≠ .gt)
    (hfolds : f.FoldsInOrder rows) : CutBy p rows := by
  have hthreshold {a b : ρ} (ha : a ∈ rows) (hb : b ∈ rows)
      (hab : (f.read a).order (f.read b) ≠ .gt) :=
    Value.order_threshold (Value.covers_folded (hcells a ha)) (Value.covers_folded (hcells b hb))
      (hfolds a ha b hb hab) o.toValue
  have hless {row : ρ} (h : (p .lessThan).holds row = true) :
      (f.read row).folded.order o.toValue = .lt :=
    (Predicate.order_of_admits _ _).1 ((hreads _ (by decide) row).symm.trans h)
  have hequal {row : ρ} (h : (p .equals).holds row = true) :
      (f.read row).folded.order o.toValue = .eq :=
    (Predicate.order_of_admits _ _).2.1 ((hreads _ (by decide) row).symm.trans h)
  have hgreater {row : ρ} (h : (p .greaterThan).holds row = true) :
      (f.read row).folded.order o.toValue = .gt :=
    (Predicate.order_of_admits _ _).2.2 ((hreads _ (by decide) row).symm.trans h)
  -- in each case the later row is on a side of the threshold where the earlier one is not
  refine ⟨?_, ?_, ?_⟩
  · refine hsorted.imp_of_mem fun ha hb hab hwrong => ?_
    have hlt := (hthreshold ha hb hab).2 (hless hwrong.2)
    exact absurd ((hequal hwrong.1).symm.trans hlt) (by decide)
  · refine hsorted.imp_of_mem fun ha hb hab hwrong => ?_
    have hgt := (hthreshold ha hb hab).1 (hgreater hwrong.1)
    exact absurd ((hequal hwrong.2).symm.trans hgt) (by decide)
  · refine hsorted.imp_of_mem fun ha hb hab hwrong => ?_
    have hgt := (hthreshold ha hb hab).1 (hgreater hwrong.1)
    exact absurd ((hless hwrong.2).symm.trans hgt) (by decide)

/-- A present value of the kind `char` is a character. -/
theorem exists_char_of_covers {v : Value} (h : Kind.char.covers v = true) (hv : v ≠ .absent) :
    ∃ c, v = .char c := by
  cases v with
  | absent => exact absurd rfl hv
  | char c => exact ⟨c, rfl⟩
  | _ => exact absurd h (by simp [Kind.covers])

/-- **If all characters are thresholds that cut the sorted rows**, folding preserves the order. -/
theorem foldsInOrder_of_cutBy (hf : resolve field = some f) (hkind : f.kind = .char)
    (hcells : ∀ row ∈ rows, f.kind.covers (f.read row) = true)
    (hsorted : rows.Pairwise fun a b => (f.read a).order (f.read b) ≠ .gt)
    (hcuts : ∀ text o, Operand.read? text f.kind = some o →
      ∃ p, (∀ c, Predicate.comparing? resolve field (.text text) c = some (p c)) ∧ CutBy p rows) :
    f.FoldsInOrder rows := by
  intro a ha b hb hab hgt
  rw [hkind] at hcells
  -- both are characters, because an absent value is the least
  have ha' : f.read a ≠ .absent := by
    intro habsent
    rw [habsent, Value.order_eq_gt_iff] at hgt
    generalize (f.read b).folded = v at hgt
    cases v <;> simp [Value.folded, Value.compare?] at hgt
  have hb' : f.read b ≠ .absent := by
    intro habsent
    rw [habsent] at hab
    exact ha' (Value.eq_absent_of_order hab)
  obtain ⟨c, hc⟩ := exists_char_of_covers (hcells a ha) ha'
  obtain ⟨d, hd⟩ := exists_char_of_covers (hcells b hb) hb'
  rw [hc, hd] at hab hgt
  have hcd : c ≠ d := by
    rintro rfl
    exact absurd hgt (by simp [Value.folded, Value.order, Value.compare?])
  -- the first character as a threshold
  have hread : Operand.read? [c] f.kind = some (.char (Text.foldChar c)) := by rw [hkind]; rfl
  obtain ⟨p, hp, hcut⟩ := hcuts [c] _ hread
  obtain ⟨q, hq, hreads⟩ := Predicate.exists_comparing?_text hf (by rw [hkind]; rfl) hread
  have hpq (c : Comparator) : p c = q c := Option.some.inj ((hp c).symm.trans (hq c))
  have hequal : (p .equals).holds a = true := by
    rw [hpq, hreads _ (by decide), hc]
    simp [Predicate.outcome?, Predicate.compare?, Predicate.admits, Value.isAbsent]
  have hless : (p .lessThan).holds b = true := by
    rw [hpq, hreads _ (by decide), hd]
    have hlt : compare (Text.foldChar d).toNat (Text.foldChar c).toNat = .lt :=
      Nat.compare_eq_lt.2 (Nat.compare_eq_gt.1 hgt)
    simp [Predicate.outcome?, Predicate.compare?, Predicate.admits, Value.isAbsent, hlt]
  -- the threshold is after its own row, so the two rows are reversed
  have hne : a ≠ b := by
    rintro rfl
    exact hcd (Value.char.inj (hc.symm.trans hd))
  have hba := hcut.less_equal.rel_of_holds hsorted ha hb hne hequal hless
  rw [hc, hd] at hba
  have hle : c.toNat ≤ d.toNat := Nat.compare_ne_gt.1 hab
  have hge : d.toNat ≤ c.toNat := Nat.compare_ne_gt.1 hba
  exact hcd (Char.toNat_inj.1 (le_antisymm hle hge))

end Cuts

/-! ### Sorts and filters -/

/-- The rows of an ascending sort by one field are in the order of its values. -/
theorem pairwise_sort {τ : Type → Type} [Target τ] [LawfulTarget τ] {resolve : Resolver ρ}
    {s : Sorting} {f : Field ρ} {t : τ ρ} (hascending : s.descending = false)
    (hsort : s.fields resolve = [f])
    (hcells : ∀ row ∈ Target.rows t, f.kind.covers (f.read row) = true) :
    let sorted := Target.rows ((Operation.sort s).apply resolve t)
    sorted.Perm (Target.rows t) ∧
      sorted.Pairwise fun a b => (f.read a).order (f.read b) ≠ .gt := by
  intro sorted
  -- the only column of the sort is the field, whose values are of one kind
  have huniform : ∀ g ∈ s.fields resolve, g.Uniform (Target.rows t) := by
    rw [hsort]
    exact List.forall_mem_singleton.2 ⟨f.kind, hcells⟩
  have hstable := Sorting.stablySorted_apply huniform
  rw [hascending, hsort] at hstable
  refine ⟨hstable.perm, hstable.ordered.imp_of_mem fun ha hb hab hgt => ?_⟩
  have ha' := hcells _ (hstable.perm.mem_iff.1 ha)
  have hb' := hcells _ (hstable.perm.mem_iff.1 hb)
  have hlt := (Value.order_compares ha' hb').eq_gt.1 hgt
  exact absurd (List.cons_lt_cons_iff.2 (.inl hlt)) (not_lt_of_ge hab)

/-- **Sorts and filters agree on an order** exactly where folding preserves it. In rows sorted
ascending by a field of integers or of ordinals, every text that the kind reads is a threshold that
cuts them. In rows sorted by characters this holds if and only if folding preserves the order of the
characters in the rows. -/
theorem sort_cuts_iff {τ : Type → Type} [Target τ] [LawfulTarget τ] (resolve : Resolver ρ)
    (s : Sorting) (field : Text) (f : Field ρ) (t : τ ρ) (hascending : s.descending = false)
    (hsort : s.fields resolve = [f]) (hfilter : resolve field = some f)
    (hordered : f.kind.isOrdered = true)
    (hcells : ∀ row ∈ Target.rows t, f.kind.covers (f.read row) = true) :
    ((∀ text o, Operand.read? text f.kind = some o →
      ∃ p, (∀ c, Predicate.comparing? resolve field (.text text) c = some (p c)) ∧
        CutBy p (Target.rows ((Operation.sort s).apply resolve t))) ↔
      f.FoldsInOrder (Target.rows t)) ∧
    (f.kind ≠ .char → f.FoldsInOrder (Target.rows t)) := by
  obtain ⟨hperm, hsorted⟩ := pairwise_sort hascending hsort hcells
  have hcells' := fun row hrow => hcells row (hperm.mem_iff.1 hrow)
  have hkeeps (hkind : f.kind ≠ .char) := Field.foldsInOrder_of_kind hordered hkind hcells
  refine ⟨⟨fun hcuts => ?_, fun hfolds text o ho => ?_⟩, hkeeps⟩
  · -- only characters are folded, so only for them are the cuts needed
    by_cases hkind : f.kind = .char
    · have hfolds := foldsInOrder_of_cutBy hfilter hkind hcells' hsorted hcuts
      exact fun a ha b hb => hfolds a (hperm.mem_iff.2 ha) b (hperm.mem_iff.2 hb)
    · exact hkeeps hkind
  · obtain ⟨p, hp, hreads⟩ := Predicate.exists_comparing?_text hfilter hordered ho
    refine ⟨p, hp, cutBy_of_foldsInOrder hreads hcells' hsorted ?_⟩
    exact fun a ha b hb => hfolds a (hperm.mem_iff.1 ha) b (hperm.mem_iff.1 hb)

/-- Signed and unsigned integers sorted ascending, and a threshold between two of them. -/
theorem sort_cuts_at_a_float :
    let size : Field (Value × Nat) := ⟨"size".toList, .number, true, Prod.fst⟩
    let resolve := (Schema.empty.insert size).resolve
    let s : Sorting := ⟨["size".toList], false, by decide, by decide +kernel⟩
    let rows : List (Value × Nat) := [
      (.number (.unsigned 9223372036854775808), 0), (.number (.signed 3), 1), (.absent, 2),
      (.number (.signed (-1)), 3), (.number (.unsigned 2), 4)]
    let sorted := (Operation.sort s).apply resolve rows
    sorted.map Prod.snd = [2, 3, 4, 1, 0] ∧
      ∃ p, (∀ c, Predicate.comparing? resolve "size".toList (.text "2.5".toList) c = some (p c)) ∧
        CutBy p sorted := by
  intro size resolve s rows sorted
  have hresolve : resolve "size".toList = some size := by rfl
  have hcuts :=
    sort_cuts_iff resolve s "size".toList size rows rfl (by rfl) hresolve rfl (by decide)
  have hread : (Operand.read? "2.5".toList size.kind).isSome = true := by decide +kernel
  obtain ⟨o, ho⟩ := Option.isSome_iff_exists.1 hread
  exact ⟨by decide +kernel, hcuts.1.2 (hcuts.2 (by decide)) _ o ho⟩

/-- A sort puts `B` before `a`, and folded it is after. The threshold `b` is equal to the first row,
and the second row is less. -/
theorem capital_is_sorted_before_small :
    let grade : Field Value := ⟨"grade".toList, .char, false, id⟩
    let resolve := (Schema.empty.insert grade).resolve
    let s : Sorting := ⟨["grade".toList], false, by decide, by decide +kernel⟩
    let sorted := (Operation.sort s).apply resolve [.char 'B', .char 'a']
    sorted = [.char 'B', .char 'a'] ∧
      ∃ less equal,
        Predicate.comparing? resolve "grade".toList (.text "b".toList) .lessThan = some less ∧
        Predicate.comparing? resolve "grade".toList (.text "b".toList) .equals = some equal ∧
        sorted.map less.holds = [false, true] ∧ sorted.map equal.holds = [true, false] ∧
        ¬ Precede less.holds equal.holds sorted := by
  intro grade resolve s sorted
  exact ⟨by decide +kernel, _, _, rfl, rfl, by decide +kernel, by decide +kernel,
    by decide +kernel⟩

end RecordQuery

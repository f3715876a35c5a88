import Mathlib.Algebra.Ring.Int.Defs
import RecordQuery.Builder
import RecordQuery.Proofs.Comparison
import RecordQuery.Proofs.NumberCase
import RecordQuery.Proofs.StableSort

/-!
# Filters on integers

`QueryBuilder` takes the number of a filter as a `Number` and writes it as text, and binding reads
the text again: as `Int64` if it fits, otherwise as `UInt64`. The comparison is then between 64-bit
words, signed or unsigned. `compareNumber_exact` states that a filter compares exactly in the whole
range from the minimum of `Int64` to the maximum of `UInt64`.

* The numeral of an integer in this range is read as that integer (`Number.read?_ofInt`), so a
  number keeps its value through its text (`Number.exists_read?_toText`).
* The outcome for a number and an integer or absent cell is the comparison of integers
  (`Predicate.outcome?_whole`), and each comparator tests it for its relation
  (`Predicate.admits_compare`).
-/

namespace RecordQuery

variable {ρ : Type}

/-! ### Numbers and their text -/

namespace Text

theorem isBlank_of_isDigit {c : Char} (h : c.isDigit = true) : isBlank c = false :=
  forall_ascii (P := fun c => c.isDigit = true → isBlank c = false) (by decide +kernel)
    (toNat_lt_of_isDigit h) h

/-- A numeral contains no whitespace. -/
theorem isBlank_of_mem_ofInt {i : Int} {c : Char} (h : c ∈ ofInt i) : isBlank c = false := by
  cases i with
  | ofNat n => exact isBlank_of_isDigit (isDigit_of_mem_ofNat h)
  | negSucc n =>
    rcases List.mem_cons.1 h with rfl | hdigit
    · rfl
    · exact isBlank_of_isDigit (isDigit_of_mem_ofNat hdigit)

theorem trim_ofInt (i : Int) : trim (ofInt i) = ofInt i :=
  trim_of_ends (fun _ hc => isBlank_of_mem_ofInt (List.mem_of_mem_head? hc))
    fun _ hc => isBlank_of_mem_ofInt (List.mem_of_getLast? hc)

end Text

namespace Number

/-- An integer as it is read: signed if it fits, otherwise unsigned. -/
def ofInt (i : Int) : Number :=
  if i ≤ Int64.maxValue.toInt then .signed (Int64.ofInt i) else .unsigned (UInt64.ofNat i.toNat)

variable {n : Number} {i : Int}

/-- Every integer in the range of one of the two words has its own value. -/
theorem toInt?_ofInt (hleast : -2 ^ 63 ≤ i) (hgreatest : i ≤ 2 ^ 64 - 1) :
    (ofInt i).toInt? = some i := by
  rw [ofInt, Int64.toInt_maxValue]
  split
  · next hsmall => exact congrArg some (Int64.toInt_ofInt_of_le hleast (by omega))
  · next hlarge =>
    have hword : (UInt64.ofNat i.toNat).toNat = i.toNat :=
      UInt64.toNat_ofNat_of_lt' (by rw [UInt64.size]; omega)
    rw [toInt?, hword, Int.toNat_of_nonneg (by omega)]

/-- **The numeral of an integer is read as the integer.** -/
theorem read?_ofInt (hleast : -2 ^ 63 ≤ i) (hgreatest : i ≤ 2 ^ 64 - 1) :
    read? (Text.ofInt i) = some (ofInt i) := by
  have hsigned : Text.int64? (Text.ofInt i) =
      if i ≤ Int64.maxValue.toInt then some (Int64.ofInt i) else none := by
    rw [Text.int64?, Text.signed?_ofInt, Option.bind_some, Int64.toInt_minValue]
    simp only [hleast, true_and]
  rw [read?, Text.trim_ofInt, hsigned, ofInt]
  split
  · rfl
  · next hlarge =>
    -- only an unsigned word is left, and its numeral has no minus sign
    rw [Int64.toInt_maxValue] at hlarge
    obtain ⟨m, rfl⟩ : ∃ m : Nat, i = m := ⟨i.toNat, by omega⟩
    have hword : Text.word64? (Text.ofNat m) = some (UInt64.ofNat m) := by
      rw [Text.word64?, Text.unsigned?_ofNat, Option.bind_some, if_pos (by rw [UInt64.size]; omega)]
    rw [show Text.ofInt (m : Int) = Text.ofNat m from rfl, hword]
    rfl

/-- Signed and unsigned words of one value have the same text. -/
theorem toText_of_toInt? (h : n.toInt? = some i) : n.toText = Text.ofInt i := by
  cases n with
  | float x => exact absurd h (by simp [toInt?])
  | _ =>
    obtain rfl := Option.some.inj h
    rfl

/-- **A number keeps its value through its text**, though a signed word may become unsigned or
conversely. -/
theorem exists_read?_toText (h : n.toInt? = some i) :
    ∃ m, read? n.toText.lower = some m ∧ m.toInt? = some i := by
  obtain ⟨hleast, hgreatest⟩ := bounds_of_toInt? h
  rw [Int64.toInt_minValue] at hleast
  rw [UInt64.size] at hgreatest
  have hlast : i ≤ 2 ^ 64 - 1 := by omega
  refine ⟨ofInt i, ?_, toInt?_ofInt hleast hlast⟩
  rw [read?_lower, toText_of_toInt? h, read?_ofInt hleast hlast]

end Number

/-! ### Comparing integers -/

/-- The integer of a value, if it has one. -/
def Value.whole? : Value → Option Int
  | .number n => n.toInt?
  | _ => none

/-- **The relation of a comparator** between a cell and an integer. An absent cell is only `not`
equal. -/
def Comparator.keepsWhole (c : Comparator) (i : Int) : Option Int → Bool
  | none => c = .not
  | some v =>
    match c with
    | .equals | .like => v = i
    | .not => v ≠ i
    | .greaterThan => v > i
    | .greaterThanEqual => v ≥ i
    | .lessThan => v < i
    | .lessThanEqual => v ≤ i

namespace Predicate

/-- **Integer or absent cells compare with a number as integers.** -/
theorem outcome?_whole {v : Value} {n : Number} {i : Int} (hv : Kind.number.covers v = true)
    (hn : n.toInt? = some i) : outcome? v (.number n) = v.whole?.map fun j => compare j i := by
  cases v with
  | absent => rfl
  | number m =>
    obtain ⟨j, hj⟩ := Option.isSome_iff_exists.1 (show m.toInt?.isSome = true from hv)
    rw [Value.whole?, hj]
    exact Number.compare?_whole hj hn
  | _ => exact absurd hv (by simp [Kind.covers])

/-- Each comparator admits the outcomes of its relation. -/
theorem admits_compare (c : Comparator) (i : Int) (cell : Option Int) :
    admits c (cell.map fun v => compare v i) = c.keepsWhole i cell := by
  cases cell with
  | none => rfl
  | some v => cases c <;> simp [admits, Comparator.keepsWhole, compare_lt_iff_lt, compare_gt_iff_gt]

end Predicate

/-! ### Filters of a builder -/

/-- **Integers are filtered exactly**, from the minimum of `Int64` to the maximum of `UInt64`. Their
numerals are read as their values, they compare by value, and the filter that a builder makes of one
binds on every number field. It keeps the rows whose cell has the relation of the comparator to the
number, signed or unsigned. -/
theorem compareNumber_exact {τ : Type → Type} [Target τ] [LawfulTarget τ] :
    (∀ i : Int, -2 ^ 63 ≤ i → i ≤ 2 ^ 64 - 1 →
      Number.read? (Text.ofInt i) = some (Number.ofInt i) ∧ (Number.ofInt i).toInt? = some i) ∧
    (∀ (m n : Number) (i j : Int), m.toInt? = some i → n.toInt? = some j →
      m.compare? n = some (compare i j)) ∧
    ∀ (resolve : Resolver ρ) (b : Builder) (c : Comparator) (name : Text) (f : Field ρ)
      (n : Number) (i : Int) (t : τ ρ),
      resolve name.lower = some f → f.kind = .number → c ≠ .like → n.toInt? = some i →
      (∀ row ∈ Target.rows (run resolve b.operations t),
        Kind.number.covers (f.read row) = true) →
      (Predicate.bind? resolve (.of name c (.text n.toText))).isSome = true ∧
      Target.rows (run resolve (b.compareNumber c name n).operations t) =
        (Target.rows (run resolve b.operations t)).filter fun row =>
          c.keepsWhole i (f.read row).whole? := by
  refine ⟨fun i hleast hgreatest => ?_, fun m n i j => Number.compare?_whole, ?_⟩
  · exact ⟨Number.read?_ofInt hleast hgreatest, Number.toInt?_ofInt hleast hgreatest⟩
  · intro resolve b c name f n i t hf hkind hc hn hcells
    -- the operand has the same value, signed or unsigned
    obtain ⟨m, hread, hm⟩ := Number.exists_read?_toText hn
    have hoperand : Operand.read? n.toText.lower f.kind = some (.number m) := by
      rw [hkind, Operand.read?, hread]
      rfl
    have hordered : f.kind.isOrdered = true := by rw [hkind]; rfl
    obtain ⟨p, hp, hreads⟩ := Predicate.exists_comparing?_text hf hordered hoperand
    have hbind : Predicate.bind? resolve (.of name c (.text n.toText)) = some (p c) := hp c
    refine ⟨by rw [hbind]; rfl, ?_⟩
    have happly (t : τ ρ) : run resolve [.filter (.of name c (.text n.toText))] t =
        Target.keep (p c).holds t := by
      rw [run_cons, run_nil, Operation.apply, Filter.apply, hbind]
    rw [show (b.compareNumber c name n).operations =
      b.operations ++ [.filter (.of name c (.text n.toText))] from rfl, run_append, happly,
      LawfulTarget.rows_keep]
    refine List.filter_congr fun row hrow => ?_
    rw [hreads c hc, Predicate.outcome?_whole (hcells row hrow) hm, Predicate.admits_compare]

/-- Numbers around the maximum of `Int64`, signed and unsigned: the filter is made of an unsigned
number, reads it as a signed one, and tells it from its neighbours. -/
theorem compareNumber_exact_around_the_sign :
    let schema : Schema (Value × Nat) := Schema.empty.optionalField "size".toList .number Prod.fst
    let rows : List (Value × Nat) := [
      (.number (.unsigned 9223372036854775808), 0), (.absent, 1),
      (.number (.signed 9223372036854775807), 2), (.number (.unsigned 9223372036854775807), 3),
      (.number (.signed (-1)), 4), (.number (.unsigned 18446744073709551615), 5)]
    let kept (c : Comparator) := (run schema.resolve
      (Builder.empty.compareNumber c "Size".toList (.unsigned 9223372036854775807)).operations
        rows).map Prod.snd
    kept .not = [0, 1, 4, 5] ∧ kept .lessThanEqual = [2, 3, 4] := by
  intro schema rows kept
  have hresolve : schema.resolve (Text.lower "Size".toList) =
      some ⟨"size".toList, .number, true, Prod.fst⟩ := by rfl
  have hkept (c : Comparator) (hc : c ≠ .like) : kept c = (rows.filter fun row =>
      c.keepsWhole 9223372036854775807 row.1.whole?).map Prod.snd :=
    congrArg (List.map Prod.snd) (compareNumber_exact.2.2 schema.resolve .empty c "Size".toList
      ⟨"size".toList, .number, true, Prod.fst⟩ (.unsigned 9223372036854775807) _ rows
      hresolve rfl hc rfl (by decide)).2
  rw [hkept .not (by decide), hkept .lessThanEqual (by decide)]
  exact ⟨by decide, by decide⟩

end RecordQuery

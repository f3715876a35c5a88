import RecordQuery.Proofs.Comparison
import RecordQuery.Proofs.NumberCase

/-!
# Filters in canonical form

A filter can be built as a structure, with its text as given, or by `Filter.of`, which lower-cases
the field and the text. Both resolve the same field. Whether both texts are read as the same operand
depends on the kind of the field (`Operand.read?_lower_iff`):

* texts, numbers and booleans are read the same;
* the character `İ` is not, because its lower case has two characters;
* a text may name another variant, or none, once it is lower-cased: the names of variants are
  compared without regard to the case of `A` to `Z`, and of no other letter.

`Kind.Follows` is the condition on kind, comparator and text that follows from this. It is
sufficient and necessary for the two filters to be the same test on all records
(`canonical_filter_agrees_iff`), and ASCII text meets it (`Kind.keeps_of_ascii`).
-/

namespace RecordQuery

variable {ρ : Type}

/-! ### Characters -/

namespace Text

/-- Lower-casing does not shorten a text. -/
theorem length_le_length_lower (t : Text) : t.length ≤ (lower t).length := by
  suffices ∀ before, t.length ≤ (lowerAfter before t).length from this []
  induction t with
  | nil => exact fun before => Nat.le_refl _
  | cons c t ih =>
    intro before
    have hc := List.length_pos_iff.2 (lowerAt_ne_nil before t c)
    have ht := ih (c :: before)
    rw [lowerAfter, List.length_append, List.length_cons]
    omega

/-- The lower case of a character other than `İ` is the single character `foldChar c`. -/
theorem lowerChar_eq_foldChar {c : Char} (hc : c ≠ 'İ') : lowerChar c = [foldChar c] := by
  have hone : ∃ d, lowerChar c = [d] := by
    rw [lowerChar, if_neg hc]
    split <;> exact ⟨_, rfl⟩
  obtain ⟨d, hd⟩ := hone
  rw [foldChar, hd]

theorem foldChar_of_settled {c : Char} (h : Settled c) : foldChar c = c := by
  rw [foldChar, h.1]

end Text

/-! ### Lower-cased values -/

namespace Operand

/-- The index of the first variant that the text names, if it fits into 32 bits. -/
def variant? (variants : List Text) (t : Text) : Option UInt32 :=
  (variants.findIdx? fun v => v.sameLetters t).bind fun place =>
    if place < UInt32.size then some (UInt32.ofNat place) else none

theorem ordinal?_eq (variants : List Text) (t : Text) :
    ordinal? variants t = (Text.word32? t).or (variant? variants t) := rfl

/-- A text of several characters is not read as a character. -/
theorem read?_char_of_length {t : Text} (h : 2 ≤ t.length) : read? t .char = none := by
  rcases t with _ | ⟨c, _ | ⟨d, t⟩⟩
  · exact absurd h (by simp)
  · exact absurd h (by simp)
  · rfl

theorem read?_char_singleton (c : Char) : read? [c] .char = some (.char (Text.foldChar c)) := rfl

/-- A character other than `İ` and its lower case are read the same. -/
theorem read?_lower_singleton {c : Char} (hc : c ≠ 'İ') :
    read? (Text.lower [c]) .char = read? [c] .char := by
  by_cases hsigma : c = 'Σ'
  · -- a sigma by itself does not end a word
    subst hsigma
    decide +kernel
  · have hlower : Text.lower [c] = [Text.foldChar c] := by
      rw [Text.lower, Text.lowerAfter, Text.lowerAt, if_neg hsigma, Text.lowerChar_eq_foldChar hc]
      rfl
    have hsettled : Text.Settled (Text.foldChar c) :=
      Text.settled_of_mem_lower (t := [c]) (hlower ▸ List.mem_singleton_self _)
    rw [hlower, read?_char_singleton, read?_char_singleton, Text.foldChar_of_settled hsettled]

theorem read?_char_lower_iff (t : Text) :
    read? t.lower .char = read? t .char ↔ t ≠ ['İ'] := by
  -- by the length of the text: none, one, or more characters
  rcases t with _ | ⟨c, _ | ⟨d, t⟩⟩
  · exact iff_of_true rfl (by simp)
  · by_cases hi : c = 'İ'
    · subst hi
      refine iff_of_false ?_ (fun h => h rfl)
      rw [read?_char_of_length (by decide), read?_char_singleton]
      exact (Option.some_ne_none _).symm
    · exact iff_of_true (read?_lower_singleton hi) (by simpa using hi)
  · have hlong : 2 ≤ (c :: d :: t).length := by simp
    have hlower := hlong.trans (Text.length_le_length_lower _)
    refine iff_of_true ?_ (by simp)
    rw [read?_char_of_length hlong, read?_char_of_length hlower]

end Operand

/-- The text and its lower case are read as the same operand of the kind. -/
def Kind.Keeps (t : Text) : Kind → Prop
  | .text | .number | .bool => True
  | .char => t ≠ ['İ']
  | .enum variants =>
    (Text.word32? t).isSome ∨ Operand.variant? variants t.lower = Operand.variant? variants t

instance (t : Text) : DecidablePred (Kind.Keeps t)
  | .text | .number | .bool => inferInstanceAs (Decidable True)
  | .char => inferInstanceAs (Decidable (_ ≠ _))
  | .enum _ => inferInstanceAs (Decidable (_ ∨ _))

/-- **The operands that `lower` preserves.** -/
theorem Operand.read?_lower_iff (t : Text) (kind : Kind) :
    read? t.lower kind = read? t kind ↔ kind.Keeps t := by
  -- texts, numbers and booleans are read up to case; the other two kinds have a condition
  cases kind with
  | text =>
    refine iff_of_true ?_ trivial
    rw [read?, read?, Text.lower_lower]
  | number =>
    refine iff_of_true ?_ trivial
    rw [read?, read?, Number.read?_lower]
  | bool =>
    refine iff_of_true ?_ trivial
    rw [read?, read?, bool?_lower]
  | char => exact read?_char_lower_iff t
  | enum variants =>
    have hinjective : Function.Injective (Option.map Operand.ordinal) :=
      Option.map_injective fun _ _ h => Operand.ordinal.inj h
    rw [read?, read?, hinjective.eq_iff, ordinal?_eq, ordinal?_eq, Text.word32?_lower,
      Kind.Keeps]
    cases Text.word32? t with
    | none => simp
    | some n => simp

/-- ASCII text keeps its operand under every kind, whatever the names of the variants. -/
theorem Kind.keeps_of_ascii {t : Text} (h : ∀ c ∈ t, c.toNat < 128) (kind : Kind) :
    kind.Keeps t := by
  have hlower : t.lower = t.uncased := by
    refine Text.lower_eq_uncased fun x hx => ?_
    obtain ⟨c, hc, rfl⟩ := List.mem_map.1 hx
    exact Text.settled_toLower (h c hc)
  cases kind with
  | text | number | bool => trivial
  | char =>
    rintro rfl
    exact absurd (h 'İ' (List.mem_singleton_self _)) (by decide)
  | enum variants =>
    right
    simp only [Operand.variant?, hlower, Text.sameLetters_uncased_right]

/-! ### Filters as tests -/

/-- The test of the filter on records, if the filter binds. -/
def Filter.test? (resolve : Resolver ρ) (f : Filter) : Option (ρ → Bool) :=
  (Predicate.bind? resolve f).map Predicate.holds

/-- The comparator has the same test with the lower-cased text: it is `like`, which folds its needle
anyway, it is not supported by the kind, or the kind keeps the text. -/
def Kind.Follows (kind : Kind) (c : Comparator) (t : Text) : Prop :=
  c = .like ∨ (c.isOrdinal = true ∧ kind.isOrdered = false) ∨ kind.Keeps t

instance (kind : Kind) (c : Comparator) (t : Text) : Decidable (kind.Follows c t) :=
  inferInstanceAs (Decidable (_ ∨ _ ∨ _))

/-- The lower case of the Kelvin sign is `k`, which names a variant that the sign does not. -/
example : ¬ (Kind.enum ["k".toList]).Follows .equals "\u212A".toList := by decide +kernel

theorem Filter.of_text (field : Text) (c : Comparator) (t : Text) :
    Filter.of field c (.text t) = ⟨field.lower, c, .text t.lower⟩ := rfl

theorem Schema.resolve_lower (s : Schema ρ) (field : Text) :
    s.resolve field.lower = s.resolve field := by
  rw [resolve, resolve, Text.lower_lower]

namespace Filter

variable {resolve : Resolver ρ} {field : Text} {c : Comparator} {t : Text} {g : Field ρ}

theorem test?_of_unknown (h : resolve field = none) :
    test? resolve ⟨field, c, .text t⟩ = none := by
  rw [test?, Predicate.bind?, h]
  rfl

theorem test?_of_not_supports (h : resolve field = some g) (hsupports : g.supports c = false) :
    test? resolve ⟨field, c, .text t⟩ = none := by
  rw [test?, Predicate.bind?, h, Option.bind_some, if_neg (by simp [hsupports])]
  rfl

theorem test?_of_supports (h : resolve field = some g) (hsupports : g.supports c = true) :
    test? resolve ⟨field, c, .text t⟩ =
      (Predicate.operand? ⟨field, c, .text t⟩ g.kind).map fun o record =>
        Predicate.holdsValue g.kind c (g.read record) o := by
  rw [test?, Predicate.bind?, h, Option.bind_some, if_pos hsupports, Option.map_map]
  rfl

/-- A comparator other than `like` compares with the operand of the kind. -/
theorem test?_of_ne_like (hc : c ≠ .like) (h : resolve field = some g)
    (hsupports : g.supports c = true) :
    test? resolve ⟨field, c, .text t⟩ = (Operand.read? t g.kind).map fun o record =>
      Predicate.holdsValue g.kind c (g.read record) o := by
  rw [test?_of_supports h hsupports, Predicate.operand?_of_ne_like hc]
  rfl

end Filter

/-- The canonical filter has the same operand. -/
theorem Predicate.operand?_lower {f : Field ρ} {field : Text} {c : Comparator} {t : Text}
    (h : f.kind.Follows c t) (hsupports : f.supports c = true) :
    operand? ⟨field.lower, c, .text t.lower⟩ f.kind = operand? ⟨field, c, .text t⟩ f.kind := by
  by_cases hlike : c = .like
  · subst hlike
    exact congrArg (fun needle => some (Operand.text needle)) (Text.lower_lower t)
  · -- the comparator is supported, so the kind keeps the text
    have hkeeps : f.kind.Keeps t := by
      rcases h with h | ⟨hc, hordered⟩ | h
      · exact absurd h hlike
      · rw [supports_iff.1 hsupports hc] at hordered
        exact absurd hordered (by simp)
      · exact h
    rw [operand?_of_ne_like hlike, operand?_of_ne_like hlike, Operand.coerce?, Operand.coerce?,
      (Operand.read?_lower_iff t f.kind).2 hkeeps]

/-- Different ordinals give different tests. -/
theorem Predicate.holdsValue_ordinal_injective {c : Comparator} (hc : c ≠ .like) (kind : Kind) :
    Function.Injective fun (n : UInt32) (v : Value) => holdsValue kind c v (.ordinal n) := by
  intro i j h
  have hholds (a b : UInt32) : holdsValue kind c (.ordinal a) (.ordinal b) =
      admits c (some (compare a.toNat b.toNat)) := by
    rw [holdsValue_eq_admits hc (by simp)]
    rfl
  -- the values of the two ordinals themselves
  have hi := congrFun h (.ordinal i)
  have hj := congrFun h (.ordinal j)
  have hself (a : UInt32) : compare a.toNat a.toNat = .eq := Nat.compare_eq_eq.2 rfl
  simp only [hholds, hself] at hi hj
  rw [← Nat.compare_swap] at hj
  by_contra hne
  have hcompare : compare i.toNat j.toNat ≠ .eq := fun heq =>
    hne (UInt32.toNat_inj.1 (Nat.compare_eq_eq.1 heq))
  revert hcompare hi hj
  cases compare i.toNat j.toNat <;> cases c <;> simp [admits] at hc ⊢

/-- If both operands give the same test on all values, the kind keeps the text. Where different
operands can give the same test, `Kind.Keeps` always holds. -/
theorem Kind.keeps_of_asks_same {kind : Kind} {c : Comparator} {t : Text} (hc : c ≠ .like)
    (h : ((Operand.read? t.lower kind).map fun o v => Predicate.holdsValue kind c v o) =
      (Operand.read? t kind).map fun o v => Predicate.holdsValue kind c v o) : kind.Keeps t := by
  cases kind with
  | text | number | bool => trivial
  | char =>
    -- `İ` is read as given, and its lower case is not
    rintro rfl
    rw [Operand.read?_char_of_length (by decide), Operand.read?_char_singleton] at h
    exact absurd h (Option.some_ne_none _).symm
  | enum variants =>
    rw [← Operand.read?_lower_iff]
    rw [Operand.read?, Operand.read?, Option.map_map, Option.map_map] at h
    have hinjective := Predicate.holdsValue_ordinal_injective hc (.enum variants)
    exact congrArg (Option.map Operand.ordinal) (Option.map_injective hinjective h)

/-! ### Both directions -/

/-- **The canonical filter is the same test** if its field does not resolve, or resolves to a field
whose kind follows. -/
theorem Filter.test?_of_follows {s : Schema ρ} {field : Text} {c : Comparator} {t : Text}
    (h : ∀ f, s.resolve field = some f → f.kind.Follows c t) :
    (Filter.of field c (.text t)).test? s.resolve =
      (⟨field, c, .text t⟩ : Filter).test? s.resolve := by
  rw [Filter.of_text]
  -- both names resolve to the same field, or neither resolves
  have hlower := s.resolve_lower field
  cases hfound : s.resolve field with
  | none => rw [test?_of_unknown hfound, test?_of_unknown (hlower.trans hfound)]
  | some f =>
    cases hsupports : f.supports c with
    | false =>
      rw [test?_of_not_supports hfound hsupports,
        test?_of_not_supports (hlower.trans hfound) hsupports]
    | true =>
      rw [test?_of_supports hfound hsupports, test?_of_supports (hlower.trans hfound) hsupports,
        Predicate.operand?_lower (h f hfound) hsupports]

/-- A schema of values with one field of the kind tells the two filters apart. -/
theorem Kind.follows_of_test?_eq {kind : Kind} {c : Comparator} {t : Text}
    (h : (Filter.of ['a'] c (.text t)).test? (Schema.empty.field ['a'] kind id).resolve =
      (⟨['a'], c, .text t⟩ : Filter).test? (Schema.empty.field ['a'] kind id).resolve) :
    kind.Follows c t := by
  have hfound : (Schema.empty.field ['a'] kind id).resolve ['a'] =
      some ⟨['a'], kind, false, id⟩ := by
    rw [Schema.field, Schema.resolve_insert, if_pos rfl]
  by_contra hnot
  rw [Follows, not_or, not_or] at hnot
  obtain ⟨hlike, hordinal, hkeeps⟩ := hnot
  have hsupports : (⟨['a'], kind, false, id⟩ : Field Value).supports c = true := by
    rw [Predicate.supports_iff]
    intro hc
    by_contra hordered
    exact hordinal ⟨hc, by simpa using hordered⟩
  -- both filters bind, so the tests on all values are those of the operands
  rw [Filter.of_text, Filter.test?_of_ne_like hlike hfound hsupports,
    Filter.test?_of_ne_like hlike ((Schema.resolve_lower _ _).trans hfound) hsupports] at h
  exact hkeeps (keeps_of_asks_same hlike h)

/-- **Canonical filters.** For a kind, a comparator and a text, the canonical filter and the filter
as given are the same test in every schema, if and only if `Kind.Follows` holds. -/
theorem canonical_filter_agrees_iff (kind : Kind) (c : Comparator) (t : Text) :
    (∀ (ρ : Type) (s : Schema ρ) (field : Text),
      (∀ f, s.resolve field = some f → f.kind = kind) →
        (Filter.of field c (.text t)).test? s.resolve =
          (⟨field, c, .text t⟩ : Filter).test? s.resolve) ↔ kind.Follows c t := by
  constructor
  · intro hagree
    refine Kind.follows_of_test?_eq (hagree Value (Schema.empty.field ['a'] kind id) ['a'] ?_)
    intro f hf
    rw [Schema.field, Schema.resolve_insert, if_pos rfl] at hf
    rw [← Option.some.inj hf]
  · intro hfollows ρ s field hkind
    refine Filter.test?_of_follows fun f hf => ?_
    rw [hkind f hf]
    exact hfollows

/-- Two filters whose canonical form does not bind: `İ` on a character field, and a variant whose
name has a letter outside ASCII. -/
theorem canonical_filter_is_lost :
    let grade := "grade".toList
    let characters : Schema Value := Schema.empty.field grade .char id
    let variants : Schema Value :=
      Schema.empty.field grade (.enum ["A".toList, "É".toList]) id
    ((Filter.of grade .equals (.text "İ".toList)).test? characters.resolve = none ∧
      ∃ test, (⟨grade, .equals, .text "İ".toList⟩ : Filter).test? characters.resolve = some test ∧
        test (.char 'İ') = true ∧ test (.char 'a') = false) ∧
    (Filter.of grade .equals (.text "É".toList)).test? variants.resolve = none ∧
      ∃ test, (⟨grade, .equals, .text "É".toList⟩ : Filter).test? variants.resolve = some test ∧
        test (.ordinal 1) = true ∧ test (.ordinal 0) = false := by
  refine ⟨⟨rfl, _, rfl, ?_, ?_⟩, rfl, _, rfl, ?_, ?_⟩ <;> decide +kernel

end RecordQuery

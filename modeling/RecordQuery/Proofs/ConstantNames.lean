import Mathlib.Data.List.Basic
import RecordQuery.Declaration.Description

/-!
# Names of constants

`TypeDeclaration.describe` derives a constant for each field, whose identifier is made from the name
of the field in queries. A renamed field can have any text but the empty one as its name, and a raw
identifier keeps its prefix. Where no identifier results, the derivation gives no answer: neither a
description nor a message for the author (`isAnswer`).

* `constantName` changes case, inserts underscores and replaces dashes by underscores. The result is
  an identifier exactly if the name is one up to dashes (`isIdentifier_constantName`).
* Every error in the options has a message (`FieldOptions.isAnswer_ofAnnotations`), so a field has
  an answer unless its name makes no constant (`DeclaredField.isAnswer_describe_iff`).
* The first field with an error decides (`isAnswer_mapM_iff`).

`describe_isAnswer_iff` puts these together. A raw identifier and a `rename` that begins with a
digit have no answer (`raw_name_has_no_answer`).
-/

namespace RecordQuery.Declaration

open Text

/-! ### Upper-cased identifiers -/

/-- Outside ASCII, `Char.toUpper` is the identity. -/
theorem toUpper_of_not_ascii {c : Char} (h : ¬ c.toNat < 128) : c.toUpper = c := by
  have hsmall : ¬ (97 ≤ c.val ∧ c.val ≤ 122) := by
    rw [UInt32.le_iff_toNat_le, UInt32.le_iff_toNat_le]
    change ¬ (97 ≤ c.toNat ∧ c.toNat ≤ 122)
    omega
  exact dif_neg hsmall

theorem startsIdentifier_toUpper (c : Char) :
    startsIdentifier c.toUpper = startsIdentifier c := by
  by_cases h : c.toNat < 128
  · exact forall_ascii (P := fun c => startsIdentifier c.toUpper = startsIdentifier c)
      (by decide +kernel) h
  · rw [toUpper_of_not_ascii h]

theorem continuesIdentifier_toUpper (c : Char) :
    continuesIdentifier c.toUpper = continuesIdentifier c := by
  by_cases h : c.toNat < 128
  · exact forall_ascii (P := fun c => continuesIdentifier c.toUpper = continuesIdentifier c)
      (by decide +kernel) h
  · rw [toUpper_of_not_ascii h]

/-- Whether the name is an identifier up to dashes. -/
def isNameable : Text → Bool
  | [] => false
  | c :: rest =>
    (startsIdentifier c || c == '-') && rest.all fun e => continuesIdentifier e || e == '-'

/-- **One character of `capitalized`**: an optional underscore, and a character that may start or
continue an identifier exactly if the given one may, dashes included. -/
theorem exists_capitalized_cons (afterSmall : Bool) (c : Char) (rest : Text) :
    ∃ gap d small, capitalized afterSmall (c :: rest) = gap ++ d :: capitalized small rest ∧
      (gap = [] ∨ afterSmall = true ∧ gap = ['_']) ∧
      startsIdentifier d = (startsIdentifier c || c == '-') ∧
      continuesIdentifier d = (continuesIdentifier c || c == '-') := by
  rw [capitalized]
  split
  · next hupper =>
    -- an upper-case letter is kept, behind an underscore if `afterSmall`
    have hstroke : (c == '-') = false := by
      rw [beq_eq_false_iff_ne]
      rintro rfl
      exact absurd hupper (by decide)
    refine ⟨if afterSmall then ['_'] else [], c, false, by cases afterSmall <;> rfl, ?_, ?_, ?_⟩
    · cases afterSmall <;> simp
    · rw [hstroke, Bool.or_false]
    · rw [hstroke, Bool.or_false]
  · split
    · next hsign =>
      -- an underscore stays, and a dash becomes one
      refine ⟨[], '_', false, rfl, .inl rfl, ?_, ?_⟩
      · rcases hsign with rfl | rfl <;> decide
      · rcases hsign with rfl | rfl <;> decide
    · next hsign =>
      -- any other character is put in upper case
      have hstroke : (c == '-') = false := beq_eq_false_iff_ne.2 fun h => hsign (.inr h)
      refine ⟨[], c.toUpper, true, rfl, .inl rfl, ?_, ?_⟩
      · rw [hstroke, Bool.or_false, startsIdentifier_toUpper]
      · rw [hstroke, Bool.or_false, continuesIdentifier_toUpper]

/-- All characters of `capitalized` continue an identifier exactly if those of the name do, dashes
included. -/
theorem all_continuesIdentifier_capitalized (afterSmall : Bool) (t : Text) :
    (capitalized afterSmall t).all continuesIdentifier =
      t.all fun e => continuesIdentifier e || e == '-' := by
  induction t generalizing afterSmall with
  | nil => rfl
  | cons c rest ih =>
    obtain ⟨gap, d, small, hcapitalized, hgap, -, hd⟩ := exists_capitalized_cons afterSmall c rest
    -- the underscore before an upper-case letter continues an identifier
    have hlow : gap.all continuesIdentifier = true := by
      rcases hgap with rfl | ⟨-, rfl⟩ <;> decide
    rw [hcapitalized, List.all_append, List.all_cons, List.all_cons, hlow, Bool.true_and, hd, ih]

/-- **The name of a constant is an identifier** exactly if the name is one up to dashes. -/
theorem isIdentifier_constantName (name : Text) :
    isIdentifier (constantName name) = isNameable name := by
  cases name with
  | nil => rfl
  | cons c rest =>
    obtain ⟨gap, d, small, hcapitalized, hgap, hd, -⟩ := exists_capitalized_cons false c rest
    -- no underscore precedes the first character
    obtain rfl : gap = [] := by simpa using hgap
    rw [constantName, hcapitalized, List.nil_append, isIdentifier, isNameable, hd,
      all_continuesIdentifier_capitalized]

/-- An identifier is nameable. -/
theorem isNameable_of_isIdentifier {name : Text} (h : isIdentifier name = true) :
    isNameable name = true := by
  cases name with
  | nil => exact h
  | cons c rest =>
    rw [isIdentifier, Bool.and_eq_true, List.all_eq_true] at h
    rw [isNameable, Bool.and_eq_true, List.all_eq_true]
    refine ⟨by rw [h.1, Bool.true_or], fun e he => ?_⟩
    rw [h.2 e he, Bool.true_or]

/-- A raw identifier is not nameable. -/
theorem isNameable_raw (name : Text) : isNameable ('r' :: '#' :: name) = false := by
  have hsign : (continuesIdentifier '#' || '#' == '-') = false := by decide
  rw [isNameable, List.all_cons, hsign, Bool.false_and, Bool.and_false]

/-! ### Answers -/

/-- Whether the result is a value or an error with a message for the author. -/
def isAnswer {α : Type} : Except DeclarationError α → Bool
  | .error (.invalidConstant _) => false
  | _ => true

section Answers

variable {α β : Type}

/-- A bind is an answer if both steps are. -/
theorem isAnswer_bind {x : Except DeclarationError α} {f : α → Except DeclarationError β} :
    isAnswer (x >>= f) = true ↔ isAnswer x = true ∧ ∀ a, x = .ok a → isAnswer (f a) = true := by
  cases x with
  | error e => cases e <;> simp [bind, Except.bind, isAnswer]
  | ok a => simp [bind, Except.bind, isAnswer]

/-- A fold is an answer if each of its steps is. -/
theorem isAnswer_foldlM {f : β → α → Except DeclarationError β}
    (h : ∀ b a, isAnswer (f b a) = true) (inputs : List α) (b : β) :
    isAnswer (inputs.foldlM f b) = true := by
  induction inputs generalizing b with
  | nil => rfl
  | cons a inputs ih =>
    rw [List.foldlM_cons]
    exact isAnswer_bind.2 ⟨h b a, fun c _ => ih c⟩

/-- **The first error decides.** `mapM` is an answer exactly if no input without an answer comes
after inputs without errors only. -/
theorem isAnswer_mapM_iff {f : α → Except DeclarationError β} {inputs : List α} :
    isAnswer (inputs.mapM f) = true ↔ ∀ before a after, inputs = before ++ a :: after →
      (∀ b ∈ before, ∃ c, f b = .ok c) → isAnswer (f a) = true := by
  induction inputs with
  | nil => simp [pure, Except.pure, isAnswer]
  | cons first inputs ih =>
    rw [List.mapM_cons, isAnswer_bind]
    constructor
    · -- the input without an answer is the first one, or a later one
      rintro ⟨hfirst, hrest⟩ before a after heq hbefore
      cases before with
      | nil =>
        obtain rfl := (List.cons.inj heq).1
        exact hfirst
      | cons b before =>
        obtain ⟨rfl, htail⟩ := List.cons.inj heq
        obtain ⟨⟨c, hc⟩, hbefore⟩ := List.forall_mem_cons.1 hbefore
        exact ih.1 (isAnswer_bind.1 (hrest c hc)).1 before a after htail hbefore
    · intro h
      refine ⟨h [] first inputs rfl (by simp), fun c hc => isAnswer_bind.2 ⟨ih.2 ?_, ?_⟩⟩
      · rintro before a after rfl hbefore
        exact h (first :: before) a after rfl (List.forall_mem_cons.2 ⟨⟨c, hc⟩, hbefore⟩)
      · exact fun _ _ => rfl

end Answers

namespace FieldOptions

theorem isAnswer_withKind (options : FieldOptions) (name : Text) :
    isAnswer (options.withKind name) = true := by
  rw [withKind]
  split <;> rfl

theorem isAnswer_withValue (options : FieldOptions) (key : OptionKey) (value : Option Text) :
    isAnswer (options.withValue key value) = true := by
  unfold withValue
  split
  · rfl
  · rfl
  · rfl
  · exact isAnswer_withKind ..

theorem isAnswer_add (options : FieldOptions) (a : Annotation) :
    isAnswer (options.add a) = true := by
  unfold add
  split
  · split
    · split
      · rfl
      · exact isAnswer_withKind ..
    · rfl
  · split
    · exact isAnswer_withValue ..
    · rfl
  · rfl

/-- **Every error in the options has a message.** -/
theorem isAnswer_ofAnnotations (read : AnnotationReader) (annotations : List Annotation) :
    isAnswer (ofAnnotations read annotations) = true := by
  unfold ofAnnotations
  split
  · rfl
  · rw [ofTokens]
    split
    · exact isAnswer_foldlM isAnswer_add _ _
    · rfl
  · rfl

end FieldOptions

/-! ### Fields and declarations -/

namespace DeclaredField

/-- The name of the field in queries, if it has one: its options can be read, give it a kind and do
not skip it, and the name is that of `rename`, or else its own. -/
def QueriedAs (read : AnnotationReader) (f : DeclaredField) (name : Text) : Prop :=
  ∃ options kind, FieldOptions.ofAnnotations read f.annotations = .ok options ∧
    options.skip = false ∧ options.kind = some kind ∧ options.rename.getD f.name = name

theorem isAnswer_entry (f : DeclaredField) (kind : FieldSort) (name : Text) :
    isAnswer (f.entry kind name) = isNameable name := by
  rw [entry, isIdentifier_constantName]
  cases isNameable name <;> rfl

/-- **A field has an answer** unless its name in queries makes no constant. -/
theorem isAnswer_describe_iff {read : AnnotationReader} {f : DeclaredField} :
    isAnswer (f.describe read) = true ↔ ∀ name, f.QueriedAs read name → isNameable name = true := by
  rw [describe, isAnswer_bind]
  constructor
  · rintro ⟨-, h⟩ name ⟨options, kind, hoptions, hskip, hkind, rfl⟩
    have hentry := h options hoptions
    rw [hskip, hkind] at hentry
    rw [← f.isAnswer_entry kind]
    exact (isAnswer_bind.1 hentry).1
  · intro h
    refine ⟨FieldOptions.isAnswer_ofAnnotations .., fun options hoptions => ?_⟩
    split
    · next kind hskip hkind =>
      refine isAnswer_bind.2 ⟨?_, fun _ _ => rfl⟩
      rw [isAnswer_entry]
      exact h _ ⟨options, kind, hoptions, hskip, hkind, rfl⟩
    · rfl

end DeclaredField

theorem TypeDeclaration.isAnswer_fields (d : TypeDeclaration) : isAnswer d.fields = true := by
  rw [fields]
  split <;> rfl

/-- **Declarations with an answer** are those in which no field whose name makes no constant comes
after fields without errors only. -/
theorem describe_isAnswer_iff (read : AnnotationReader) (d : TypeDeclaration) :
    (isAnswer (d.describe read) = true ↔
      ∀ before f after, d.fields = .ok (before ++ f :: after) →
        (∀ g ∈ before, ∃ entry, g.describe read = .ok entry) →
          ∀ name, f.QueriedAs read name → isNameable name = true) ∧
    (∀ name, isIdentifier name = true → isNameable name = true) ∧
    ∀ name, isNameable ('r' :: '#' :: name) = false := by
  refine ⟨?_, fun name h => isNameable_of_isIdentifier h, isNameable_raw⟩
  rw [TypeDeclaration.describe, isAnswer_bind]
  constructor
  · rintro ⟨-, h⟩ before f after hfields hbefore
    have hall := (isAnswer_bind.1 (h _ hfields)).1
    have hfield := isAnswer_mapM_iff.1 hall before f after rfl hbefore
    exact DeclaredField.isAnswer_describe_iff.1 hfield
  · intro h
    refine ⟨d.isAnswer_fields, fun fields hfields => isAnswer_bind.2 ⟨?_, fun _ _ => rfl⟩⟩
    refine isAnswer_mapM_iff.2 ?_
    rintro before f after rfl hbefore
    exact DeclaredField.isAnswer_describe_iff.2 (h before f after hfields hbefore)

/-- **Declarations without an answer**: with a raw identifier, whose constant would be `R#TYPE`, and
with a `rename` that begins with a digit. -/
theorem raw_name_has_no_answer :
    let raw := "struct Post \x7b #[query(String)] r#type: String \x7d".toList
    let chosen := "struct Post \x7b #[query(Number, rename = \"2fa\")] code: u32 \x7d".toList
    Description.ofText raw = .error (.invalidConstant "r#type".toList) ∧
      isAnswer (Description.ofText raw) = false ∧
      Description.ofText chosen = .error (.invalidConstant "2fa".toList) ∧
      isAnswer (Description.ofText chosen) = false := by
  intro raw chosen
  have hraw : Description.ofText raw = .error (.invalidConstant "r#type".toList) := by
    decide +kernel
  have hchosen : Description.ofText chosen = .error (.invalidConstant "2fa".toList) := by
    decide +kernel
  exact ⟨hraw, by rw [hraw]; rfl, hchosen, by rw [hchosen]; rfl⟩

end RecordQuery.Declaration

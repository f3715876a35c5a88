import RecordQuery.Operation.Basic
import RecordQuery.Value

/-!
# Schemas

A `Schema` maps names to the fields of a record: name, kind, whether the field is optional, and how
it is read. Names are lower-cased, in the schema and when they are resolved (`Schema.resolve`).

`Schema.insert` and `Schema.exclude` change what one name resolves to (`Schema.resolve_insert`,
`Schema.resolve_exclude`); `Schema.rename` removes a field under its old name and inserts it under
the new one.

Queries only need a `Resolver`, a map from names to fields.
-/

namespace RecordQuery

/-! ### Kinds -/

/-- The kinds of fields. -/
inductive Kind where
  | text
  | number
  | char
  | bool
  /-- The ordinal of one of the variants. -/
  | enum (variants : List Text)
  deriving DecidableEq

namespace Kind

/-- Whether values of the kind have an order for filters. -/
def isOrdered : Kind → Bool
  | .number | .char | .enum _ => true
  | .text | .bool => false

/-- The name of the kind. -/
def name : Kind → Text
  | .text => "string".toList
  | .number => "number".toList
  | .char => "char".toList
  | .bool => "bool".toList
  | .enum _ => "enum".toList

end Kind

/-! ### Fields -/

/-- A field of a record. -/
structure Field (ρ : Type) where
  name : Text
  kind : Kind
  /-- Whether the field is optional. -/
  mayBeAbsent : Bool
  read : ρ → Value

/-- A map from names to fields. -/
abbrev Resolver (ρ : Type) := Text → Option (Field ρ)

/-- Whether the comparator applies to the field. Ordinal comparators need a kind with an order. -/
def Field.supports {ρ : Type} (f : Field ρ) (c : Comparator) : Bool :=
  !c.isOrdinal || f.kind.isOrdered

/-! ### Schemas -/

/-- Fields by their lower-cased names. -/
structure Schema (ρ : Type) where
  entries : List (Text × Field ρ)

namespace Schema

variable {ρ : Type}

/-- The schema without fields. -/
def empty : Schema ρ := ⟨[]⟩

/-- Removes the entry of a key. -/
def erase (s : Schema ρ) (key : Text) : Schema ρ := ⟨s.entries.filter fun e => e.1 != key⟩

/-- Inserts a field, in place of one with the same lower-cased name. -/
def insert (s : Schema ρ) (f : Field ρ) : Schema ρ :=
  ⟨(s.erase f.name.lower).entries ++ [(f.name.lower, f)]⟩

/-- Inserts a field that is not optional. -/
def field (s : Schema ρ) (name : Text) (kind : Kind) (read : ρ → Value) : Schema ρ :=
  s.insert ⟨name, kind, false, read⟩

/-- Inserts an optional field. -/
def optionalField (s : Schema ρ) (name : Text) (kind : Kind) (read : ρ → Value) : Schema ρ :=
  s.insert ⟨name, kind, true, read⟩

/-- The field with the name, up to case. -/
def resolve (s : Schema ρ) : Resolver ρ := fun name => s.entries.lookup name.lower

/-- Removes the field with the name. -/
def exclude (s : Schema ρ) (name : Text) : Schema ρ := s.erase name.lower

/-- Renames the field with the name `old`; without such a field the schema is not changed. -/
def rename (s : Schema ρ) (old new : Text) : Schema ρ :=
  match s.resolve old with
  | none => s
  | some f => (s.exclude old).insert { f with name := new }

/-- The number of fields. -/
def size (s : Schema ρ) : Nat := s.entries.length

/-- Whether there are no fields. -/
def isEmpty (s : Schema ρ) : Bool := s.entries.isEmpty

/-- The fields in the order of insertion. -/
def fields (s : Schema ρ) : List (Field ρ) := s.entries.map Prod.snd

/-! ### Resolution -/

@[simp] theorem resolve_empty (name : Text) : (empty : Schema ρ).resolve name = none := rfl

theorem lookup_erase (entries : List (Text × Field ρ)) (key other : Text) :
    (entries.filter fun e => e.1 != key).lookup other =
      if other = key then none else entries.lookup other := by
  induction entries with
  | nil => simp
  | cons e entries ih =>
    obtain ⟨k, f⟩ := e
    by_cases hk : k = key
    · subst hk
      rw [List.filter_cons_of_neg (by simp), ih]
      by_cases ho : other = k
      · simp [ho]
      · have : (other == k) = false := by simpa using ho
        simp [ho, List.lookup_cons, this]
    · by_cases ho : other = k
      · subst ho
        simp [hk]
      · have : (other == k) = false := by simpa using ho
        simp [hk, ih, List.lookup_cons, this]

theorem lookup_append_single (entries : List (Text × Field ρ)) (key other : Text)
    (f : Field ρ) (h : entries.lookup key = none) :
    (entries ++ [(key, f)]).lookup other =
      if other = key then some f else entries.lookup other := by
  induction entries with
  | nil =>
    by_cases ho : other = key
    · simp [ho]
    · have : (other == key) = false := by simpa using ho
      simp [ho, List.lookup_cons, this]
  | cons e entries ih =>
    obtain ⟨k, g⟩ := e
    by_cases hk : key = k
    · subst hk
      simp at h
    · have hkb : (key == k) = false := by simpa using hk
      have hnone : entries.lookup key = none := by simpa [List.lookup_cons, hkb] using h
      by_cases ho : other = k
      · subst ho
        have : ¬ other = key := fun heq => hk heq.symm
        simp [this]
      · have hob : (other == k) = false := by simpa using ho
        simp [List.lookup_cons, hob, ih hnone]

/-- Excluding a name changes what this name resolves to, and no other. -/
theorem resolve_exclude (s : Schema ρ) (name other : Text) :
    (s.exclude name).resolve other =
      if other.lower = name.lower then none else s.resolve other :=
  lookup_erase s.entries name.lower other.lower

/-- Inserting a field changes what its name resolves to, and no other. -/
theorem resolve_insert (s : Schema ρ) (f : Field ρ) (other : Text) :
    (s.insert f).resolve other =
      if other.lower = f.name.lower then some f else s.resolve other := by
  have hnone : (s.erase f.name.lower).entries.lookup f.name.lower = none := by
    simp [erase, lookup_erase]
  unfold resolve insert
  rw [lookup_append_single _ _ _ _ hnone]
  split
  · rfl
  · next h => rw [erase, lookup_erase, if_neg h]

end Schema

end RecordQuery

import Mathlib.Data.Set.Card
import RecordQuery.Schema

/-!
# Schemas as maps from names

A schema is a list of entries, each of a lower-cased name as its key and a field, which has its name
once more. Every change has to keep the two in step, and `Schema.rename` removes an entry and
inserts it again, perhaps over another field or over itself.

* `Schema.Kept` is the invariant: the key of an entry is the lower-cased name of its field, and no
  key occurs twice. Each change preserves it (`Schema.Kept.apply`), so it holds of every schema that
  is made by changes (`Schema.kept_ofChanges`).
* With the invariant, a name resolves to the field with the same lower-cased name
  (`Schema.Kept.resolve_eq_some_iff`).

The effect of each change is stated for all names, also those that it leaves alone. Together, a
schema is a map from names up to case (`Schema.isNameMap_ofChanges`).
-/

namespace RecordQuery

variable {ρ : Type}

namespace Schema

/-! ### Changes -/

/-- A change of a schema. -/
inductive Change (ρ : Type) where
  | insert (f : Field ρ)
  | field (name : Text) (kind : Kind) (read : ρ → Value)
  | optionalField (name : Text) (kind : Kind) (read : ρ → Value)
  | rename (old new : Text)
  | exclude (name : Text)

namespace Change

/-- The schema after the change. -/
def apply (s : Schema ρ) : Change ρ → Schema ρ
  | .insert f => s.insert f
  | .field name kind read => s.field name kind read
  | .optionalField name kind read => s.optionalField name kind read
  | .rename old new => s.rename old new
  | .exclude name => s.exclude name

/-- The field that the change inserts as given, if it does so. -/
def given? : Change ρ → Option (Field ρ)
  | .insert f => some f
  | .field name kind read => some ⟨name, kind, false, read⟩
  | .optionalField name kind read => some ⟨name, kind, true, read⟩
  | .rename .. | .exclude _ => none

/-- A change that is given a field inserts it. -/
theorem apply_of_given? {c : Change ρ} {f : Field ρ} (h : c.given? = some f) (s : Schema ρ) :
    c.apply s = s.insert f := by
  cases c with
  | rename old new => exact absurd h (by simp [given?])
  | exclude name => exact absurd h (by simp [given?])
  | _ =>
    obtain rfl := Option.some.inj h
    rfl

end Change

/-- The schema after the changes, in order, to the empty schema. -/
def ofChanges (changes : List (Change ρ)) : Schema ρ := changes.foldl Change.apply empty

/-! ### The invariant -/

/-- **The invariant**: the key of every entry is the lower-cased name of its field, and no key
occurs twice. -/
structure Kept (s : Schema ρ) : Prop where
  key_eq : ∀ e ∈ s.entries, e.1 = e.2.name.lower
  nodup_keys : (s.entries.map Prod.fst).Nodup

theorem kept_empty : (empty : Schema ρ).Kept := ⟨by simp [empty], List.nodup_nil⟩

/-- An erased key does not occur. -/
theorem key_notMem_erase (s : Schema ρ) (key : Text) :
    key ∉ (s.erase key).entries.map Prod.fst := by
  intro hmem
  obtain ⟨e, he, hkey⟩ := List.mem_map.1 hmem
  have hne := (List.mem_filter.1 he).2
  rw [hkey] at hne
  exact absurd hne (by simp)

namespace Kept

variable {s : Schema ρ}

theorem erase (h : s.Kept) (key : Text) : (s.erase key).Kept where
  key_eq e he := h.key_eq e (List.mem_filter.1 he).1
  nodup_keys := h.nodup_keys.sublist (List.filter_sublist.map Prod.fst)

theorem insert (h : s.Kept) (f : Field ρ) : (s.insert f).Kept where
  key_eq e he := by
    rcases List.mem_append.1 he with he | he
    · exact (h.erase f.name.lower).key_eq e he
    · rw [List.mem_singleton.1 he]
  nodup_keys := by
    have hkeys : (s.insert f).entries.map Prod.fst =
        ((s.erase f.name.lower).entries.map Prod.fst).concat f.name.lower := by
      rw [Schema.insert, List.map_append, List.concat_eq_append]
      rfl
    rw [hkeys]
    -- the key of the new entry has been erased
    exact (h.erase f.name.lower).nodup_keys.concat (s.key_notMem_erase f.name.lower)

/-- The renamed field is inserted under its new name. -/
theorem rename (h : s.Kept) (old new : Text) : (s.rename old new).Kept := by
  rw [Schema.rename]
  split
  · exact h
  · next f _ => exact (h.erase old.lower).insert { f with name := new }

/-- **Changes preserve the invariant.** -/
theorem apply (h : s.Kept) (c : Change ρ) : (c.apply s).Kept := by
  cases c with
  | insert f => exact h.insert f
  | field name kind read => exact h.insert ⟨name, kind, false, read⟩
  | optionalField name kind read => exact h.insert ⟨name, kind, true, read⟩
  | rename old new => exact h.rename old new
  | exclude name => exact h.erase name.lower

end Kept

/-- **The invariant holds of every schema made by changes.** -/
theorem kept_ofChanges (changes : List (Change ρ)) : (ofChanges changes).Kept := by
  have hrun : ∀ s : Schema ρ, s.Kept → (changes.foldl Change.apply s).Kept := by
    induction changes with
    | nil => exact fun s h => h
    | cons c changes ih => exact fun s h => ih (c.apply s) (h.apply c)
  exact hrun empty kept_empty

/-! ### Resolving names -/

/-- The lower-cased names that resolve are those of the fields, if a name resolves exactly when a
field has it up to case. -/
theorem setOf_names_eq {s : Schema ρ} {fields : List (Field ρ)}
    (h : ∀ name, (s.resolve name).isSome = true ↔ ∃ f ∈ fields, f.name.lower = name.lower) :
    {name : Text | name.lower = name ∧ (s.resolve name).isSome = true} =
      ((fields.map fun f => f.name.lower).toFinset : Set Text) := by
  ext name
  rw [List.coe_toFinset, Set.mem_ofPred_eq, Set.mem_ofPred_eq, List.mem_map, h]
  constructor
  · rintro ⟨hlower, f, hf, hname⟩
    exact ⟨f, hf, hname.trans hlower⟩
  · -- `lower` is idempotent
    rintro ⟨f, hf, rfl⟩
    exact ⟨Text.lower_lower _, f, hf, (Text.lower_lower _).symm⟩

namespace Kept

variable {s : Schema ρ}

/-- The keys are the lower-cased names of the fields. -/
theorem map_fst_entries (h : s.Kept) :
    s.entries.map Prod.fst = s.fields.map fun f => f.name.lower := by
  rw [fields, List.map_map]
  exact List.map_congr_left h.key_eq

/-- The entry of a key is the one that `List.lookup` finds. -/
theorem lookup_eq_some_iff (h : s.Kept) {key : Text} {f : Field ρ} :
    s.entries.lookup key = some f ↔ (key, f) ∈ s.entries := by
  constructor
  · intro hfound
    obtain ⟨before, after, heq, -⟩ := List.lookup_eq_some_iff.1 hfound
    rw [heq]
    exact List.mem_append_right before (List.mem_cons_self ..)
  · intro hmem
    obtain ⟨before, after, heq⟩ := List.append_of_mem hmem
    refine List.lookup_eq_some_iff.2 ⟨before, after, heq, fun e he => ?_⟩
    -- an earlier entry with the key would be a second one
    have hnodup := h.nodup_keys
    rw [heq, List.map_append, List.nodup_append] at hnodup
    have hne : e.1 ≠ key :=
      hnodup.2.2 e.1 (List.mem_map_of_mem he) key (List.mem_cons_self ..)
    simpa using hne.symm

/-- **A name resolves to the field that has it**, up to case. -/
theorem resolve_eq_some_iff (h : s.Kept) {name : Text} {f : Field ρ} :
    s.resolve name = some f ↔ f ∈ s.fields ∧ f.name.lower = name.lower := by
  rw [resolve, h.lookup_eq_some_iff]
  constructor
  · intro hmem
    exact ⟨List.mem_map_of_mem hmem, (h.key_eq _ hmem).symm⟩
  · rintro ⟨hmem, hname⟩
    obtain ⟨e, he, rfl⟩ := List.mem_map.1 hmem
    have hkey : e.1 = name.lower := (h.key_eq e he).trans hname
    rw [← hkey]
    exact he

theorem isSome_resolve_iff (h : s.Kept) {name : Text} :
    (s.resolve name).isSome = true ↔ ∃ f ∈ s.fields, f.name.lower = name.lower := by
  simp only [Option.isSome_iff_exists, h.resolve_eq_some_iff]

/-- No two fields have the same name up to case. -/
theorem pairwise_fields (h : s.Kept) :
    s.fields.Pairwise fun f g => f.name.lower ≠ g.name.lower := by
  have hnodup := h.nodup_keys
  rwa [h.map_fst_entries, List.Nodup, List.pairwise_map] at hnodup

/-- There are as many fields as lower-cased names that resolve. -/
theorem encard_names (h : s.Kept) :
    {name : Text | name.lower = name ∧ (s.resolve name).isSome = true}.encard = s.size := by
  have hnodup := h.nodup_keys
  rw [h.map_fst_entries] at hnodup
  rw [setOf_names_eq fun name => h.isSome_resolve_iff, Set.encard_coe_eq_coe_finsetCard,
    List.toFinset_card_of_nodup hnodup, List.length_map, fields, List.length_map, size]

end Kept

/-! ### Renaming -/

/-- Renaming a name that does not resolve changes nothing. -/
theorem rename_of_resolve_eq_none {s : Schema ρ} {old : Text} (h : s.resolve old = none)
    (new : Text) : s.rename old new = s := by
  rw [rename, h]

/-- **Renaming.** The new name resolves to the field with its new name, the old name does not
resolve any more unless it is the new one up to case, and other names are not affected. -/
theorem resolve_rename {s : Schema ρ} {old : Text} {f : Field ρ} (h : s.resolve old = some f)
    (new other : Text) :
    (s.rename old new).resolve other =
      if other.lower = new.lower then some { f with name := new }
      else if other.lower = old.lower then none
      else s.resolve other := by
  have hrename : s.rename old new = (s.exclude old).insert { f with name := new } := by
    rw [rename, h]
  rw [hrename, resolve_insert, resolve_exclude]

/-! ### Schemas as maps -/

/-- **The schema is a map from names to fields up to case**, and changes act on it pointwise. -/
structure IsNameMap (s : Schema ρ) : Prop where
  /-- The key of an entry is the lower-cased name of its field. -/
  stored : ∀ key f, (key, f) ∈ s.entries → key = f.name.lower
  /-- A name resolves to the field that has it, up to case. -/
  resolve_eq_some_iff : ∀ name f, s.resolve name = some f ↔
    f ∈ s.fields ∧ f.name.lower = name.lower
  /-- A name resolves exactly if a field has it, up to case. -/
  isSome_resolve_iff : ∀ name, (s.resolve name).isSome = true ↔
    ∃ f ∈ s.fields, f.name.lower = name.lower
  /-- No two fields have the same name up to case. -/
  apart : s.fields.Pairwise fun f g => f.name.lower ≠ g.name.lower
  /-- There are as many fields as lower-cased names that resolve. -/
  size_eq : {name : Text | name.lower = name ∧ (s.resolve name).isSome = true}.encard = s.size
  /-- An inserted field is found under its name, and no other name is affected. -/
  added : ∀ (c : Change ρ) f, c.given? = some f → ∀ other, (c.apply s).resolve other =
    if other.lower = f.name.lower then some f else s.resolve other
  /-- An excluded name does not resolve, and no other name is affected. -/
  excluded : ∀ name other, (s.exclude name).resolve other =
    if other.lower = name.lower then none else s.resolve other
  /-- A renamed field is found under its new name, its old name does not resolve unless it is the
  new one up to case, and no other name is affected. -/
  renamed : ∀ old new f, s.resolve old = some f → ∀ other, (s.rename old new).resolve other =
    if other.lower = new.lower then some { f with name := new }
    else if other.lower = old.lower then none
    else s.resolve other
  /-- Renaming a name that does not resolve changes nothing. -/
  renamed_absent : ∀ old new, s.resolve old = none → s.rename old new = s

/-- **Schemas are maps from names.** This holds after any changes to the empty schema. -/
theorem isNameMap_ofChanges (changes : List (Change ρ)) : (ofChanges changes).IsNameMap := by
  have h := kept_ofChanges changes
  exact {
    stored := fun key f hmem => h.key_eq (key, f) hmem
    resolve_eq_some_iff := fun _ _ => h.resolve_eq_some_iff
    isSome_resolve_iff := fun _ => h.isSome_resolve_iff
    apart := h.pairwise_fields
    size_eq := h.encard_names
    added := fun c f hgiven other => by rw [Change.apply_of_given? hgiven, resolve_insert]
    excluded := resolve_exclude _
    renamed := fun _ new _ hfound other => resolve_rename hfound new other
    renamed_absent := fun _ new habsent => rename_of_resolve_eq_none habsent new }

/-- A field is renamed over another one and then to its own name in other case, and a later field
replaces one whose name has a dotted capital. -/
example :
    let s : Schema Nat := ofChanges [
      .field "Name".toList .text fun _ => .absent,
      .optionalField "AGE".toList .number fun _ => .absent,
      .field "İd".toList .bool fun _ => .absent,
      .rename "name".toList "Age".toList,
      .rename "aGE".toList "age".toList,
      .insert ⟨"i\u0307D".toList, .char, true, fun _ => .absent⟩]
    s.size = 2 ∧ (s.resolve "AGE".toList).map (·.kind) = some .text ∧
      (s.resolve "İD".toList).map (·.kind) = some .char ∧ (s.resolve "name".toList).isNone := by
  decide +kernel

end Schema

end RecordQuery

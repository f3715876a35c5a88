import Mathlib.Data.Finset.Dedup
import RecordQuery.Declaration.Description
import RecordQuery.Proofs.NamedFields
import RecordQuery.Ticket

/-!
# Schemas of derived descriptions

`Description.schema` inserts the descriptors of a record into a schema one after another. Constants
and descriptors have the names of the fields as written, but `Schema.insert` compares names without
regard to case and replaces an entry of the same name. No earlier step compares the names, so there
are records of which the schema loses a field (`renamed_field_hides_another`), whose constant then
resolves to another field.

Under each name the last field is found (`Schema.resolve_foldl_insert`), and there are as many
entries as lower-cased names (`Schema.size_foldl_insert`). So no field is lost exactly if the
lower-cased names are different (`losesNoField_iff`).
-/

namespace RecordQuery

namespace Schema

variable {ρ : Type}

/-! ### Inserting fields -/

theorem kept_foldl_insert (fields : List (Field ρ)) : (fields.foldl insert empty).Kept := by
  have h := kept_ofChanges (fields.map Change.insert)
  rwa [ofChanges, List.foldl_map] at h

/-- **The last field wins**: a name resolves to the last field with the same lower-cased name. -/
theorem resolve_foldl_insert (fields : List (Field ρ)) (s : Schema ρ) (name : Text) :
    (fields.foldl insert s).resolve name =
      (fields.reverse.find? fun f => f.name.lower == name.lower).or (s.resolve name) := by
  induction fields generalizing s with
  | nil => rfl
  | cons f fields ih =>
    rw [List.foldl_cons, ih, resolve_insert, List.reverse_cons, List.find?_append,
      Option.or_assoc]
    congr 1
    -- the later fields are already resolved, so this one counts only if none of them is found
    by_cases hname : name.lower = f.name.lower
    · rw [if_pos hname, List.find?_cons_of_pos (by simpa using hname.symm), Option.some_or]
    · rw [if_neg hname, List.find?_cons_of_neg (by simpa using Ne.symm hname), List.find?_nil,
        Option.none_or]

/-- A name resolves to one of the fields, with the same lower-cased name. -/
theorem mem_of_resolve_foldl_insert {fields : List (Field ρ)} {name : Text} {f : Field ρ}
    (h : (fields.foldl insert empty).resolve name = some f) :
    f ∈ fields ∧ f.name.lower = name.lower := by
  rw [resolve_foldl_insert, resolve_empty, Option.or_none] at h
  exact ⟨List.mem_reverse.1 (List.mem_of_find?_eq_some h), by simpa using List.find?_some h⟩

theorem isSome_resolve_foldl_insert_iff (fields : List (Field ρ)) (name : Text) :
    ((fields.foldl insert empty).resolve name).isSome = true ↔
      ∃ f ∈ fields, f.name.lower = name.lower := by
  rw [resolve_foldl_insert, resolve_empty, Option.or_none, List.find?_isSome]
  simp

/-- There are as many entries as lower-cased names. -/
theorem size_foldl_insert (fields : List (Field ρ)) :
    (fields.foldl insert empty).size = (fields.map fun f => f.name.lower).toFinset.card := by
  have hnames := (kept_foldl_insert fields).encard_names
  rw [setOf_names_eq (isSome_resolve_foldl_insert_iff fields),
    Set.encard_coe_eq_coe_finsetCard] at hnames
  exact_mod_cast hnames.symm

/-- Every field has an entry of its own exactly if the lower-cased names are different. -/
theorem size_foldl_insert_eq_length_iff (fields : List (Field ρ)) :
    (fields.foldl insert empty).size = fields.length ↔
      (fields.map fun f => f.name.lower).Nodup := by
  have hcard := Multiset.toFinset_card_eq_card_iff_nodup
    (m := ((fields.map fun f => f.name.lower : List Text) : Multiset Text))
  rw [Multiset.coe_card, List.length_map, Multiset.coe_nodup] at hcard
  rw [size_foldl_insert]
  exact hcard

/-- If the lower-cased names are different, each field is found under its name. -/
theorem resolve_foldl_insert_of_nodup {fields : List (Field ρ)}
    (h : (fields.map fun f => f.name.lower).Nodup) {f : Field ρ} (hf : f ∈ fields) :
    (fields.foldl insert empty).resolve f.name = some f := by
  have hsome := (isSome_resolve_foldl_insert_iff fields f.name).2 ⟨f, hf, rfl⟩
  obtain ⟨g, hg⟩ := Option.isSome_iff_exists.1 hsome
  obtain ⟨hmem, hname⟩ := mem_of_resolve_foldl_insert hg
  -- the field that is found has the name, and no other one has
  rw [hg, List.inj_on_of_nodup_map h hmem hf hname]

end Schema

/-- The lower-cased names of the fields of a ticket are different, so each field is found. -/
theorem Ticket.resolve_schema {f : Field Ticket} (hf : f ∈ Ticket.fields) :
    Ticket.schema.resolve f.name = some f :=
  Schema.resolve_foldl_insert_of_nodup (by decide +kernel) hf

namespace Declaration

variable {read : AnnotationReader}

/-! ### Entries of a description -/

/-- Success of `mapM` is success of the function on every input. -/
theorem mapM_eq_ok_iff {α β ε : Type} {f : α → Except ε β} {inputs : List α} {outputs : List β} :
    inputs.mapM f = .ok outputs ↔ inputs.map f = outputs.map .ok := by
  induction inputs generalizing outputs with
  | nil => cases outputs <;> simp [pure, Except.pure]
  | cons a inputs ih =>
    rw [List.mapM_cons, List.map_cons]
    cases outputs with
    | nil => cases f a <;> cases inputs.mapM f <;> simp [bind, Except.bind, pure, Except.pure]
    | cons b outputs =>
      rw [List.map_cons, List.cons.injEq, ← ih]
      cases f a <;> cases inputs.mapM f <;> simp [bind, Except.bind, pure, Except.pure]

namespace DeclaredField

/-- Constant and descriptor of an entry have the name of the field in queries. -/
theorem entry_eq_ok_iff {f : DeclaredField} {kind : FieldSort} {name : Text}
    {e : Constant × Descriptor} :
    f.entry kind name = .ok e ↔ Text.isIdentifier (constantName name) = true ∧
      e = (⟨constantName name, name⟩,
        ⟨name, f.describedKind kind, f.type.element?.isSome, f.name⟩) := by
  rw [entry]
  split
  · next h => simp [h, eq_comm]
  · next h => simp [h]

/-- **A field has an entry** exactly if its options give it a kind and do not skip it. -/
theorem describe_eq_ok_some_iff {f : DeclaredField} {e : Constant × Descriptor} :
    f.describe read = .ok (some e) ↔ ∃ options kind,
      FieldOptions.ofAnnotations read f.annotations = .ok options ∧ options.skip = false ∧
        options.kind = some kind ∧ f.entry kind (options.rename.getD f.name) = .ok e := by
  rw [describe]
  cases FieldOptions.ofAnnotations read f.annotations with
  | error e => simp [bind, Except.bind]
  | ok options =>
    obtain ⟨kind, skip, rename⟩ := options
    cases skip with
    | true => simp [bind, Except.bind, pure, Except.pure]
    | false =>
      cases kind with
      | none => simp [bind, Except.bind, pure, Except.pure]
      | some kind =>
        cases hentry : f.entry kind (rename.getD f.name) <;>
          simp [bind, Except.bind, pure, Except.pure, hentry]

theorem value_eq_name_of_describe {f : DeclaredField} {e : Constant × Descriptor}
    (h : f.describe read = .ok (some e)) : e.1.value = e.2.name := by
  obtain ⟨_, _, -, -, -, hentry⟩ := describe_eq_ok_some_iff.1 h
  rw [(entry_eq_ok_iff.1 hentry).2]

end DeclaredField

/-- The descriptors of a description are those of the entries of the fields. -/
theorem mem_descriptors_iff {d : TypeDeclaration} {r : Description}
    (h : d.describe read = .ok r) {fields : List DeclaredField} (hfields : d.fields = .ok fields)
    {descriptor : Descriptor} :
    descriptor ∈ r.descriptors ↔
      ∃ f ∈ fields, ∃ c, f.describe read = .ok (some (c, descriptor)) := by
  obtain ⟨fields', entries, hfields', hentries, rfl⟩ := (d.describe_eq_ok_iff read r).1 h
  obtain rfl := Except.ok.inj (hfields'.symm.trans hfields)
  have hmap := mapM_eq_ok_iff.1 hentries
  have hmem : ∀ e, some e ∈ entries ↔ ∃ f ∈ fields', f.describe read = .ok (some e) := by
    intro e
    rw [← List.mem_map (f := DeclaredField.describe read), hmap]
    exact (List.mem_map_of_injective fun _ _ => Except.ok.inj).symm
  simp only [List.mem_map, List.mem_filterMap, id_eq, exists_eq_right]
  constructor
  · rintro ⟨⟨c, descriptor'⟩, he, rfl⟩
    obtain ⟨f, hf, hdescribe⟩ := (hmem _).1 he
    exact ⟨f, hf, c, hdescribe⟩
  · rintro ⟨f, hf, c, hdescribe⟩
    exact ⟨(c, descriptor), (hmem _).2 ⟨f, hf, hdescribe⟩, rfl⟩

/-- A text has a description if it declares a record that has one. -/
theorem Description.ofText_eq_ok_iff {t : Text} {r : Description} :
    ofText t = .ok r ↔
      ∃ d, (tokenize t).bind TypeDeclaration.ofTokens? = some d ∧
        d.describe Annotation.listOfTokens? = .ok r := by
  rw [ofText]
  cases (tokenize t).bind TypeDeclaration.ofTokens? <;> simp

/-! ### No lost field -/

/-- **No field is lost**: the schema has as many entries as there are descriptors, and the name in
the constant of a field resolves to the descriptor of that field. -/
structure LosesNoField (read : AnnotationReader) (variants : List Token → List Text)
    (d : TypeDeclaration) (r : Description) : Prop where
  size_eq : (r.schema variants).size = r.descriptors.length
  resolve_constant : ∀ fields, d.fields = .ok fields → ∀ f ∈ fields, ∀ c descriptor,
    f.describe read = .ok (some (c, descriptor)) →
      (r.schema variants).resolve c.value = some (descriptor.toField variants)

theorem Description.schema_eq (variants : List Token → List Text) (r : Description) :
    r.schema variants =
      (r.descriptors.map (Descriptor.toField variants)).foldl Schema.insert .empty := by
  rw [schema, List.foldl_map]

/-- **The records that lose no field** are those whose described fields have different lower-cased
names in queries, whatever the variants of the types are. -/
theorem losesNoField_iff (read : AnnotationReader) {d : TypeDeclaration} {r : Description}
    (h : d.describe read = .ok r) (variants : List Token → List Text) :
    LosesNoField read variants d r ↔
      (r.descriptors.map fun descriptor => descriptor.name.lower).Nodup := by
  -- the variants are not part of a name
  have hnames : (r.descriptors.map (Descriptor.toField variants)).map (fun f => f.name.lower) =
      r.descriptors.map fun descriptor => descriptor.name.lower := List.map_map
  constructor
  · intro hloses
    -- as many entries as descriptors: no insertion replaced an entry
    rw [← hnames, ← Schema.size_foldl_insert_eq_length_iff, ← r.schema_eq, List.length_map]
    exact hloses.size_eq
  · intro hnodup
    rw [← hnames] at hnodup
    refine ⟨?_, ?_⟩
    · rw [r.schema_eq, (Schema.size_foldl_insert_eq_length_iff _).2 hnodup, List.length_map]
    · intro fields hfields f hf c descriptor hdescribe
      have hmem : descriptor ∈ r.descriptors :=
        (mem_descriptors_iff h hfields).2 ⟨f, hf, c, hdescribe⟩
      have hvalue : c.value = (descriptor.toField variants).name :=
        DeclaredField.value_eq_name_of_describe hdescribe
      rw [r.schema_eq, hvalue]
      exact Schema.resolve_foldl_insert_of_nodup hnodup (List.mem_map_of_mem hmem)

/-- A record with an optional, renamed field and a skipped one. -/
theorem losesNoField_of_task :
    let text := ("struct Task \x7b #[query(String)] title: String, " ++
      "#[query(Number, rename = \"dueDate\")] due: Option<i64>, #[query(skip)] id: u64 \x7d").toList
    let r : Description := ⟨"Task".toList,
      [⟨"TITLE".toList, "title".toList⟩, ⟨"DUE_DATE".toList, "dueDate".toList⟩],
      [⟨"title".toList, .text, false, "title".toList⟩,
        ⟨"dueDate".toList, .number, true, "due".toList⟩]⟩
    ∃ d, (tokenize text).bind TypeDeclaration.ofTokens? = some d ∧
        d.describe Annotation.listOfTokens? = .ok r ∧
      ∀ variants, LosesNoField Annotation.listOfTokens? variants d r := by
  intro text r
  have hread : Description.ofText text = .ok r := by decide +kernel
  obtain ⟨d, hd, hdescribe⟩ := Description.ofText_eq_ok_iff.1 hread
  have hnodup : (r.descriptors.map fun descriptor => descriptor.name.lower).Nodup := by
    decide +kernel
  exact ⟨d, hd, hdescribe, fun variants => (losesNoField_iff _ hdescribe variants).2 hnodup⟩

/-- **A lost field.** A field `duedate` and one with `rename = "dueDate"` have different constants,
but both names resolve to the later field, and the schema has one entry for the two descriptors. -/
theorem renamed_field_hides_another :
    let text := ("struct Task \x7b #[query(String)] duedate: String, " ++
      "#[query(Number, rename = \"dueDate\")] due: i64 \x7d").toList
    let r : Description := ⟨"Task".toList,
      [⟨"DUEDATE".toList, "duedate".toList⟩, ⟨"DUE_DATE".toList, "dueDate".toList⟩],
      [⟨"duedate".toList, .text, false, "duedate".toList⟩,
        ⟨"dueDate".toList, .number, false, "due".toList⟩]⟩
    ∃ d, (tokenize text).bind TypeDeclaration.ofTokens? = some d ∧
        d.describe Annotation.listOfTokens? = .ok r ∧
      ∀ variants, (r.schema variants).size = 1 ∧
        ((r.schema variants).resolve "duedate".toList).map Field.name = some "dueDate".toList ∧
        ¬ LosesNoField Annotation.listOfTokens? variants d r := by
  intro text r
  have hread : Description.ofText text = .ok r := by decide +kernel
  obtain ⟨d, hd, hdescribe⟩ := Description.ofText_eq_ok_iff.1 hread
  refine ⟨d, hd, hdescribe, fun variants => ?_⟩
  have hsize : (r.schema variants).size = 1 := by rfl
  refine ⟨hsize, by rfl, fun hloses => ?_⟩
  -- two descriptors would need two entries
  have htwo : (r.schema variants).size = 2 := hloses.size_eq
  omega

end Declaration

end RecordQuery

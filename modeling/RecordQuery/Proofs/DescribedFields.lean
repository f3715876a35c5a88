import RecordQuery.Proofs.ConstantNames
import RecordQuery.Proofs.DerivedSchema
import RecordQuery.Proofs.OptionLists

/-!
# Descriptions follow the fields

The derivation describes each queryable field by a constant and a descriptor. Here is specified,
form by form, which fields these are and how they are described:

* `Means read annotations outcome`: the options, or the error, of the annotations of a field. Only
  the first `query` annotation counts, and it must be a list of options. This is what
  `FieldOptions.ofAnnotations` computes (`means_iff_ofAnnotations`).
* `DescribedAs`: the constant and the descriptor of a field with a kind that is not skipped. The
  type of the field decides whether it is optional, and of which type the variants are
  (`TypeExpr.Holds`). All other fields are `LeftOut`.
* `Describes`: the constants and descriptors of fields in order. A field adds one of each, or
  neither, so the two lists stay aligned (`Describes.length_eq`).

By induction on the fields (`exists_describes`) a description is the one that is specified, unless
the annotations of a field are in error; then the first such field decides
(`describe_follows_fields`).
-/

namespace RecordQuery.Declaration

variable {read : AnnotationReader}

/-! ### Annotations -/

/-- Whether an annotation is the first `query` annotation. -/
def IsFirstForQueries (annotations : List Annotation) (a : Annotation) : Prop :=
  ∃ before after, annotations = before ++ a :: after ∧ a.name? = some "query".toList ∧
    ∀ b ∈ before, b.name? ≠ some "query".toList

/-- **The outcome of the annotations of a field.** -/
inductive Means (read : AnnotationReader) :
    List Annotation → Except DeclarationError FieldOptions → Prop where
  /-- Without a `query` annotation there are no options. -/
  | nothing {annotations : List Annotation} :
    (∀ a ∈ annotations, a.name? ≠ some "query".toList) → Means read annotations (.ok .empty)
  | options {annotations items : List Annotation} {a : Annotation} {tokens : List Token}
    {outcome : Except DeclarationError FieldOptions} :
    IsFirstForQueries annotations a → a.content = .list tokens →
      read tokens = some items → ComesTo items outcome →
        Means read annotations outcome
  /-- The reader rejects the contents of the list. -/
  | unreadable {annotations : List Annotation} {a : Annotation} {tokens : List Token} :
    IsFirstForQueries annotations a → a.content = .list tokens →
      read tokens = none → Means read annotations (.error .malformed)
  | noList {annotations : List Annotation} {a : Annotation} :
    IsFirstForQueries annotations a → (∀ tokens, a.content ≠ .list tokens) →
      Means read annotations (.error .malformed)

theorem find?_eq_some_iff_isFirstForQueries {annotations : List Annotation} {a : Annotation} :
    (annotations.find? fun a => a.name? = some "query".toList) = some a ↔
      IsFirstForQueries annotations a := by
  rw [List.find?_eq_some_iff_append, IsFirstForQueries]
  simp only [decide_eq_true_eq, Bool.not_eq_eq_eq_not, Bool.not_true, decide_eq_false_iff_not]
  constructor
  · rintro ⟨hname, before, after, heq, hbefore⟩
    exact ⟨before, after, heq, hname, hbefore⟩
  · rintro ⟨before, after, heq, hname, hbefore⟩
    exact ⟨hname, before, after, heq, hbefore⟩

/-- Only the first `query` annotation decides `ofAnnotations`. -/
theorem ofAnnotations_of_first {annotations : List Annotation} {a : Annotation}
    (h : IsFirstForQueries annotations a) :
    FieldOptions.ofAnnotations read annotations =
      match a.content with
      | .list tokens => FieldOptions.ofTokens read tokens
      | _ => .error .malformed := by
  obtain ⟨isAbsolute, path, content⟩ := a
  rw [FieldOptions.ofAnnotations, find?_eq_some_iff_isFirstForQueries.2 h]
  cases content <;> rfl

/-- **`Means` specifies `ofAnnotations`.** -/
theorem means_iff_ofAnnotations {annotations : List Annotation}
    {outcome : Except DeclarationError FieldOptions} :
    Means read annotations outcome ↔ FieldOptions.ofAnnotations read annotations = outcome := by
  constructor
  · intro h
    cases h with
    | nothing hnone =>
      have hfind : (annotations.find? fun a => a.name? = some "query".toList) = none := by
        rw [List.find?_eq_none]
        simpa using hnone
      rw [FieldOptions.ofAnnotations, hfind]
    | options hfirst hcontent hlist hcomes =>
      rw [ofAnnotations_of_first hfirst, hcontent]
      dsimp only
      rw [FieldOptions.ofTokens, hlist]
      exact hcomes.unique (comesTo_foldlM _)
    | unreadable hfirst hcontent hlist =>
      rw [ofAnnotations_of_first hfirst, hcontent]
      dsimp only
      rw [FieldOptions.ofTokens, hlist]
    | noList hfirst hcontent =>
      rw [ofAnnotations_of_first hfirst]
      split
      · next hlist => exact absurd hlist (hcontent _)
      · rfl
  · rintro rfl
    -- by the form of the first `query` annotation, if there is one
    cases hfind : annotations.find? fun a => a.name? = some "query".toList with
    | none =>
      rw [FieldOptions.ofAnnotations, hfind]
      exact .nothing (by simpa [List.find?_eq_none] using hfind)
    | some a =>
      have hfirst := find?_eq_some_iff_isFirstForQueries.1 hfind
      rw [ofAnnotations_of_first hfirst]
      cases hcontent : a.content with
      | nothing => exact .noList hfirst (by simp [hcontent])
      | value text => exact .noList hfirst (by simp [hcontent])
      | list tokens =>
        dsimp only
        rw [FieldOptions.ofTokens]
        cases hlist : read tokens with
        | none => exact .unreadable hfirst hcontent hlist
        | some items => exact .options hfirst hcontent hlist (comesTo_foldlM items)

/-- **Annotations have exactly one outcome.** -/
theorem existsUnique_means (read : AnnotationReader) (annotations : List Annotation) :
    ∃! outcome, Means read annotations outcome :=
  ⟨_, means_iff_ofAnnotations.2 rfl, fun _ h => (means_iff_ofAnnotations.1 h).symm⟩

/-! ### Types -/

/-- The type is optional with the given element type: an unqualified path whose last segment is
`Option` with one type argument. -/
def TypeExpr.Holds (type : TypeExpr) (inner : List Token) : Prop :=
  ∃ path segments, type = .path false path ∧
    path.segments = segments ++ [⟨"Option".toList, .angle [⟨.type, inner⟩]⟩]

theorem TypeExpr.element?_eq_some_iff {type : TypeExpr} {inner : List Token} :
    type.element? = some inner ↔ type.Holds inner := by
  constructor
  · intro h
    unfold element? at h
    split at h
    · next path =>
      -- the last segment of the path is `Option` with one type argument
      split at h
      · next name tokens hlast =>
        split at h
        · next hname =>
          obtain rfl := Option.some.inj h
          obtain ⟨segments, hsegments⟩ := List.getLast?_eq_some_iff.1 hlast
          exact ⟨path, segments, rfl, by rw [hsegments, hname]⟩
        · exact absurd h (by simp)
      · exact absurd h (by simp)
    · exact absurd h (by simp)
  · rintro ⟨path, segments, rfl, hsegments⟩
    rw [element?, hsegments, List.getLast?_concat]
    rfl

/-- The described kind for a kind in the options. The variants of an optional field are those of the
element type. -/
inductive TypeExpr.HasKind (type : TypeExpr) : FieldSort → DescribedKind → Prop where
  | text : type.HasKind .text .text
  | number : type.HasKind .number .number
  | char : type.HasKind .char .char
  | bool : type.HasKind .bool .bool
  | enum : (∀ inner, ¬ type.Holds inner) → type.HasKind .enum (.enum type.tokens)
  | heldEnum {inner : List Token} : type.Holds inner → type.HasKind .enum (.enum inner)

theorem DeclaredField.describedKind_hasKind (f : DeclaredField) (sort : FieldSort) :
    f.type.HasKind sort (f.describedKind sort) := by
  cases sort with
  | text => exact .text
  | number => exact .number
  | char => exact .char
  | bool => exact .bool
  | enum =>
    rw [describedKind]
    cases helement : f.type.element? with
    | none =>
      refine .enum fun inner hinner => ?_
      rw [TypeExpr.element?_eq_some_iff.2 hinner] at helement
      exact absurd helement (by simp)
    | some inner => exact .heldEnum (TypeExpr.element?_eq_some_iff.1 helement)

/-! ### Fields -/

/-- The field is not described: it is skipped, or has no kind. -/
def LeftOut (read : AnnotationReader) (f : DeclaredField) : Prop :=
  ∃ options, Means read f.annotations (.ok options) ∧ (options.skip = true ∨ options.kind = none)

/-- **The description of a field** that has a kind and is not skipped. -/
structure DescribedAs (read : AnnotationReader) (f : DeclaredField) (constant : Constant)
    (descriptor : Descriptor) : Prop where
  /-- The descriptor has the kind of the options, and the name of `rename` or else that of the
  field. -/
  given : ∃ options sort, Means read f.annotations (.ok options) ∧ options.skip = false ∧
    options.kind = some sort ∧ f.type.HasKind sort descriptor.kind ∧
    descriptor.name = options.rename.getD f.name
  /-- The constant has the name of the descriptor, and an identifier made from it. -/
  constant_eq : constant = ⟨constantName descriptor.name, descriptor.name⟩
  field_eq : descriptor.field = f.name
  mayBeAbsent_iff : descriptor.mayBeAbsent = true ↔ ∃ inner, f.type.Holds inner

/-- **The descriptions of fields in order**: for each field a constant and a descriptor, or neither
if it is `LeftOut`. -/
inductive Describes (read : AnnotationReader) :
    List DeclaredField → List Constant → List Descriptor → Prop where
  | nil : Describes read [] [] []
  | described {f : DeclaredField} {fields : List DeclaredField} {constant : Constant}
    {descriptor : Descriptor} {constants : List Constant} {descriptors : List Descriptor} :
    DescribedAs read f constant descriptor → Describes read fields constants descriptors →
      Describes read (f :: fields) (constant :: constants) (descriptor :: descriptors)
  | leftOut {f : DeclaredField} {fields : List DeclaredField} {constants : List Constant}
    {descriptors : List Descriptor} :
    LeftOut read f → Describes read fields constants descriptors →
      Describes read (f :: fields) constants descriptors

theorem Describes.length_eq {fields : List DeclaredField} {constants : List Constant}
    {descriptors : List Descriptor} (h : Describes read fields constants descriptors) :
    constants.length = descriptors.length := by
  induction h with
  | nil => rfl
  | described _ _ ih => rw [List.length_cons, List.length_cons, ih]
  | leftOut _ _ ih => exact ih

namespace DeclaredField

variable {f : DeclaredField}

theorem describe_of_leftOut {options : FieldOptions} (h : Means read f.annotations (.ok options))
    (hout : options.skip = true ∨ options.kind = none) : f.describe read = .ok none := by
  rw [describe, means_iff_ofAnnotations.1 h]
  simp only [bind, Except.bind]
  split
  · next hskip hkind =>
    rw [hskip, hkind] at hout
    exact absurd hout (by simp)
  · rfl

/-- A field whose annotations are in error has that error. -/
theorem describe_of_error {e : DeclarationError} (h : Means read f.annotations (.error e)) :
    f.describe read = .error e := by
  rw [describe, means_iff_ofAnnotations.1 h]
  rfl

/-- A field whose annotations have options, and whose name makes a constant, is described or left
out. -/
theorem exists_describe {options : FieldOptions} (h : Means read f.annotations (.ok options))
    (hname : ∀ name, f.QueriedAs read name → Text.isIdentifier (constantName name) = true) :
    (f.describe read = .ok none ∧ LeftOut read f) ∨ ∃ constant descriptor,
      f.describe read = .ok (some (constant, descriptor)) ∧
        DescribedAs read f constant descriptor := by
  by_cases hout : options.skip = true ∨ options.kind = none
  · exact .inl ⟨describe_of_leftOut h hout, options, h, hout⟩
  · rw [not_or, Bool.not_eq_true] at hout
    obtain ⟨hskip, hkind⟩ := hout
    obtain ⟨sort, hkind⟩ := Option.ne_none_iff_exists'.1 hkind
    -- the field is queried, so its name in queries makes a constant
    have hident := hname _ ⟨options, sort, means_iff_ofAnnotations.1 h, hskip, hkind, rfl⟩
    have hentry : f.entry sort (options.rename.getD f.name) = .ok
        (⟨constantName (options.rename.getD f.name), options.rename.getD f.name⟩,
          ⟨options.rename.getD f.name, f.describedKind sort, f.type.element?.isSome, f.name⟩) :=
      entry_eq_ok_iff.2 ⟨hident, rfl⟩
    refine .inr ⟨_, _, describe_eq_ok_some_iff.2
      ⟨options, sort, means_iff_ofAnnotations.1 h, hskip, hkind, hentry⟩, ?_⟩
    exact {
      given := ⟨options, sort, h, hskip, hkind, f.describedKind_hasKind sort, rfl⟩
      constant_eq := rfl
      field_eq := rfl
      mayBeAbsent_iff := by simp only [Option.isSome_iff_exists, TypeExpr.element?_eq_some_iff] }

end DeclaredField

/-! ### Records -/

/-- Exactly the records with named fields have fields to describe. -/
theorem TypeDeclaration.fields_eq_ok_iff (d : TypeDeclaration) {fields : List DeclaredField} :
    d.fields = .ok fields ↔ d.shape = .record fields := by
  rw [TypeDeclaration.fields]
  cases d.shape <;> simp

/-- The first error is the one that `mapM` fails with. -/
theorem mapM_eq_error {α β ε : Type} {f : α → Except ε β} {before after : List α} {a : α} {e : ε}
    (hbefore : ∀ b ∈ before, ∃ c, f b = .ok c) (ha : f a = .error e) :
    (before ++ a :: after).mapM f = .error e := by
  induction before with
  | nil =>
    rw [List.nil_append, List.mapM_cons, ha]
    rfl
  | cons b before ih =>
    obtain ⟨⟨c, hc⟩, hbefore⟩ := List.forall_mem_cons.1 hbefore
    rw [List.cons_append, List.mapM_cons, hc, ih hbefore]
    rfl

/-- **Fields are described in order**, by induction on the fields: each one is described or left out
in front of the description of those after it. -/
theorem exists_describes {fields : List DeclaredField}
    (hright : ∀ f ∈ fields, ∃ options, Means read f.annotations (.ok options))
    (hnames : ∀ f ∈ fields, ∀ name, f.QueriedAs read name →
      Text.isIdentifier (constantName name) = true) :
    ∃ entries, fields.mapM (DeclaredField.describe read) = .ok entries ∧
      Describes read fields ((entries.filterMap id).map Prod.fst)
        ((entries.filterMap id).map Prod.snd) := by
  induction fields with
  | nil => exact ⟨[], rfl, .nil⟩
  | cons f fields ih =>
    obtain ⟨⟨options, hoptions⟩, hright⟩ := List.forall_mem_cons.1 hright
    obtain ⟨hname, hnames⟩ := List.forall_mem_cons.1 hnames
    obtain ⟨entries, hentries, hdescribes⟩ := ih hright hnames
    -- a field that is left out adds `none`, which `filterMap id` drops
    rcases DeclaredField.exists_describe hoptions hname with
      ⟨hdescribe, hout⟩ | ⟨constant, descriptor, hdescribe, hdescribed⟩
    · refine ⟨none :: entries, ?_, .leftOut hout hdescribes⟩
      rw [List.mapM_cons, hdescribe, hentries]
      rfl
    · refine ⟨some (constant, descriptor) :: entries, ?_, .described hdescribed hdescribes⟩
      rw [List.mapM_cons, hdescribe, hentries]
      rfl

/-- **The description follows the fields** of a record. -/
structure FollowsFields (read : AnnotationReader) (d : TypeDeclaration)
    (fields : List DeclaredField) : Prop where
  /-- The first field whose annotations are in error decides. -/
  wrong : ∀ before f after e, fields = before ++ f :: after →
    (∀ g ∈ before, ∃ options, Means read g.annotations (.ok options)) →
      Means read f.annotations (.error e) → d.describe read = .error e
  /-- Without an error, constants and descriptors are those of the fields, in order and aligned. -/
  right : (∀ f ∈ fields, ∃ options, Means read f.annotations (.ok options)) →
    ∃ r, d.describe read = .ok r ∧ r.target = d.name ∧
      r.constants.length = r.descriptors.length ∧ Describes read fields r.constants r.descriptors

/-- **Descriptions follow the fields** of every record whose names in queries make constants. The
annotations of a field have exactly one outcome, as has each option, and the outcome of a list of
options is that of its options from left to right. -/
theorem describe_follows_fields (read : AnnotationReader) {d : TypeDeclaration}
    {fields : List DeclaredField} (hshape : d.shape = .record fields)
    (hnames : ∀ f ∈ fields, ∀ name, f.QueriedAs read name →
      Text.isIdentifier (constantName name) = true) :
    FollowsFields read d fields ∧
      (∀ annotations, ∃! outcome, Means read annotations outcome) ∧
      (∀ tokens items, read tokens = some items →
        ComesTo items (FieldOptions.ofTokens read tokens)) ∧
      ∀ a, ∃! outcome, Says a outcome := by
  have hfields := d.fields_eq_ok_iff.2 hshape
  refine ⟨⟨?_, fun hright => ?_⟩, existsUnique_means read, fun tokens items hlist => ?_,
    existsUnique_says⟩
  · rintro before f after e rfl hbefore hf
    -- the fields before it are described or left out, so its error is the first
    have hdescribe : ∀ g ∈ before, ∃ entry, g.describe read = .ok entry := by
      intro g hg
      obtain ⟨options, hoptions⟩ := hbefore g hg
      rcases DeclaredField.exists_describe hoptions (hnames g (List.mem_append_left _ hg)) with
        ⟨hnone, -⟩ | ⟨constant, descriptor, hsome, -⟩
      · exact ⟨none, hnone⟩
      · exact ⟨some (constant, descriptor), hsome⟩
    rw [TypeDeclaration.describe, hfields]
    change ((before ++ f :: after).mapM (DeclaredField.describe read) >>= _) = _
    rw [mapM_eq_error hdescribe (DeclaredField.describe_of_error hf)]
    rfl
  · obtain ⟨entries, hentries, hdescribes⟩ := exists_describes hright hnames
    exact ⟨_, (d.describe_eq_ok_iff read _).2 ⟨fields, entries, hfields, hentries, rfl⟩, rfl,
      hdescribes.length_eq, hdescribes⟩
  · rw [FieldOptions.ofTokens, hlist]
    exact comesTo_foldlM items

section Described

variable {d : TypeDeclaration} {fields : List DeclaredField} {r : Description}

/-- If a record is described, every field is described or left out. -/
theorem exists_entry_of_describe (hshape : d.shape = .record fields) (h : d.describe read = .ok r) :
    ∀ f ∈ fields, ∃ entry, f.describe read = .ok entry := by
  intro f hf
  obtain ⟨fields', entries, hfields, hentries, -⟩ := (d.describe_eq_ok_iff read r).1 h
  obtain rfl := Except.ok.inj (hfields.symm.trans (d.fields_eq_ok_iff.2 hshape))
  have hdescribe : f.describe read ∈ fields'.map (DeclaredField.describe read) :=
    List.mem_map_of_mem hf
  rw [mapM_eq_ok_iff.1 hentries] at hdescribe
  obtain ⟨entry, -, hentry⟩ := List.mem_map.1 hdescribe
  exact ⟨entry, hentry.symm⟩

/-- If a record is described, its names in queries make constants. -/
theorem isIdentifier_of_describe (hshape : d.shape = .record fields) (h : d.describe read = .ok r) :
    ∀ f ∈ fields, ∀ name, f.QueriedAs read name → Text.isIdentifier (constantName name) = true := by
  intro f hf name hname
  obtain ⟨entry, hentry⟩ := exists_entry_of_describe hshape h f hf
  rw [isIdentifier_constantName]
  exact DeclaredField.isAnswer_describe_iff.1 (by rw [hentry]; rfl) name hname

/-- If a record is described, no annotations are in error. -/
theorem exists_means_of_describe (hshape : d.shape = .record fields) (h : d.describe read = .ok r) :
    ∀ f ∈ fields, ∃ options, Means read f.annotations (.ok options) := by
  intro f hf
  obtain ⟨entry, hentry⟩ := exists_entry_of_describe hshape h f hf
  obtain ⟨outcome, hmeans, -⟩ := existsUnique_means read f.annotations
  cases outcome with
  | ok options => exact ⟨options, hmeans⟩
  | error e =>
    rw [DeclaredField.describe_of_error hmeans] at hentry
    exact absurd hentry (by simp)

end Described

/-- A record with a field that keeps its name, an optional one whose kind and name are given twice,
a skipped one with a kind, one without a `query` annotation, and one with two of which the first
counts. -/
theorem describe_follows_fields_of_task :
    let text := ("struct Task \x7b #[query(String)] title: String, " ++
      "#[query(Number, rename = \"state\", ty = \"enum\", rename = \"level\")] " ++
      "state: std::option::Option<Level>, #[query(Number, skip)] id: u64, " ++
      "#[doc(hidden)] notes: String, #[query(Bool)] #[query(rename = 1)] done: bool \x7d").toList
    let constants : List Constant := [⟨"TITLE".toList, "title".toList⟩,
      ⟨"LEVEL".toList, "level".toList⟩, ⟨"DONE".toList, "done".toList⟩]
    let descriptors : List Descriptor := [⟨"title".toList, .text, false, "title".toList⟩,
      ⟨"level".toList, .enum [.word "Level".toList], true, "state".toList⟩,
      ⟨"done".toList, .bool, false, "done".toList⟩]
    ∃ d fields, (tokenize text).bind TypeDeclaration.ofTokens? = some d ∧
      d.shape = .record fields ∧
      (∀ f ∈ fields, ∀ name, f.QueriedAs Annotation.listOfTokens? name →
        Text.isIdentifier (constantName name) = true) ∧
      Describes Annotation.listOfTokens? fields constants descriptors := by
  intro text constants descriptors
  have hread : Description.ofText text = .ok ⟨"Task".toList, constants, descriptors⟩ := by
    decide +kernel
  obtain ⟨d, hd, hdescribe⟩ := Description.ofText_eq_ok_iff.1 hread
  obtain ⟨fields, _, hfields, -, -⟩ := (d.describe_eq_ok_iff _ _).1 hdescribe
  have hshape := d.fields_eq_ok_iff.1 hfields
  have hnames := isIdentifier_of_describe hshape hdescribe
  obtain ⟨hfollows, -⟩ := describe_follows_fields _ hshape hnames
  obtain ⟨r, hr, -, -, hdescribes⟩ := hfollows.right (exists_means_of_describe hshape hdescribe)
  obtain rfl := Except.ok.inj (hr.symm.trans hdescribe)
  exact ⟨d, fields, hd, hshape, hnames, hdescribes⟩

end RecordQuery.Declaration

import Mathlib.Data.List.Induction
import RecordQuery.Declaration.FieldOptions

/-!
# Lists of options

`FieldOptions.ofTokens` applies the options from left to right: the first error ends it, and a later
option overrides an earlier one. Here the outcome is specified without that order of events.

* `Says` is the effect of a single option by its form: a `Remark` on the field, or a refusal. Every
  option has exactly one effect (`existsUnique_says`), and `FieldOptions.add` applies it
  (`FieldOptions.add_of_says`).
* `ComesTo` is the outcome of a list. The leftmost option in error decides. Otherwise the field is
  skipped if some option is `skip`, and its kind and its rename are the last ones that are given
  (`IsLast`).

Folding `add` over the list has this outcome (`comesTo_foldlM`), which is unique (`ComesTo.unique`).
-/

namespace RecordQuery.Declaration

/-! ### Names of kinds -/

namespace FieldSort

/-- Whether the name is one of the names of the kind. -/
def HasName (sort : FieldSort) (name : Text) : Prop :=
  ∃ entry ∈ names, entry.1 = sort ∧ ∃ n ∈ entry.2, n.toList = name

/-- No name belongs to two kinds. -/
theorem ofName?_eq_some_iff {sort : FieldSort} {name : Text} :
    ofName? name = some sort ↔ sort.HasName name := by
  constructor
  · intro h
    obtain ⟨entry, hentry, rfl⟩ := Option.map_eq_some_iff.1 h
    have hany := List.find?_some hentry
    simp only [List.any_eq_true, decide_eq_true_eq] at hany
    obtain ⟨n, hn, hname⟩ := hany
    exact ⟨entry, List.mem_of_find?_eq_some hentry, rfl, n, hn, hname⟩
  · rintro ⟨entry, hentry, rfl, n, hn, rfl⟩
    have hnames : ∀ e ∈ names, ∀ n ∈ e.2, ofName? n.toList = some e.1 := by decide
    exact hnames entry hentry n hn

theorem ofName?_eq_none_iff {name : Text} :
    ofName? name = none ↔ ∀ sort : FieldSort, ¬ sort.HasName name := by
  simp only [Option.eq_none_iff_forall_ne_some, ne_eq, ofName?_eq_some_iff]

end FieldSort

/-! ### Single options -/

/-- The effect of an option on a field. -/
inductive Remark where
  /-- The field is skipped. -/
  | skip
  | kind (sort : FieldSort)
  /-- The field has another name in queries. -/
  | rename (name : Text)

/-- **The effect of an option** by its form: a word, a key with a value, or a list. -/
inductive Says : Annotation → Except Refusal Remark → Prop where
  | skip {a : Annotation} :
    a.content = .nothing → a.name? = some "skip".toList → Says a (.ok .skip)
  | kind {a : Annotation} {word : Text} {sort : FieldSort} :
    a.content = .nothing → a.name? = some word → sort.HasName word → Says a (.ok (.kind sort))
  | unknownKind {a : Annotation} {word : Text} :
    a.content = .nothing → a.name? = some word → word ≠ "skip".toList →
      (∀ sort : FieldSort, ¬ sort.HasName word) → Says a (.error (.unknownKind word))
  /-- A path of more than one segment. -/
  | noWord {a : Annotation} :
    a.content = .nothing → a.name? = none → Says a (.error .kindWithPath)
  | rename {a : Annotation} {name : Text} :
    a.content = .value (some name) → a.name? = some "rename".toList → name ≠ [] →
      Says a (.ok (.rename name))
  | emptyRename {a : Annotation} :
    a.content = .value (some []) → a.name? = some "rename".toList → Says a (.error .emptyRename)
  | kindText {a : Annotation} {word : Text} {sort : FieldSort} :
    a.content = .value (some word) → a.name? = some "ty".toList → sort.HasName word →
      Says a (.ok (.kind sort))
  | unknownKindText {a : Annotation} {word : Text} :
    a.content = .value (some word) → a.name? = some "ty".toList →
      (∀ sort : FieldSort, ¬ sort.HasName word) → Says a (.error (.unknownKind word))
  /-- A value other than a string literal. -/
  | noText {a : Annotation} {key : OptionKey} :
    a.content = .value none → a.name? = some key.name.toList → Says a (.error (.valueNotText key))
  | unknownKey {a : Annotation} {value : Option Text} :
    a.content = .value value → (∀ key : OptionKey, a.name? ≠ some key.name.toList) →
      Says a (.error .unknownKey)
  | list {a : Annotation} {tokens : List Token} :
    a.content = .list tokens → Says a (.error .unknownOption)

namespace FieldOptions

/-- Applies a remark to the options. -/
def note (options : FieldOptions) : Remark → FieldOptions
  | .skip => { options with skip := true }
  | .kind sort => { options with kind := some sort }
  | .rename name => { options with rename := some name }

/-- Applies the effect of an option. -/
def after (options : FieldOptions) : Except Refusal Remark → Except DeclarationError FieldOptions
  | .ok remark => .ok (options.note remark)
  | .error cause => .error (.refused cause)

theorem withKind_of_hasName {sort : FieldSort} {word : Text} (h : sort.HasName word)
    (options : FieldOptions) : options.withKind word = .ok (options.note (.kind sort)) := by
  rw [withKind, FieldSort.ofName?_eq_some_iff.2 h]
  rfl

theorem withKind_of_not_hasName {word : Text} (h : ∀ sort : FieldSort, ¬ sort.HasName word)
    (options : FieldOptions) : options.withKind word = .error (.refused (.unknownKind word)) := by
  rw [withKind, FieldSort.ofName?_eq_none_iff.2 h]

theorem withValue_kind (options : FieldOptions) (word : Text) :
    options.withValue .kind (some word) = options.withKind word := by
  cases word <;> rfl

theorem add_of_word {a : Annotation} {word : Text} (hcontent : a.content = .nothing)
    (hname : a.name? = some word) (options : FieldOptions) :
    options.add a = if word = "skip".toList then .ok (options.note .skip)
      else options.withKind word := by
  rw [add.eq_def, hcontent, hname]
  rfl

theorem add_of_key (key : OptionKey) {a : Annotation} {value : Option Text}
    (hcontent : a.content = .value value) (hname : a.name? = some key.name.toList)
    (options : FieldOptions) : options.add a = options.withValue key value := by
  have hkey : key? a = some key := by
    rw [key?, hname]
    cases key <;> decide
  simp only [add, hcontent, hkey]

/-- **`add` applies the effect of the option.** -/
theorem add_of_says {a : Annotation} {outcome : Except Refusal Remark} (h : Says a outcome)
    (options : FieldOptions) : options.add a = options.after outcome := by
  cases h with
  | skip hcontent hname => rw [add_of_word hcontent hname, if_pos rfl]; rfl
  | @kind word _ hcontent hname hsort =>
    -- `skip` is no name of a kind
    have hskip : word ≠ "skip".toList := by
      rintro rfl
      have hnone : FieldSort.ofName? "skip".toList = none := by decide
      exact absurd hsort (FieldSort.ofName?_eq_none_iff.1 hnone _)
    rw [add_of_word hcontent hname, if_neg hskip]
    exact withKind_of_hasName hsort options
  | unknownKind hcontent hname hskip hword =>
    rw [add_of_word hcontent hname, if_neg hskip]
    exact withKind_of_not_hasName hword options
  | noWord hcontent hname =>
    rw [add.eq_def, hcontent, hname]
    rfl
  | @rename name hcontent hname hne =>
    obtain ⟨c, rest, rfl⟩ := List.exists_cons_of_ne_nil hne
    exact add_of_key .rename hcontent hname options
  | emptyRename hcontent hname => exact add_of_key .rename hcontent hname options
  | kindText hcontent hname hsort =>
    rw [add_of_key .kind hcontent hname, withValue_kind]
    exact withKind_of_hasName hsort options
  | unknownKindText hcontent hname hword =>
    rw [add_of_key .kind hcontent hname, withValue_kind]
    exact withKind_of_not_hasName hword options
  | @noText key hcontent hname =>
    rw [add_of_key key hcontent hname]
    cases key <;> rfl
  | unknownKey hcontent hname =>
    have hkey : key? a = none := by
      rw [key?, List.find?_eq_none]
      intro key _
      simpa using hname key
    simp only [add, hcontent, hkey]
    rfl
  | list hcontent =>
    rw [add.eq_def, hcontent]
    rfl

theorem note_injective {remark remark' : Remark} (h : empty.note remark = empty.note remark') :
    remark = remark' := by
  cases remark <;> cases remark' <;> simp_all [note, empty]

end FieldOptions

/-- Every option has an effect. -/
theorem exists_says (a : Annotation) : ∃ outcome, Says a outcome := by
  -- the content selects the constructors that can apply, the name one of them
  cases hcontent : a.content with
  | nothing =>
    cases hname : a.name? with
    | none => exact ⟨_, .noWord hcontent hname⟩
    | some word =>
      by_cases hskip : word = "skip".toList
      · exact ⟨_, .skip hcontent (hskip ▸ hname)⟩
      · by_cases hsort : ∃ sort : FieldSort, sort.HasName word
        · obtain ⟨sort, hsort⟩ := hsort
          exact ⟨_, .kind hcontent hname hsort⟩
        · exact ⟨_, .unknownKind hcontent hname hskip (not_exists.1 hsort)⟩
  | list tokens => exact ⟨_, .list hcontent⟩
  | value value =>
    by_cases hkey : ∃ key : OptionKey, a.name? = some key.name.toList
    · obtain ⟨key, hname⟩ := hkey
      cases value with
      | none => exact ⟨_, .noText hcontent hname⟩
      | some text =>
        cases key with
        | rename =>
          by_cases hempty : text = []
          · exact ⟨_, .emptyRename (hempty ▸ hcontent) hname⟩
          · exact ⟨_, .rename hcontent hname hempty⟩
        | kind =>
          by_cases hsort : ∃ sort : FieldSort, sort.HasName text
          · obtain ⟨sort, hsort⟩ := hsort
            exact ⟨_, .kindText hcontent hname hsort⟩
          · exact ⟨_, .unknownKindText hcontent hname (not_exists.1 hsort)⟩
    · exact ⟨_, .unknownKey hcontent (not_exists.1 hkey)⟩

namespace Says

variable {a : Annotation} {outcome outcome' : Except Refusal Remark} {remark remark' : Remark}

/-- The effect is unique, because `add` tells the effects apart. -/
theorem unique (h : Says a outcome) (h' : Says a outcome') : outcome' = outcome := by
  have hadd := (FieldOptions.add_of_says h' .empty).symm.trans (FieldOptions.add_of_says h .empty)
  cases outcome with
  | error cause =>
    cases outcome' with
    | error cause' => rw [DeclarationError.refused.inj (Except.error.inj hadd)]
    | ok remark' => exact absurd hadd (by simp [FieldOptions.after])
  | ok remark =>
    cases outcome' with
    | error cause' => exact absurd hadd (by simp [FieldOptions.after])
    | ok remark' => rw [FieldOptions.note_injective (Except.ok.inj hadd)]

theorem ok_unique (h : Says a (.ok remark)) (h' : Says a (.ok remark')) : remark' = remark :=
  Except.ok.inj (h.unique h')

end Says

/-- **Every option has exactly one effect.** -/
theorem existsUnique_says (a : Annotation) : ∃! outcome, Says a outcome := by
  obtain ⟨outcome, h⟩ := exists_says a
  exact ⟨outcome, h, fun _ h' => h.unique h'⟩

/-! ### Lists of options -/

section Last

variable {α β : Type} {gives : α → β → Prop} {items : List α}

/-- The value that the last item with a value has, if any item has one. -/
def IsLast (gives : α → β → Prop) (items : List α) : Option β → Prop
  | some b => ∃ before a later, items = before ++ a :: later ∧ gives a b ∧
      ∀ other ∈ later, ∀ c, ¬ gives other c
  | none => ∀ a ∈ items, ∀ b, ¬ gives a b

theorem isLast_concat_of_gives {a : α} {b : β} (h : gives a b) :
    IsLast gives (items ++ [a]) (some b) :=
  ⟨items, a, [], rfl, h, fun _ hother => absurd hother List.not_mem_nil⟩

namespace IsLast

theorem concat {last : Option β} (h : IsLast gives items last) {a : α}
    (ha : ∀ b, ¬ gives a b) : IsLast gives (items ++ [a]) last := by
  cases last with
  | none => exact List.forall_mem_append.2 ⟨h, List.forall_mem_singleton.2 ha⟩
  | some b =>
    obtain ⟨before, giver, later, rfl, hgives, hlater⟩ := h
    exact ⟨before, giver, later ++ [a], by rw [List.append_assoc]; rfl, hgives,
      List.forall_mem_append.2 ⟨hlater, List.forall_mem_singleton.2 ha⟩⟩

/-- Nothing with a value comes after the last item with one. -/
theorem eq_of_beyond {before beyond later later' : List α} {a a' : α} {b b' : β}
    (hunique : ∀ a b c, gives a b → gives a c → c = b) (hgives : gives a b)
    (hlater : ∀ other ∈ later, ∀ c, ¬ gives other c) (hgives' : gives a' b')
    (h : before ++ a :: later = (before ++ beyond) ++ a' :: later') : b' = b := by
  rw [List.append_assoc, List.append_cancel_left_eq] at h
  cases beyond with
  | nil =>
    obtain ⟨rfl, -⟩ := List.cons.inj h
    exact hunique a b b' hgives hgives'
  | cons c beyond =>
    obtain ⟨-, rfl⟩ := List.cons.inj h
    exact absurd hgives' (hlater a' (by simp) b')

/-- The last value is unique. -/
theorem unique {last last' : Option β} (hunique : ∀ a b c, gives a b → gives a c → c = b)
    (h : IsLast gives items last) (h' : IsLast gives items last') : last' = last := by
  cases last with
  | none =>
    cases last' with
    | none => rfl
    | some b' =>
      obtain ⟨before, a, later, rfl, hgives, -⟩ := h'
      exact absurd hgives (h a (by simp) b')
  | some b =>
    obtain ⟨before, a, later, rfl, hgives, hlater⟩ := h
    cases last' with
    | none => exact absurd hgives (h' a (by simp) b)
    | some b' =>
      obtain ⟨before', a', later', heq, hgives', hlater'⟩ := h'
      -- one of the two items comes before the other, or they are the same
      rcases List.append_eq_append_iff.1 heq with ⟨beyond, rfl, -⟩ | ⟨beyond, rfl, -⟩
      · rw [eq_of_beyond hunique hgives hlater hgives' heq]
      · rw [eq_of_beyond hunique hgives' hlater' hgives heq.symm]

end IsLast

/-- All items satisfy the predicate, or there is a first one that does not. -/
theorem forall_or_exists_first (P : α → Prop) (items : List α) :
    (∀ a ∈ items, P a) ∨ ∃ before a later, items = before ++ a :: later ∧
      (∀ b ∈ before, P b) ∧ ¬ P a := by
  induction items with
  | nil => exact .inl fun a ha => absurd ha List.not_mem_nil
  | cons first items ih =>
    by_cases hfirst : P first
    · rcases ih with hall | ⟨before, a, later, rfl, hbefore, ha⟩
      · exact .inl (List.forall_mem_cons.2 ⟨hfirst, hall⟩)
      · exact .inr ⟨first :: before, a, later, rfl, List.forall_mem_cons.2 ⟨hfirst, hbefore⟩, ha⟩
    · exact .inr ⟨[], first, items, rfl, fun b hb => absurd hb List.not_mem_nil, hfirst⟩

end Last

/-- Whether the option is not in error. -/
def IsRight (a : Annotation) : Prop := ∃ remark, Says a (.ok remark)

theorem exists_cause_of_not_isRight {a : Annotation} (h : ¬ IsRight a) :
    ∃ cause, Says a (.error cause) := by
  obtain ⟨outcome, hsays⟩ := exists_says a
  cases outcome with
  | error cause => exact ⟨cause, hsays⟩
  | ok remark => exact absurd ⟨remark, hsays⟩ h

/-- The options together: the field is skipped if one of them is `skip`, and kind and rename are the
last ones given. -/
structure SayTogether (items : List Annotation) (options : FieldOptions) : Prop where
  skip_iff : options.skip = true ↔ ∃ a ∈ items, Says a (.ok .skip)
  kind : IsLast (fun a sort => Says a (.ok (.kind sort))) items options.kind
  rename : IsLast (fun a name => Says a (.ok (.rename name))) items options.rename

namespace SayTogether

variable {items : List Annotation} {options : FieldOptions}

/-- Without options nothing is set. -/
theorem nil : SayTogether [] .empty := by
  constructor <;> simp [IsLast, FieldOptions.empty]

/-- **One more option** at the end applies its effect, and keeps the rest. -/
theorem concat (h : SayTogether items options) {a : Annotation} {remark : Remark}
    (ha : Says a (.ok remark)) : SayTogether (items ++ [a]) (options.note remark) := by
  have hskip : (∃ b ∈ items ++ [a], Says b (.ok .skip)) ↔
      options.skip = true ∨ Says a (.ok .skip) := by
    simp only [List.mem_append, List.mem_singleton, or_and_right, exists_or, exists_eq_left,
      h.skip_iff]
  -- the effect sets its own option; the other two are what they were
  cases remark with
  | skip =>
    refine ⟨?_, h.kind.concat fun sort hsort => ?_, h.rename.concat fun name hname => ?_⟩
    · rw [hskip]
      exact iff_of_true rfl (.inr ha)
    · exact absurd (ha.ok_unique hsort) (by simp)
    · exact absurd (ha.ok_unique hname) (by simp)
  | kind sort =>
    refine ⟨?_, isLast_concat_of_gives ha, h.rename.concat fun name hname => ?_⟩
    · rw [hskip, or_iff_left fun hsays => absurd (ha.ok_unique hsays) (by simp)]
      rfl
    · exact absurd (ha.ok_unique hname) (by simp)
  | rename name =>
    refine ⟨?_, h.kind.concat fun sort hsort => ?_, isLast_concat_of_gives ha⟩
    · rw [hskip, or_iff_left fun hsays => absurd (ha.ok_unique hsays) (by simp)]
      rfl
    · exact absurd (ha.ok_unique hsort) (by simp)

/-- The options together are unique. -/
theorem unique {options' : FieldOptions} (h : SayTogether items options)
    (h' : SayTogether items options') : options' = options := by
  have hskip : options'.skip = options.skip := by
    rw [Bool.eq_iff_iff, h'.skip_iff, h.skip_iff]
  have hkind : options'.kind = options.kind := IsLast.unique
    (fun a b c hb hc => Remark.kind.inj (hb.ok_unique hc)) h.kind h'.kind
  have hrename : options'.rename = options.rename := IsLast.unique
    (fun a b c hb hc => Remark.rename.inj (hb.ok_unique hc)) h.rename h'.rename
  obtain ⟨kind, skip, rename⟩ := options
  obtain ⟨kind', skip', rename'⟩ := options'
  obtain rfl : kind' = kind := hkind
  obtain rfl : skip' = skip := hskip
  obtain rfl : rename' = rename := hrename
  rfl

end SayTogether

/-- Folding `add` over options without an error, by induction from the right, because the last
option wins. -/
theorem exists_sayTogether {items : List Annotation} (h : ∀ a ∈ items, IsRight a) :
    ∃ options, items.foldlM FieldOptions.add .empty = .ok options ∧
      SayTogether items options := by
  -- by induction from the last option, which is the one that the fold applies last
  induction items using List.reverseRecOn with
  | nil => exact ⟨.empty, rfl, .nil⟩
  | append_singleton items a ih =>
    rw [List.forall_mem_append, List.forall_mem_singleton] at h
    obtain ⟨hitems, remark, ha⟩ := h
    obtain ⟨options, hoptions, htogether⟩ := ih hitems
    refine ⟨options.note remark, ?_, htogether.concat ha⟩
    rw [List.foldlM_append, hoptions]
    change options.add a >>= pure = _
    rw [bind_pure, FieldOptions.add_of_says ha]
    rfl

/-- **The outcome of a list of options.** -/
structure ComesTo (items : List Annotation) (outcome : Except DeclarationError FieldOptions) :
    Prop where
  /-- The leftmost option in error decides. -/
  wrong : ∀ before a later cause, items = before ++ a :: later → (∀ b ∈ before, IsRight b) →
    Says a (.error cause) → outcome = .error (.refused cause)
  /-- Without an error, the outcome are the options together. -/
  right : (∀ a ∈ items, IsRight a) → ∃ options, outcome = .ok options ∧ SayTogether items options

/-- The outcome is unique. -/
theorem ComesTo.unique {items : List Annotation}
    {outcome outcome' : Except DeclarationError FieldOptions} (h : ComesTo items outcome)
    (h' : ComesTo items outcome') : outcome' = outcome := by
  rcases forall_or_exists_first IsRight items with hall | ⟨before, a, later, heq, hbefore, ha⟩
  · obtain ⟨options, rfl, htogether⟩ := h.right hall
    obtain ⟨options', rfl, htogether'⟩ := h'.right hall
    rw [htogether.unique htogether']
  · obtain ⟨cause, hcause⟩ := exists_cause_of_not_isRight ha
    rw [h.wrong before a later cause heq hbefore hcause,
      h'.wrong before a later cause heq hbefore hcause]

/-- **Folding `add` has the outcome of the list.** -/
theorem comesTo_foldlM (items : List Annotation) :
    ComesTo items (items.foldlM FieldOptions.add .empty) where
  wrong := by
    rintro before a later cause rfl hbefore ha
    obtain ⟨options, hoptions, -⟩ := exists_sayTogether hbefore
    rw [List.foldlM_append, hoptions]
    change options.add a >>= (fun b => later.foldlM FieldOptions.add b) = _
    rw [FieldOptions.add_of_says ha]
    rfl
  right hall := exists_sayTogether hall

end RecordQuery.Declaration

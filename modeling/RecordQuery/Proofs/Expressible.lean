import RecordQuery.Operation.Printer
import RecordQuery.Proofs.SmallLetters

/-!
# Expressible operations

Which operations can be serialized so that they compile to themselves again. The dialects are the
plain ones (`Dialect.Plain`): checked, lower-cased, with separators that are neither letters nor
digits, and with marks none of which is a prefix of another. In such a dialect an operation is
*expressible* (`Operation.Expressible`) if it is

* *spelled* (`Operation.Spelled`): its names are not empty, lower-cased and free of the delimiters
  of their segment;
* *apart* (`Operation.Apart`): its rendered form does not begin with a mark of another row of the
  segment table.

The rendered form of a spelled operation is *quiet* (`quiet_render`): `serialize` does not change
it, and the separator does not occur in it. That it is decoded to the operation needs
`Operation.Apart`, and is proved in `Proofs/RoundTrip.lean`.
-/

namespace RecordQuery

/-! ### Plain dialects -/

namespace Dialect

/-- The marks of the segment table, in the order of its rows. -/
def openings (d : Dialect) : List Text := [d.pageMark, d.skipMark, d.takeMark, d.sortMark]

/-- **Plain dialects**: checked and lower-cased, with separators that are neither letters nor
digits, marks that are no prefixes of one another, and words that decode to nothing else. -/
structure Plain (d : Dialect) : Prop where
  check : d.check = .ok ()
  lower_delimiters : ∀ c ∈ [d.separator, d.innerSeparator, d.listDelimiter],
    Text.lower [c] = [c]
  lower_marks : ∀ m ∈ d.marks, Text.lower m.2 = m.2
  lower_words : ∀ w ∈ [d.takeAll, d.nullWord], Text.lower w = w
  separators : ∀ c ∈ [d.separator, d.innerSeparator], c.isAlphanum = false
  openings_apart : d.openings.Pairwise fun m m' => ¬ m <+: m' ∧ ¬ m' <+: m
  takeAll : d.separator ∉ d.takeAll ∧ Text.word64? d.takeAll = none
  nullWord : d.separator ∉ d.nullWord ∧ d.innerSeparator ∉ d.nullWord

/-- The default dialect is plain. -/
theorem plain_default : Plain {} where
  check := by decide
  lower_delimiters := Text.forall_mem_of_all (by decide)
  lower_marks := by decide
  lower_words := by decide
  separators := Text.forall_mem_of_all (by decide)
  openings_apart := by decide
  takeAll := by decide
  nullWord := by decide

end Dialect

/-! ### Expressible operations -/

/-- A text that can be a part of a segment: lower-cased, without the separators. -/
def Dialect.Part (d : Dialect) (t : Text) : Prop :=
  Text.lower t = t ∧ d.separator ∉ t ∧ d.innerSeparator ∉ t

instance (d : Dialect) (t : Text) : Decidable (d.Part t) := inferInstanceAs (Decidable (_ ∧ _))

/-- The value is null, or a text other than `nullWord`. -/
def FilterValue.Spelled (d : Dialect) : FilterValue → Prop
  | .text t => d.Part t ∧ t ≠ d.nullWord
  | .null => True

instance (d : Dialect) : DecidablePred (FilterValue.Spelled d)
  | .text _ => inferInstanceAs (Decidable (_ ∧ _))
  | .null => inferInstanceAs (Decidable True)

/-- **Spelled operations**: columns and fields are not empty, and no name or text contains a
delimiter of its segment. Skips, takes and pages are always spelled. -/
def Operation.Spelled (d : Dialect) : Operation → Prop
  | .sort s => ∀ c ∈ s.columns, c ≠ [] ∧ d.separator ∉ c ∧ d.listDelimiter ∉ c
  | .filter f => f.field ≠ [] ∧ d.Part f.field ∧ f.value.Spelled d
  | .skip _ | .take _ | .page _ => True

instance (d : Dialect) : DecidablePred (Operation.Spelled d)
  | .sort s => inferInstanceAs (Decidable (∀ c ∈ s.columns, _))
  | .filter _ => inferInstanceAs (Decidable (_ ∧ _ ∧ _))
  | .skip _ | .take _ | .page _ => inferInstanceAs (Decidable True)

/-- **Operations apart**: the columns of an ascending sort do not begin with `descendingMark`, and a
filter does not begin with the mark of another row. -/
def Operation.Apart (d : Dialect) : Operation → Prop
  | .sort s =>
    s.descending = false → ¬ d.descendingMark <+: [d.listDelimiter].intercalate s.columns
  | .filter f => ∀ m ∈ d.openings, ¬ m <+: f.render d
  | .skip _ | .take _ | .page _ => True

instance (d : Dialect) : DecidablePred (Operation.Apart d)
  | .sort s => inferInstanceAs (Decidable (s.descending = false → ¬ _ <+: _))
  | .filter _ => inferInstanceAs (Decidable (∀ m ∈ d.openings, _))
  | .skip _ | .take _ | .page _ => inferInstanceAs (Decidable True)

/-- **Expressible operations**: spelled and apart. -/
def Operation.Expressible (d : Dialect) (op : Operation) : Prop := op.Spelled d ∧ op.Apart d

instance (d : Dialect) : DecidablePred (Operation.Expressible d) :=
  fun _ => inferInstanceAs (Decidable (_ ∧ _))

/-! ### Quiet texts -/

/-- A property of the delimiter and of all characters of the parts holds of all characters of the
joined text. -/
theorem Text.forall_mem_intercalate {P : Char → Prop} {delimiter : Char} {parts : List Text}
    (hdelimiter : P delimiter) (hparts : ∀ p ∈ parts, ∀ c ∈ p, P c) :
    ∀ c ∈ [delimiter].intercalate parts, P c := by
  induction parts with
  | nil => exact fun c hc => absurd hc List.not_mem_nil
  | cons p parts ih =>
    obtain ⟨hp, hrest⟩ := List.forall_mem_cons.1 hparts
    cases parts with
    | nil =>
      rw [List.intercalate_singleton]
      exact hp
    | cons q parts =>
      rw [List.intercalate_cons_cons, List.forall_mem_append, List.forall_mem_append]
      exact ⟨⟨hp, List.forall_mem_singleton.2 hdelimiter⟩, ih hrest⟩

/-- Every character is settled and not the separator, so `serialize` neither changes nor splits the
text. -/
def Dialect.Quiet (d : Dialect) (t : Text) : Prop := ∀ c ∈ t, Text.Settled c ∧ c ≠ d.separator

namespace Dialect

variable {d : Dialect}

theorem quiet_nil : d.Quiet [] := fun _ hc => absurd hc List.not_mem_nil

theorem Quiet.append {s t : Text} (hs : d.Quiet s) (ht : d.Quiet t) : d.Quiet (s ++ t) := by
  intro c hc
  rcases List.mem_append.1 hc with hc | hc
  · exact hs c hc
  · exact ht c hc

theorem Quiet.cons {c : Char} {t : Text} (hc : Text.Settled c ∧ c ≠ d.separator)
    (ht : d.Quiet t) : d.Quiet (c :: t) := by
  intro e he
  rcases List.mem_cons.1 he with rfl | he
  · exact hc
  · exact ht e he

theorem Quiet.settled {t : Text} (h : d.Quiet t) : ∀ c ∈ t, Text.Settled c :=
  fun c hc => (h c hc).1

theorem Quiet.separator_notMem {t : Text} (h : d.Quiet t) : d.separator ∉ t :=
  fun hmem => (h _ hmem).2 rfl

theorem quiet_of_lower {t : Text} (hlower : Text.lower t = t) (hsep : d.separator ∉ t) :
    d.Quiet t := by
  intro c hc
  refine ⟨(Text.lower_eq_self_iff t).1 hlower c hc, ?_⟩
  rintro rfl
  exact hsep hc

/-- Numerals are quiet unless the separator is a digit. -/
theorem quiet_ofNat (hdigit : d.separator.isDigit = false) (n : Nat) : d.Quiet (Text.ofNat n) := by
  intro c hc
  refine ⟨Text.settled_of_mem_ofNat hc, ?_⟩
  rintro rfl
  exact Text.notMem_ofNat hdigit n hc

theorem quiet_intercalate {delimiter : Char} {parts : List Text}
    (hdelimiter : Text.Settled delimiter ∧ delimiter ≠ d.separator)
    (hparts : ∀ p ∈ parts, d.Quiet p) : d.Quiet ([delimiter].intercalate parts) :=
  Text.forall_mem_intercalate hdelimiter hparts

/-! ### The syntax of a plain dialect is quiet -/

namespace Plain

variable (h : d.Plain)
include h

theorem settled_delimiter {c : Char}
    (hc : c ∈ [d.separator, d.innerSeparator, d.listDelimiter]) : Text.Settled c :=
  (Text.lower_eq_self_iff _).1 (h.lower_delimiters c hc) c (List.mem_singleton_self c)

theorem no_fault : d.fault? = none := (check_eq_ok_iff d).1 h.check

/-- The delimiters inside of a segment are not the separator. -/
theorem quiet_delimiter {c : Char} (hc : c ∈ [d.innerSeparator, d.listDelimiter]) :
    Text.Settled c ∧ c ≠ d.separator := by
  obtain ⟨hinner, hlist, -⟩ := ((fault?_eq_none_iff d).1 h.no_fault).1
  refine ⟨h.settled_delimiter (List.mem_cons_of_mem _ hc), ?_⟩
  rintro rfl
  rcases List.mem_cons.1 hc with heq | hc
  · exact hinner heq
  · exact hlist (List.mem_singleton.1 hc)

theorem quiet_mark {m : Mark × Text} (hm : m ∈ d.marks) : d.Quiet m.2 :=
  quiet_of_lower (h.lower_marks m hm) (((fault?_eq_none_iff d).1 h.no_fault).2.1 m hm).2

theorem mark_ne_nil {m : Mark × Text} (hm : m ∈ d.marks) : m.2 ≠ [] :=
  (((fault?_eq_none_iff d).1 h.no_fault).2.1 m hm).1

/-- A mark in front of a quiet text is quiet. -/
theorem quiet_marked {m : Mark × Text} (hm : m ∈ d.marks) {t : Text} (ht : d.Quiet t) :
    d.Quiet (m.2 ++ t) ∧ m.2 ++ t ≠ [] :=
  ⟨(h.quiet_mark hm).append ht,
    fun hnil => h.mark_ne_nil hm (List.append_eq_nil_iff.1 hnil).1⟩

theorem quiet_takeAll : d.Quiet d.takeAll :=
  quiet_of_lower (h.lower_words _ (by simp)) h.takeAll.1

theorem quiet_nullWord : d.Quiet d.nullWord :=
  quiet_of_lower (h.lower_words _ (by simp)) h.nullWord.1

/-- Neither separator is a digit. -/
theorem isDigit_separator {c : Char} (hc : c ∈ [d.separator, d.innerSeparator]) :
    c.isDigit = false :=
  (Bool.or_eq_false_iff.1 (h.separators c hc)).2

theorem separator_notMem_ofNat {c : Char} (hc : c ∈ [d.separator, d.innerSeparator]) (n : Nat) :
    c ∉ Text.ofNat n :=
  Text.notMem_ofNat (h.isDigit_separator hc) n

/-- Neither separator occurs in the token of a comparator. -/
theorem separator_notMem_token {c : Char} (hc : c ∈ [d.separator, d.innerSeparator])
    (comparator : Comparator) : c ∉ comparator.token := by
  intro hmem
  have halpha : ∀ e ∈ comparator.token, e.isAlpha = true :=
    Text.forall_mem_of_all (by cases comparator <;> decide)
  have hno := h.separators c hc
  rw [Char.isAlphanum, halpha c hmem, Bool.true_or] at hno
  exact absurd hno (by simp)

theorem quiet_ofNat (n : Nat) : d.Quiet (Text.ofNat n) :=
  Dialect.quiet_ofNat (h.isDigit_separator (by simp)) n

theorem quiet_token (comparator : Comparator) : d.Quiet comparator.token := by
  intro c hc
  refine ⟨Text.settled_of_mem_token hc, ?_⟩
  rintro rfl
  exact h.separator_notMem_token (by simp) comparator hc

end Plain

end Dialect

/-! ### Rendered operations are quiet -/

/-- **A spelled operation renders to a quiet text**, which is not empty. -/
theorem quiet_render {d : Dialect} (h : d.Plain) {op : Operation} (hspelled : op.Spelled d) :
    d.Quiet (op.render d) ∧ op.render d ≠ [] := by
  cases op with
  | sort s =>
    have hcolumns : ∀ c ∈ s.columns, d.Quiet c := fun c hc =>
      Dialect.quiet_of_lower (s.lower_columns c hc) (hspelled c hc).2.1
    -- the sort mark, the descending mark if there is one, and the columns
    rw [Operation.render, Sorting.render, List.append_assoc]
    refine h.quiet_marked (m := (.sort, d.sortMark)) (by simp [Dialect.marks])
      (Dialect.Quiet.append ?_ (Dialect.quiet_intercalate (h.quiet_delimiter (by simp)) hcolumns))
    split
    · exact h.quiet_mark (m := (.descending, d.descendingMark)) (by simp [Dialect.marks])
    · exact Dialect.quiet_nil
  | skip count =>
    exact h.quiet_marked (m := (.skip, d.skipMark)) (by simp [Dialect.marks])
      (h.quiet_ofNat _)
  | take limit =>
    cases limit with
    | count n =>
      exact h.quiet_marked (m := (.take, d.takeMark)) (by simp [Dialect.marks])
        (h.quiet_ofNat _)
    | unbounded =>
      exact h.quiet_marked (m := (.take, d.takeMark)) (by simp [Dialect.marks])
        h.quiet_takeAll
  | page p =>
    -- the page mark, the number, and the size if it is written
    rw [Operation.render, Page.render, List.append_assoc]
    refine h.quiet_marked (m := (.page, d.pageMark)) (by simp [Dialect.marks])
      ((h.quiet_ofNat _).append ?_)
    split
    · exact Dialect.quiet_nil
    · exact Dialect.Quiet.cons (h.quiet_delimiter (by simp)) (h.quiet_ofNat _)
  | filter f =>
    obtain ⟨hfield, hpart, hvalue⟩ := hspelled
    have hrender : d.Quiet (f.value.render d) := by
      cases hv : f.value with
      | null => exact h.quiet_nullWord
      | text t =>
        rw [hv] at hvalue
        exact Dialect.quiet_of_lower hvalue.1.1 hvalue.1.2.1
    -- a filter has no mark: it is not empty because its field is not
    rw [Operation.render, Filter.render, List.append_assoc]
    refine ⟨(Dialect.quiet_of_lower hpart.1 hpart.2.1).append
      ((Dialect.Quiet.cons (h.quiet_delimiter (by simp)) (h.quiet_token _)).append
        (Dialect.Quiet.cons (h.quiet_delimiter (by simp)) hrender)), ?_⟩
    intro hnil
    exact hfield (List.append_eq_nil_iff.1 hnil).1

end RecordQuery

import RecordQuery.Text.Basic
import RecordQuery.Text.CaseTable

/-!
# Lower case

`Text.lower` lower-cases a text. Each character is mapped on its own (`Text.lowerChar`), to one
character except for `İ`, which becomes two. Only the capital sigma depends on its context: at the
end of a word (`Text.endsWord`) it becomes the final sigma.

`Text.lower` is idempotent (`Text.lower_lower`). For this, every character that `lowerChar` gives is
`Text.Settled`: it is mapped to itself, and it is not the capital sigma
(`Text.settled_of_mem_lowerChar`). For the table this is checked once on its runs: no run is moved
onto a run of the table (`Text.lowerTable_settled`).
-/

namespace RecordQuery.Text

/-! ### Classes of characters -/

/-- Whether the character is cased. -/
def isCased (c : Char) : Bool :=
  if c.toNat < 128 then c.isAlpha else inTable casedTable c

/-- Whether the character is case-ignorable. -/
def isCaseIgnorable (c : Char) : Bool :=
  if c.toNat < 128 then ['\'', '.', ':', '^', Char.ofNat 96].contains c
  else inTable caseIgnorableTable c

/-- Whether the character is upper case. -/
def isUpper (c : Char) : Bool :=
  if c.toNat < 128 then c.isUpper else inTable uppercaseTable c

/-! ### Characters -/

/-- The lower case of a character out of context. -/
def lowerChar (c : Char) : Text :=
  if c.toNat < 128 then [c.toLower]
  else if c = 'İ' then ['i', Char.ofNat 0x307]
  else [(shifted? lowerTable c).getD c]

/-- The lower case of a character if it is a single character, else the character itself. -/
def foldChar (c : Char) : Char :=
  match lowerChar c with
  | [d] => d
  | _ => c

/-- The character is its own lower case and is not `Σ`, whose lower case depends on the context. -/
def Settled (c : Char) : Prop := lowerChar c = [c] ∧ c ≠ 'Σ'

/-! ### Texts -/

/-- Whether the first character that is not case-ignorable is cased. -/
def casedAhead (t : Text) : Bool :=
  match t.dropWhile isCaseIgnorable with
  | [] => false
  | c :: _ => isCased c

/-- Whether a word ends between the two texts. The text before is reversed. -/
def endsWord (before after : Text) : Bool := casedAhead before && !casedAhead after

/-- The lower case of a character between two texts, the first of which is reversed. -/
def lowerAt (before : Text) (c : Char) (after : Text) : Text :=
  if c = 'Σ' then [if endsWord before after then 'ς' else 'σ'] else lowerChar c

/-- The lower case of a text behind `before`, which is reversed. -/
def lowerAfter (before : Text) : Text → Text
  | [] => []
  | c :: t => lowerAt before c t ++ lowerAfter (c :: before) t

/-- The lower case of a text. -/
def lower (t : Text) : Text := lowerAfter [] t

/-! ### Idempotence -/

/-- The members of the run `a`, moved by its distance, are not in the run `b`: they lie before it,
behind it, or in the gaps of a run with step two. -/
def Shift.movesApart (a : Shift) (b : Stride) : Bool :=
  (a.last : Int) + a.distance < b.first || (b.last : Int) < a.first + a.distance ||
    (b.step == 2 && (a.step == 2 || a.first == a.last) &&
      ((a.first : Int) + a.distance - b.first) % 2 == 1)

theorem Shift.movesApart_sound {a : Shift} {b : Stride} (h : a.movesApart b = true) {n m : Nat}
    (hn : a.covers n = true) (hm : (m : Int) = n + a.distance) : b.covers m = false := by
  rcases a with ⟨⟨af, al, as⟩, d⟩
  rcases b with ⟨bf, bl, bs⟩
  simp only [Stride.covers, Bool.and_eq_true, decide_eq_true_eq, beq_iff_eq] at hn
  simp only [movesApart, Bool.or_eq_true, decide_eq_true_eq, Bool.and_eq_true,
    beq_iff_eq] at h
  dsimp only at hm
  rw [Bool.eq_false_iff]
  intro hb
  simp only [Stride.covers, Bool.and_eq_true, decide_eq_true_eq, beq_iff_eq] at hb
  obtain ⟨⟨hn1, hn2⟩, hn3⟩ := hn
  obtain ⟨⟨hb1, hb2⟩, hb3⟩ := hb
  -- before the run, behind it, or in a gap: every member has the parity of the first one
  rcases h with (h | h) | ⟨⟨rfl, has⟩, h⟩
  · omega
  · omega
  · rcases has with rfl | rfl
    · omega
    · have : n = af := by omega
      omega

/-- No run of the table is moved onto a run of the table, onto `İ` or onto a surrogate, and none is
moved below the upper-case letters of ASCII. -/
theorem lowerTable_settled : (lowerTable.all fun a =>
    (lowerTable.all fun b => a.movesApart b.toStride) && a.movesApart ⟨0x130, 0x130, 1⟩ &&
      a.movesApart ⟨0xD800, 0xDFFF, 1⟩ && decide (96 < (a.first : Int) + a.distance) &&
      decide ((a.last : Int) + a.distance < 0x110000)) = true := by
  decide +kernel

/-- A property of the first 128 characters is a property of every character of ASCII. -/
theorem forall_ascii {P : Char → Prop} (h : ∀ n : Fin 128, P (Char.ofNat n)) {c : Char}
    (hc : c.toNat < 128) : P c := by
  have hcode := h ⟨c.toNat, hc⟩
  rwa [Char.ofNat_toNat] at hcode

theorem lowerChar_ascii {c : Char} (h : c.toNat < 128) : lowerChar c = [c.toLower] := by
  simp [lowerChar, h]

/-- The lower case of an ASCII character is settled. -/
theorem settled_toLower {c : Char} (h : c.toNat < 128) : Settled c.toLower :=
  forall_ascii (P := fun c => lowerChar c.toLower = [c.toLower] ∧ c.toLower ≠ 'Σ')
    (by decide +kernel) h

/-- A character outside ASCII that has no entry in the table is settled. -/
theorem settled_of_shifted?_none {c : Char} (hc : ¬ c.toNat < 128) (hi : c ≠ 'İ')
    (h : shifted? lowerTable c = none) : Settled c := by
  refine ⟨by simp [lowerChar, hc, hi, h], ?_⟩
  rintro rfl
  revert h
  decide +kernel

/-- A table entry comes from a run and adds its distance. -/
theorem exists_run_of_shifted? {c d : Char} (h : shifted? lowerTable c = some d) :
    ∃ run ∈ lowerTable, run.covers c.toNat = true ∧ (d.toNat : Int) = c.toNat + run.distance := by
  obtain ⟨run, hfind, rfl⟩ := Option.map_eq_some_iff.1 h
  have hmem := List.mem_of_find?_eq_some hfind
  have hcov : run.covers c.toNat = true := by simpa using List.find?_some hfind
  have hrun := List.all_eq_true.1 lowerTable_settled run hmem
  simp only [Bool.and_eq_true, decide_eq_true_eq] at hrun
  obtain ⟨⟨⟨-, hsurrogate⟩, hsmall⟩, hbound⟩ := hrun
  have hle : run.first ≤ c.toNat ∧ c.toNat ≤ run.last := by
    simp only [Stride.covers, Bool.and_eq_true, decide_eq_true_eq] at hcov
    exact hcov.1
  obtain ⟨m, hm⟩ : ∃ m : Nat, ((c.toNat : Int) + run.distance).toNat = m := ⟨_, rfl⟩
  have hmv : (m : Int) = c.toNat + run.distance := by omega
  -- the code point is valid
  have hsur := Shift.movesApart_sound hsurrogate hcov hmv
  simp only [Stride.covers, Nat.mod_one, Bool.and_eq_false_iff, decide_eq_false_iff_not,
    beq_self_eq_true, Bool.true_eq_false, or_false] at hsur
  have hvalid : m.isValidChar := by
    simp only [Nat.isValidChar]
    omega
  refine ⟨run, hmem, hcov, ?_⟩
  rw [hm, Char.ofNat, dif_pos hvalid, ← hmv]
  rfl

/-- A character from the table is settled. -/
theorem settled_of_shifted?_some {c d : Char} (h : shifted? lowerTable c = some d) :
    Settled d := by
  obtain ⟨run, hmem, hcov, hd⟩ := exists_run_of_shifted? h
  have hrun := List.all_eq_true.1 lowerTable_settled run hmem
  simp only [Bool.and_eq_true, decide_eq_true_eq, List.all_eq_true] at hrun
  obtain ⟨⟨⟨⟨htable, hdotted⟩, -⟩, hsmall⟩, -⟩ := hrun
  -- no run of the table is moved below the upper-case letters of ASCII
  by_cases hascii : d.toNat < 128
  · have hle : run.first ≤ c.toNat := by
      simp only [Stride.covers, Bool.and_eq_true, decide_eq_true_eq] at hcov
      exact hcov.1.1
    have hlow : 96 < d.toNat → d.toLower = d :=
      forall_ascii (P := fun c => 96 < c.toNat → c.toLower = c) (by decide +kernel) hascii
    rw [← hlow (by omega)]
    exact settled_toLower hascii
  · refine settled_of_shifted?_none hascii ?_ ?_
    · rintro rfl
      exact absurd (Shift.movesApart_sound hdotted hcov hd) (by decide)
    · simp only [shifted?, Option.map_eq_none_iff, List.find?_eq_none]
      intro other hother
      simp [Shift.movesApart_sound (htable other hother) hcov hd]

/-- All characters of the lower case of a character are settled. -/
theorem settled_of_mem_lowerChar {c d : Char} (h : d ∈ lowerChar c) : Settled d := by
  by_cases hc : c.toNat < 128
  · rw [lowerChar_ascii hc] at h
    rw [List.mem_singleton.1 h]
    exact settled_toLower hc
  · by_cases hi : c = 'İ'
    · subst hi
      have : d = 'i' ∨ d = Char.ofNat 0x307 := by simpa [lowerChar] using h
      rcases this with rfl | rfl <;> exact ⟨by decide +kernel, by decide +kernel⟩
    · have hd : d = (shifted? lowerTable c).getD c := by simpa [lowerChar, hc, hi] using h
      cases hs : shifted? lowerTable c with
      | none => rw [hd, hs]; exact settled_of_shifted?_none hc hi hs
      | some e => rw [hd, hs]; exact settled_of_shifted?_some hs

theorem settled_of_mem_lowerAt {before after : Text} {c d : Char}
    (h : d ∈ lowerAt before c after) : Settled d := by
  unfold lowerAt at h
  split at h
  · have hd := List.mem_singleton.1 h
    rw [hd]
    split <;> exact ⟨by decide +kernel, by decide +kernel⟩
  · exact settled_of_mem_lowerChar h

theorem settled_of_mem_lowerAfter {before t : Text} {d : Char} (h : d ∈ lowerAfter before t) :
    Settled d := by
  induction t generalizing before with
  | nil => simp [lowerAfter] at h
  | cons c t ih =>
    rcases List.mem_append.1 h with h | h
    · exact settled_of_mem_lowerAt h
    · exact ih h

/-- All characters of a lower-cased text are settled. -/
theorem settled_of_mem_lower {t : Text} {d : Char} (h : d ∈ lower t) : Settled d :=
  settled_of_mem_lowerAfter h

/-- Settled characters are not changed, in any context. -/
theorem lowerAfter_append_of_settled {before s t : Text} (h : ∀ c ∈ s, Settled c) :
    lowerAfter before (s ++ t) = s ++ lowerAfter (s.reverse ++ before) t := by
  induction s generalizing before with
  | nil => rfl
  | cons c s ih =>
    have hc := h c (List.mem_cons_self ..)
    rw [List.cons_append, lowerAfter, lowerAt, if_neg hc.2, hc.1,
      ih fun d hd => h d (List.mem_cons_of_mem _ hd), List.reverse_cons, List.append_assoc]
    rfl

theorem lowerAfter_of_settled {before t : Text} (h : ∀ c ∈ t, Settled c) :
    lowerAfter before t = t := by
  calc lowerAfter before t
      = lowerAfter before (t ++ []) := by rw [List.append_nil]
    _ = t ++ lowerAfter (t.reverse ++ before) [] := lowerAfter_append_of_settled h
    _ = t := List.append_nil t

/-- A text of settled characters is its own lower case. -/
theorem lower_of_settled {t : Text} (h : ∀ c ∈ t, Settled c) : lower t = t :=
  lowerAfter_of_settled h

/-- Lower-casing is idempotent. -/
@[simp] theorem lower_lower (t : Text) : lower (lower t) = lower t :=
  lower_of_settled fun _ h => settled_of_mem_lower h

/-- A text is its own lower case if and only if its characters are settled. -/
theorem lower_eq_self_iff (t : Text) : lower t = t ↔ ∀ c ∈ t, Settled c :=
  ⟨fun h _ hc => settled_of_mem_lower (t := t) (h.symm ▸ hc), lower_of_settled⟩

end RecordQuery.Text

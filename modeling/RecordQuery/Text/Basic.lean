/-!
# Text

A `Text` is a list of characters. This module defines:

* `Text.order`, the order by code point;
* `Text.sameLetters`, equality up to the case of the letters `A` to `Z`;
* `Text.includes`, the test for a contiguous part, which is `needle <:+: text`
  (`Text.includes_iff`);
* `Text.splitAtByte?`, the split at an offset in bytes of UTF-8. It is `none` inside a character and
  past the end, and the two halves make up the text (`Text.append_of_splitAtByte?`).
-/

namespace RecordQuery

/-- A text: its characters in order. -/
abbrev Text := List Char

namespace Text

/-! ### Order and equality -/

/-- Compares texts by the code points of their characters; a proper prefix is less. -/
def order : Text → Text → Ordering
  | [], [] => .eq
  | [], _ :: _ => .lt
  | _ :: _, [] => .gt
  | c :: s, d :: t => (compare c.toNat d.toNat).then (order s t)

/-- Whether two characters are equal up to the case of `A` to `Z`. -/
def sameLetter (c d : Char) : Bool := c.toLower == d.toLower

/-- Whether two texts are equal up to the case of `A` to `Z`. -/
def sameLetters : Text → Text → Bool
  | [], [] => true
  | c :: s, d :: t => sameLetter c d && sameLetters s t
  | _, _ => false

@[simp] theorem sameLetters_nil : sameLetters [] [] = true := rfl

@[simp] theorem sameLetters_cons (c d : Char) (s t : Text) :
    sameLetters (c :: s) (d :: t) = (sameLetter c d && sameLetters s t) := rfl

/-- Two texts are `sameLetters` if they are equal after `Char.toLower`. -/
theorem sameLetters_iff (s t : Text) :
    sameLetters s t = true ↔ s.map Char.toLower = t.map Char.toLower := by
  induction s generalizing t with
  | nil => cases t <;> simp [sameLetters]
  | cons c s ih => cases t <;> simp [sameLetters, sameLetter, ih]

/-- Reflexivity of `sameLetters`. -/
theorem sameLetters_refl (s : Text) : sameLetters s s = true :=
  (sameLetters_iff s s).2 rfl

/-! ### Parts -/

/-- Whether `needle` is a contiguous part of the text. -/
def includes (needle : Text) : Text → Bool
  | [] => needle.isEmpty
  | c :: t => needle.isPrefixOf (c :: t) || includes needle t

theorem includes_iff (needle t : Text) : includes needle t = true ↔ needle <:+: t := by
  induction t with
  | nil => cases needle <;> simp [includes]
  | cons c t ih => simp [includes, ih, List.infix_cons_iff]

/-! ### Splits at a byte offset -/

/-- The number of bytes that the text takes in UTF-8. -/
def byteSize : Text → Nat
  | [] => 0
  | c :: t => c.utf8Size + byteSize t

@[simp] theorem byteSize_nil : byteSize [] = 0 := rfl

@[simp] theorem byteSize_cons (c : Char) (t : Text) :
    byteSize (c :: t) = c.utf8Size + byteSize t := rfl

/-- Splits the text after `n` bytes, if `n` is the byte offset of a character or of the end. -/
def splitAtByte? : Nat → Text → Option (Text × Text)
  | 0, t => some ([], t)
  | _ + 1, [] => none
  | n + 1, c :: t =>
    if c.utf8Size ≤ n + 1 then
      (splitAtByte? (n + 1 - c.utf8Size) t).map fun cut => (c :: cut.1, cut.2)
    else none

@[simp] theorem splitAtByte?_zero (t : Text) : splitAtByte? 0 t = some ([], t) := by
  cases t <;> rfl

/-- The two halves make up the text, and the first has `n` bytes. -/
theorem append_of_splitAtByte? {n : Nat} {t head tail : Text}
    (h : splitAtByte? n t = some (head, tail)) : t = head ++ tail ∧ byteSize head = n := by
  induction t generalizing n head with
  | nil => cases n <;> simp_all [splitAtByte?]
  | cons c t ih =>
    cases n with
    | zero => simp_all [splitAtByte?]
    | succ n =>
      simp only [splitAtByte?] at h
      split at h
      · obtain ⟨cut, hcut, heq⟩ := Option.map_eq_some_iff.1 h
        simp only [Prod.mk.injEq] at heq
        obtain ⟨rfl, rfl⟩ := heq
        obtain ⟨rfl, hsize⟩ := ih hcut
        simp only [List.cons_append, byteSize_cons, true_and]
        omega
      · simp at h

/-- A text splits after each of its prefixes. -/
theorem splitAtByte?_append (head tail : Text) :
    splitAtByte? (byteSize head) (head ++ tail) = some (head, tail) := by
  induction head with
  | nil => simp
  | cons c head ih =>
    have hpos : 0 < c.utf8Size := Char.utf8Size_pos c
    obtain ⟨m, hm⟩ : ∃ m, byteSize (c :: head) = m + 1 :=
      ⟨byteSize (c :: head) - 1, by simp only [byteSize_cons]; omega⟩
    have hle : c.utf8Size ≤ m + 1 := by simp only [byteSize_cons] at hm; omega
    have hsub : m + 1 - c.utf8Size = byteSize head := by
      simp only [byteSize_cons] at hm; omega
    rw [hm, List.cons_append, splitAtByte?, if_pos hle, hsub, ih]
    rfl

end Text

end RecordQuery

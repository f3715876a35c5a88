import Mathlib.Data.List.TakeWhile
import RecordQuery.Query.Segment

/-!
# The parsers of a segment on lists

The parsers of `Query/Segment.lean` are nested combinators. Here each of them is specified by list
functions, with the rest that it leaves:

* `manyFrom_satisfy`: repeating a character test consumes the longest prefix that passes it;
* `recognize_many_satisfy`, `remainder_apply`: `recognize` returns that prefix, although it splits
  by byte sizes;
* `parts_apply`: the parts of a text are its pieces between inner separators (`List.splitOn`), and
  nothing is left;
* `literalIgnoringCase_apply`: a mark is stripped character by character (`Text.strip?`);
* `beginsWith_eq_isSome`: the byte guard accepts exactly the texts that the mark is stripped from.

The last two are stated by the same function, `Text.strip?`, so a guard and the parser behind it
agree.
-/

namespace RecordQuery

/-! ### Stripping a mark -/

namespace Text

/-- The rest of a text after `mark`, if it begins with characters that agree with the mark. -/
def strip? (agrees : Char → Char → Bool) : Text → Text → Option Text
  | [], t => some t
  | _ :: _, [] => none
  | c :: mark, d :: t => if agrees c d then strip? agrees mark t else none

theorem sameLetters_comm (s t : Text) : sameLetters s t = sameLetters t s := by
  rw [Bool.eq_iff_iff, sameLetters_iff, sameLetters_iff]
  exact eq_comm

/-- Ignoring case, a mark is stripped exactly from the texts that begin with the same letters. -/
theorem strip?_sameLetter_eq_some_iff {mark t rest : Text} :
    strip? sameLetter mark t = some rest ↔
      ∃ head, t = head ++ rest ∧ sameLetters mark head = true := by
  induction mark generalizing t with
  | nil =>
    constructor
    · intro h
      exact ⟨[], Option.some.inj h, rfl⟩
    · -- only the empty text has the letters of the empty mark
      rintro ⟨head, rfl, hsame⟩
      cases head with
      | nil => rfl
      | cons d head => exact absurd hsame (by simp [sameLetters])
  | cons c mark ih =>
    cases t with
    | nil =>
      constructor
      · intro h
        exact absurd h (by simp [strip?])
      · rintro ⟨head, hnil, hsame⟩
        rw [List.nil_eq_append_iff] at hnil
        rw [hnil.1] at hsame
        exact absurd hsame (by simp [sameLetters])
    | cons d t =>
      rw [strip?]
      constructor
      · intro h
        split at h
        · next hcd =>
          obtain ⟨head, rfl, hsame⟩ := ih.1 h
          exact ⟨d :: head, rfl, by rw [sameLetters_cons, hcd, hsame]; rfl⟩
        · exact absurd h (by simp)
      · rintro ⟨head, hcons, hsame⟩
        cases head with
        | nil => exact absurd hsame (by simp [sameLetters])
        | cons e head =>
          obtain ⟨rfl, rfl⟩ := List.cons.inj hcons
          rw [sameLetters_cons, Bool.and_eq_true] at hsame
          rw [if_pos hsame.1]
          exact ih.2 ⟨head, rfl, hsame.2⟩

/-! ### Byte sizes -/

theorem byteSize_append (s t : Text) : byteSize (s ++ t) = byteSize s + byteSize t := by
  induction s with
  | nil => simp
  | cons c s ih => rw [List.cons_append, byteSize_cons, byteSize_cons, ih, Nat.add_assoc]

theorem toLower_of_not_ascii {c : Char} (h : ¬ c.toNat < 128) : c.toLower = c := by
  refine dif_neg ?_
  rintro ⟨-, hz⟩
  exact h (Nat.lt_of_le_of_lt hz (by decide))

/-- ASCII lower-casing does not change the byte size of a character. -/
theorem utf8Size_toLower (c : Char) : c.toLower.utf8Size = c.utf8Size := by
  by_cases h : c.toNat < 128
  · exact forall_ascii (P := fun c => c.toLower.utf8Size = c.utf8Size) (by decide +kernel) h
  · rw [toLower_of_not_ascii h]

theorem byteSize_of_sameLetters {s t : Text} (h : sameLetters s t = true) :
    byteSize s = byteSize t := by
  induction s generalizing t with
  | nil =>
    cases t with
    | nil => rfl
    | cons d t => exact absurd h (by simp [sameLetters])
  | cons c s ih =>
    cases t with
    | nil => exact absurd h (by simp [sameLetters])
    | cons d t =>
      rw [sameLetters_cons, Bool.and_eq_true, sameLetter, beq_iff_eq] at h
      have hsize : c.utf8Size = d.utf8Size := by
        rw [← utf8Size_toLower c, h.1, utf8Size_toLower]
      rw [byteSize_cons, byteSize_cons, hsize, ih h.2]

/-! ### Splitting -/

/-- The first piece extends to the first separator, and the others are the pieces of the text after
it. -/
theorem splitOn_eq_takeWhile_cons (a : Char) (t : Text) :
    t.splitOn a = t.takeWhile (· != a) ::
      match t.dropWhile (· != a) with
      | [] => []
      | _ :: rest => rest.splitOn a := by
  induction t with
  | nil => rfl
  | cons c t ih =>
    rw [List.splitOn_cons_eq_if_modifyHead]
    by_cases hc : c = a
    · -- the first piece is empty, and the separator itself is dropped
      subst hc
      rw [if_pos (beq_self_eq_true c), List.takeWhile_cons_of_neg (by simp),
        List.dropWhile_cons_of_neg (by simp)]
    · rw [if_neg (by simpa using hc), ih, List.takeWhile_cons_of_pos (by simpa using hc),
        List.dropWhile_cons_of_pos (by simpa using hc), List.modifyHead_cons]

/-- A prefix without a separator belongs to the first piece. -/
theorem splitOn_append_of_notMem {a : Char} {s t : Text} (h : a ∉ s) :
    (s ++ t).splitOn a = (t.splitOn a).modifyHead (s ++ ·) := by
  induction s with
  | nil => exact (congrFun List.modifyHead_id (t.splitOn a)).symm
  | cons c s ih =>
    obtain ⟨hc, hs⟩ := not_or.1 (mt List.mem_cons.2 h)
    rw [List.cons_append, List.splitOn_cons_eq_if_modifyHead,
      if_neg (by simpa using Ne.symm hc), ih hs, List.modifyHead_modifyHead]
    rfl

/-- A piece contains no separator, and only characters of the text. -/
theorem mem_splitOn {a : Char} {t piece : Text} (h : piece ∈ t.splitOn a) :
    a ∉ piece ∧ ∀ c ∈ piece, c ∈ t := by
  induction t generalizing piece with
  | nil =>
    rw [List.splitOn_nil, List.mem_singleton] at h
    subst h
    exact ⟨List.not_mem_nil, fun c hc => hc⟩
  | cons d t ih =>
    obtain ⟨first, others, hsplit⟩ := List.exists_cons_of_ne_nil (List.splitOn_ne_nil a t)
    rw [List.splitOn_cons_eq_if_modifyHead] at h
    split at h
    · rcases List.mem_cons.1 h with rfl | h
      · exact ⟨List.not_mem_nil, fun c hc => absurd hc List.not_mem_nil⟩
      · exact ⟨(ih h).1, fun c hc => List.mem_cons_of_mem _ ((ih h).2 c hc)⟩
    · next hd =>
      rw [hsplit, List.modifyHead_cons] at h
      rcases List.mem_cons.1 h with rfl | h
      · -- the first piece of the rest, longer by the character in front of it
        have hfirst := ih (hsplit ▸ List.mem_cons_self ..)
        refine ⟨?_, fun c hc => ?_⟩
        · intro hmem
          rcases List.mem_cons.1 hmem with rfl | hmem
          · exact hd (beq_self_eq_true _)
          · exact hfirst.1 hmem
        · rcases List.mem_cons.1 hc with rfl | hc
          · exact List.mem_cons_self ..
          · exact List.mem_cons_of_mem _ (hfirst.2 c hc)
      · have hother := ih (hsplit ▸ List.mem_cons_of_mem _ h)
        exact ⟨hother.1, fun c hc => List.mem_cons_of_mem _ (hother.2 c hc)⟩

/-- The text after the first piece begins with the separator. -/
theorem eq_of_dropWhile_ne {a c : Char} {t rest : Text}
    (h : t.dropWhile (· != a) = c :: rest) : c = a := by
  have hnot := List.head_dropWhile_not (· != a) (l := t) (by rw [h]; simp)
  simpa [h] using hnot

end Text

/-! ### Repetition and recognition -/

namespace Parser

variable {α : Type}

/-- **Repeating a character test** consumes the longest prefix that passes it. -/
theorem manyFrom_satisfy (test : Char → Bool) (input : Text) :
    manyFrom (satisfy test) input = ⟨input.takeWhile test, input.dropWhile test⟩ := by
  induction input with
  | nil => exact manyFrom_nil _
  | cons c rest ih =>
    by_cases hc : test c = true
    · have hround : satisfy test (c :: rest) = some ⟨c, rest⟩ := by
        rw [satisfy_cons, if_pos hc]
      rw [many_cons hround (Nat.lt_succ_self _), ih, List.takeWhile_cons_of_pos hc,
        List.dropWhile_cons_of_pos hc]
    · have hround : satisfy test (c :: rest) = none := by rw [satisfy_cons, if_neg hc]
      rw [many_stop (by simp [hround]), List.takeWhile_cons_of_neg hc,
        List.dropWhile_cons_of_neg hc]

/-- For a parser that consumes `head`, `recognize` returns `head`: the split by bytes falls between
it and the rest. -/
theorem recognize_of_append {p : Parser α} {value : α} {head rest : Text}
    (h : p (head ++ rest) = some ⟨value, rest⟩) :
    recognize p (head ++ rest) = some ⟨head, rest⟩ := by
  have hle : Text.byteSize rest ≤ Text.byteSize (head ++ rest) := by
    rw [Text.byteSize_append]
    exact Nat.le_add_left ..
  have hsub : Text.byteSize (head ++ rest) - Text.byteSize rest = Text.byteSize head := by
    rw [Text.byteSize_append, Nat.add_sub_cancel]
  rw [recognize, h, Option.bind_some, if_pos hle, hsub, Text.splitAtByte?_append]
  rfl

theorem recognize_many_satisfy (test : Char → Bool) (input : Text) :
    recognize (many (satisfy test)) input =
      some ⟨input.takeWhile test, input.dropWhile test⟩ := by
  -- the text is written as `head ++ rest`, so that the split is one of an append
  have hinput := List.takeWhile_append_dropWhile (p := test) (l := input)
  have hmany : many (satisfy test) (input.takeWhile test ++ input.dropWhile test) =
      some ⟨input.takeWhile test, input.dropWhile test⟩ := by
    rw [hinput, many_apply, manyFrom_satisfy]
  have hcut := recognize_of_append hmany
  rwa [hinput] at hcut

theorem satisfy_true : satisfy (fun _ => true) = item := by
  funext input
  cases input with
  | nil => rfl
  | cons c rest => rw [satisfy_cons, if_pos rfl, item_cons]

/-! ### Marks -/

/-- **A literal is stripped character by character.** -/
theorem literalBy_apply (agrees : Char → Char → Bool) (value : α) (mark input : Text) :
    literalBy agrees value mark input =
      (Text.strip? agrees mark input).map fun rest => ⟨value, rest⟩ := by
  induction mark generalizing input with
  | nil => rfl
  | cons c mark ih =>
    cases input with
    | nil => rfl
    | cons d rest =>
      rw [literalBy, bind, satisfy_cons, Text.strip?]
      split
      · exact ih rest
      · rfl

theorem literalIgnoringCase_apply (value : α) (mark input : Text) :
    literalIgnoringCase mark value input =
      (Text.strip? Text.sameLetter mark input).map fun rest => ⟨value, rest⟩ :=
  literalBy_apply ..

end Parser

namespace Segment

open RecordQuery.Parser

/-- **The byte guard agrees with the parser.** Splitting after as many bytes as the mark has and
comparing accepts exactly the texts that the mark is stripped from. -/
theorem beginsWith_eq_isSome (mark t : Text) :
    beginsWith mark t = (Text.strip? Text.sameLetter mark t).isSome := by
  rw [Bool.eq_iff_iff, Option.isSome_iff_exists]
  constructor
  · -- splitting succeeds, and the prefix has the letters of the mark
    intro h
    unfold beginsWith at h
    split at h
    · next head rest hcut =>
      obtain ⟨rfl, -⟩ := Text.append_of_splitAtByte? hcut
      exact ⟨rest, Text.strip?_sameLetter_eq_some_iff.2
        ⟨head, rfl, by rwa [Text.sameLetters_comm]⟩⟩
    · exact absurd h (by simp)
  · -- a prefix with the letters of the mark has as many bytes
    rintro ⟨rest, h⟩
    obtain ⟨head, rfl, hsame⟩ := Text.strip?_sameLetter_eq_some_iff.1 h
    rw [beginsWith, Text.byteSize_of_sameLetters hsame, Text.splitAtByte?_append]
    exact (Text.sameLetters_comm ..).trans hsame

/-! ### Parts of a segment -/

theorem remainder_apply (input : Text) : remainder input = some ⟨input, []⟩ := by
  have hall : ∀ c ∈ input, (fun _ : Char => true) c = true := fun _ _ => rfl
  rw [remainder, ← satisfy_true, recognize_many_satisfy, List.takeWhile_eq_self_iff.2 hall,
    List.dropWhile_eq_nil_iff.2 hall]

theorem part_apply (inner : Char) (input : Text) :
    part inner input = some ⟨input.takeWhile (· != inner), input.dropWhile (· != inner)⟩ :=
  recognize_many_satisfy ..

/-- The parts after an inner separator, by induction on the length of the text: each round consumes
up to the next separator. -/
theorem manyFrom_nextPart (inner : Char) (t : Text) :
    manyFrom (preceded (satisfy (· == inner)) (part inner)) (inner :: t) =
      ⟨t.splitOn inner, []⟩ := by
  -- one round consumes the separator and the part after it
  have hround : preceded (satisfy (· == inner)) (part inner) (inner :: t) =
      some ⟨t.takeWhile (· != inner), t.dropWhile (· != inner)⟩ := by
    rw [preceded, Parser.bind, satisfy_cons, if_pos (beq_self_eq_true inner)]
    exact part_apply inner t
  have hshort : (t.dropWhile (· != inner)).length < (inner :: t).length :=
    Nat.lt_succ_of_le (List.length_dropWhile_le ..)
  rw [many_cons hround hshort, Text.splitOn_eq_takeWhile_cons]
  cases hdrop : t.dropWhile (· != inner) with
  | nil => rw [manyFrom_nil]
  | cons c rest =>
    -- the next round begins at a separator
    have : rest.length < t.length := by
      rw [hdrop] at hshort
      simpa using hshort
    rw [Text.eq_of_dropWhile_ne hdrop, manyFrom_nextPart inner rest]
termination_by t.length

/-- **The parts of a text are its pieces between inner separators**, and nothing is left. -/
theorem parts_apply (inner : Char) (input : Text) :
    parts inner input = some ⟨input.splitOn inner, []⟩ := by
  rw [parts, bindWith, Parser.bind, part_apply, Option.bind_some, Parser.map, many_apply,
    Text.splitOn_eq_takeWhile_cons]
  cases hdrop : input.dropWhile (· != inner) with
  | nil =>
    rw [manyFrom_nil]
    rfl
  | cons c rest =>
    rw [Text.eq_of_dropWhile_ne hdrop, manyFrom_nextPart]
    rfl

end Segment

end RecordQuery

import Mathlib.Logic.Relation
import RecordQuery.Proofs.Consumption

/-!
# Repetition

`Parser.many` repeats a parser as long as it matches and consumes something. Here it is related to
the loop over the values found and the text left (`Parser.Progress`):

* The loop terminates for every parser, because a round leaves fewer bytes
  (`Parser.wellFounded_next?`).
* `Parser.Rounds` is the invariant: consecutive rounds have consumed the beginning of the text, each
  of them something. A round preserves it (`Parser.Rounds.next`), so it holds of every run of the
  loop (`Parser.Rounds.of_goes`).
* The loop stops where the parser ends (`Parser.next?_eq_none_iff`), and `Parser.many` returns what
  the loop has found there (`Parser.goes_manyFrom`). No other rounds lead to such a place
  (`Parser.Rounds.unique`).

The loop compares byte sizes, `Parser.many` lengths. For a parser that leaves a suffix these agree,
because it leaves the whole text or consumes a character (`Parser.LeavesEnd.eq_or_exists_taken`).
-/

namespace RecordQuery.Parser

variable {α : Type} {p : Parser α}

/-! ### The loop -/

/-- The state of the loop: the values found and the text left. -/
structure Progress (α : Type) where
  values : List α
  left : Text

/-- One round: there is text left, the parser matches, and it leaves fewer bytes. -/
def Progress.next? (p : Parser α) (s : Progress α) : Option (Progress α) :=
  if s.left.isEmpty then none
  else
    match p s.left with
    | none => none
    | some parsed =>
      if Text.byteSize parsed.rest < Text.byteSize s.left then
        some ⟨s.values ++ [parsed.value], parsed.rest⟩
      else none

/-- Rounds of the loop lead from one state to the other. -/
def Goes (p : Parser α) : Progress α → Progress α → Prop :=
  Relation.ReflTransGen fun s s' => s.next? p = some s'

/-- **What a round does**, and when there is one. -/
theorem next?_eq_some_iff {s s' : Progress α} :
    s.next? p = some s' ↔ ∃ parsed, p s.left = some parsed ∧
      Text.byteSize parsed.rest < Text.byteSize s.left ∧
      s' = ⟨s.values ++ [parsed.value], parsed.rest⟩ := by
  rw [Progress.next?]
  constructor
  · intro h
    split at h
    · exact absurd h (by simp)
    · split at h
      · exact absurd h (by simp)
      · next parsed hparsed =>
        split at h
        · next hlt => exact ⟨parsed, hparsed, hlt, (Option.some.inj h).symm⟩
        · exact absurd h (by simp)
  · rintro ⟨parsed, hparsed, hlt, rfl⟩
    -- a text without characters has no bytes
    have hleft : s.left.isEmpty = false := by
      rw [Bool.eq_false_iff, ne_eq, List.isEmpty_iff]
      intro hnil
      rw [hnil, Text.byteSize_nil] at hlt
      exact absurd hlt (Nat.not_lt_zero _)
    simp only [hleft, hparsed, hlt, Bool.false_eq_true, if_false, if_true]

/-- **The loop terminates** for every parser, because a round leaves fewer bytes. -/
theorem wellFounded_next? (p : Parser α) :
    WellFounded fun s' s : Progress α => s.next? p = some s' := by
  refine Subrelation.wf ?_ (measure fun s : Progress α => Text.byteSize s.left).wf
  intro s' s h
  obtain ⟨parsed, -, hlt, rfl⟩ := next?_eq_some_iff.1 h
  exact hlt

/-! ### The end of the loop -/

/-- **The parser ends**: no text is left, the parser does not match, or it consumes nothing. -/
def Ends (p : Parser α) (rest : Text) : Prop :=
  rest = [] ∨ p rest = none ∨ ∃ value, p rest = some ⟨value, rest⟩

/-- A text that is not empty has bytes. -/
theorem byteSize_lt_append {taken : Text} (h : taken ≠ []) (rest : Text) :
    Text.byteSize rest < Text.byteSize (taken ++ rest) := by
  obtain ⟨c, others, rfl⟩ := List.exists_cons_of_ne_nil h
  have hpos := Char.utf8Size_pos c
  rw [Text.byteSize_append, Text.byteSize_cons]
  omega

/-- A match consumes nothing, or a prefix that is not empty. -/
theorem LeavesEnd.eq_or_exists_taken (hp : LeavesEnd p) {input : Text} {parsed : Parsed α}
    (h : p input = some parsed) :
    parsed.rest = input ∨ ∃ taken, taken ≠ [] ∧ taken ++ parsed.rest = input := by
  obtain ⟨taken, htaken⟩ := hp input parsed h
  by_cases hnil : taken = []
  · left
    rw [← htaken, hnil, List.nil_append]
  · exact .inr ⟨taken, hnil, htaken⟩

/-- **A parser that does not end** consumes a prefix that is not empty. -/
theorem LeavesEnd.exists_round (hp : LeavesEnd p) {input : Text} (h : ¬ Ends p input) :
    ∃ taken value rest, taken ≠ [] ∧ taken ++ rest = input ∧ p input = some ⟨value, rest⟩ := by
  rw [Ends, not_or, not_or] at h
  obtain ⟨⟨value, rest⟩, hparsed⟩ := Option.ne_none_iff_exists'.1 h.2.1
  rcases hp.eq_or_exists_taken hparsed with heq | ⟨taken, hne, happend⟩
  · obtain rfl : rest = input := heq
    exact absurd ⟨value, hparsed⟩ h.2.2
  · exact ⟨taken, value, rest, hne, happend, hparsed⟩

/-- A parser that consumes something does not end. -/
theorem Ends.not_reads {taken rest : Text} {value : α} (hne : taken ≠ [])
    (h : p (taken ++ rest) = some ⟨value, rest⟩) : ¬ Ends p (taken ++ rest) := by
  rintro (hnil | hnone | ⟨other, hother⟩)
  · exact hne (List.append_eq_nil_iff.1 hnil).1
  · rw [h] at hnone
    exact absurd hnone (by simp)
  · -- the two matches would leave the same rest
    have heq : rest = taken ++ rest :=
      congrArg Parsed.rest (Option.some.inj (h.symm.trans hother))
    have hlt := byteSize_lt_append hne rest
    rw [← heq] at hlt
    exact absurd hlt (Nat.lt_irrefl _)

/-- Where the parser ends, a match leaves the whole text. -/
theorem Ends.rest_eq (hp : LeavesEnd p) {input : Text} (h : Ends p input) {parsed : Parsed α}
    (hparsed : p input = some parsed) : parsed.rest = input := by
  rcases hp.eq_or_exists_taken hparsed with heq | ⟨taken, hne, happend⟩
  · exact heq
  · rw [← happend] at hparsed h
    exact absurd h (Ends.not_reads hne hparsed)

/-- The loop stops exactly where the parser ends. -/
theorem next?_eq_none_iff (hp : LeavesEnd p) {s : Progress α} :
    s.next? p = none ↔ Ends p s.left := by
  constructor
  · intro hnone
    by_contra hends
    obtain ⟨taken, value, rest, hne, happend, hparsed⟩ := hp.exists_round hends
    have hlt := byteSize_lt_append hne rest
    rw [happend] at hlt
    rw [next?_eq_some_iff.2 ⟨⟨value, rest⟩, hparsed, hlt, rfl⟩] at hnone
    exact absurd hnone (by simp)
  · intro hends
    rw [Option.eq_none_iff_forall_ne_some]
    intro s' hnext
    obtain ⟨parsed, hparsed, hlt, -⟩ := next?_eq_some_iff.1 hnext
    rw [hends.rest_eq hp hparsed] at hlt
    exact absurd hlt (Nat.lt_irrefl _)

/-- Where the parser ends, repetition finds nothing. -/
theorem manyFrom_of_ends (hp : LeavesEnd p) {input : Text} (h : Ends p input) :
    manyFrom p input = ⟨[], input⟩ := by
  refine many_stop fun parsed hparsed hlt => ?_
  rw [h.rest_eq hp hparsed] at hlt
  exact absurd hlt (Nat.lt_irrefl _)

/-- A match that consumes something is the first round of a repetition. -/
theorem manyFrom_of_reads {taken rest : Text} {value : α} (hne : taken ≠ [])
    (h : p (taken ++ rest) = some ⟨value, rest⟩) :
    manyFrom p (taken ++ rest) =
      ⟨value :: (manyFrom p rest).value, (manyFrom p rest).rest⟩ := by
  refine many_cons h ?_
  rw [List.length_append]
  exact Nat.lt_add_of_pos_left (List.length_pos_iff.2 hne)

/-! ### Rounds -/

/-- The text that a round has consumed, and its value. -/
structure Round (α : Type) where
  taken : Text
  value : α

/-- The text that the rounds have consumed, followed by the text left. -/
def textOf (rounds : List (Round α)) (left : Text) : Text := rounds.flatMap Round.taken ++ left

theorem textOf_cons (r : Round α) (rounds : List (Round α)) (left : Text) :
    textOf (r :: rounds) left = r.taken ++ textOf rounds left := by
  rw [textOf, textOf, List.flatMap_cons, List.append_assoc]

theorem textOf_concat (rounds : List (Round α)) (r : Round α) (left : Text) :
    textOf (rounds ++ [r]) left = textOf rounds (r.taken ++ left) := by
  rw [textOf, textOf, List.flatMap_append, List.flatMap_singleton, List.append_assoc]

/-- **The invariant.** The rounds have consumed the text up to the text left, each of them
something, and in each the parser returned its value and its rest on the text that was left before
it. -/
structure Rounds (p : Parser α) (input : Text) (rounds : List (Round α)) (left : Text) : Prop where
  text_eq : textOf rounds left = input
  taken_ne_nil : ∀ r ∈ rounds, r.taken ≠ []
  reads : ∀ before r after, rounds = before ++ r :: after →
    p (textOf (r :: after) left) = some ⟨r.value, textOf after left⟩

namespace Rounds

variable {input left : Text} {rounds : List (Round α)}

theorem start (p : Parser α) (input : Text) : Rounds p input [] input where
  text_eq := rfl
  taken_ne_nil r hr := absurd hr List.not_mem_nil
  reads before r after h := absurd h.symm (by simp)

/-- One more round at the end preserves the invariant. -/
theorem concat {r : Round α} (h : Rounds p input rounds (r.taken ++ left)) (hne : r.taken ≠ [])
    (hreads : p (r.taken ++ left) = some ⟨r.value, left⟩) :
    Rounds p input (rounds ++ [r]) left where
  text_eq := by rw [textOf_concat, h.text_eq]
  taken_ne_nil := List.forall_mem_append.2 ⟨h.taken_ne_nil, List.forall_mem_singleton.2 hne⟩
  reads := by
    intro before r' after heq
    -- the round is the new one, or an earlier one
    rcases List.eq_nil_or_concat after with rfl | ⟨others, last, rfl⟩
    · obtain ⟨-, hlast⟩ := List.append_inj' heq rfl
      obtain rfl := List.singleton_inj.1 hlast
      rw [textOf_cons]
      exact hreads
    · rw [List.concat_eq_append] at heq ⊢
      rw [← List.cons_append, ← List.append_assoc] at heq
      obtain ⟨hrounds, hlast⟩ := List.append_inj' heq rfl
      obtain rfl := List.singleton_inj.1 hlast
      have hold := h.reads before r' others hrounds
      rwa [← textOf_concat, ← textOf_concat] at hold

/-- **A round of the loop preserves the invariant.** -/
theorem next (hp : LeavesEnd p) {s s' : Progress α} (h : Rounds p input rounds s.left)
    (hnext : s.next? p = some s') :
    ∃ r, Rounds p input (rounds ++ [r]) s'.left ∧ s'.values = s.values ++ [r.value] := by
  obtain ⟨parsed, hparsed, hlt, rfl⟩ := next?_eq_some_iff.1 hnext
  rcases hp.eq_or_exists_taken hparsed with heq | ⟨taken, hne, happend⟩
  · rw [heq] at hlt
    exact absurd hlt (Nat.lt_irrefl _)
  · rw [← happend] at h hparsed
    exact ⟨⟨taken, parsed.value⟩, concat (r := ⟨taken, parsed.value⟩) h hne hparsed, rfl⟩

/-- **The invariant holds of every run of the loop.** -/
theorem of_goes (hp : LeavesEnd p) {s : Progress α} (h : Goes p ⟨[], input⟩ s) :
    ∃ rounds, Rounds p input rounds s.left ∧ rounds.map Round.value = s.values := by
  induction h with
  | refl => exact ⟨[], start p input, rfl⟩
  | tail _ hnext ih =>
    obtain ⟨rounds, hrounds, hvalues⟩ := ih
    obtain ⟨r, hmore, hvalue⟩ := hrounds.next hp hnext
    exact ⟨rounds ++ [r], hmore, by rw [List.map_append, hvalues, hvalue]; rfl⟩

/-- The rounds after the first one are rounds on what it has left. -/
theorem of_cons {r : Round α} (h : Rounds p input (r :: rounds) left) :
    r.taken ≠ [] ∧ r.taken ++ textOf rounds left = input ∧
      p (r.taken ++ textOf rounds left) = some ⟨r.value, textOf rounds left⟩ ∧
      Rounds p (textOf rounds left) rounds left := by
  refine ⟨h.taken_ne_nil r (List.mem_cons_self ..), ?_, ?_, ?_⟩
  · rw [← textOf_cons, h.text_eq]
  · have hfirst := h.reads [] r rounds rfl
    rwa [textOf_cons] at hfirst
  · refine ⟨rfl, fun r' hr' => h.taken_ne_nil r' (List.mem_cons_of_mem r hr'), ?_⟩
    rintro before r' after rfl
    exact h.reads (r :: before) r' after rfl

/-- **The rounds up to where the parser ends are unique**, by induction on the rounds: the first one
leaves the same text in both cases. -/
theorem unique {rounds' : List (Round α)} {left' : Text} (h : Rounds p input rounds left)
    (hends : Ends p left) (h' : Rounds p input rounds' left') (hends' : Ends p left') :
    rounds' = rounds ∧ left' = left := by
  induction rounds generalizing input rounds' with
  | nil =>
    obtain rfl : left = input := h.text_eq
    cases rounds' with
    | nil => exact ⟨rfl, h'.text_eq⟩
    | cons r' others' =>
      obtain ⟨hne, rfl, hreads, -⟩ := h'.of_cons
      -- the parser consumes text where it ends
      exact absurd hends (Ends.not_reads hne hreads)
  | cons r others ih =>
    obtain ⟨hne, rfl, hreads, hothers⟩ := h.of_cons
    cases rounds' with
    | nil =>
      obtain rfl : left' = _ := h'.text_eq
      exact absurd hends' (Ends.not_reads hne hreads)
    | cons r' others' =>
      obtain ⟨-, happend, hreads', hothers'⟩ := h'.of_cons
      -- both first rounds run the parser on the same text, so they have its value and its rest
      rw [happend] at hreads'
      obtain ⟨hvalue, hrest⟩ := Parsed.mk.inj (Option.some.inj (hreads'.symm.trans hreads))
      rw [hrest] at happend hothers'
      obtain ⟨rfl, rfl⟩ := ih hothers hothers'
      obtain ⟨taken, value⟩ := r
      obtain ⟨taken', value'⟩ := r'
      obtain rfl : value' = value := hvalue
      obtain rfl : taken' = taken := List.append_cancel_right happend
      exact ⟨rfl, rfl⟩

end Rounds

/-! ### Repetition as a loop -/

/-- **`manyFrom` returns what the loop finds**, by induction on the bytes left. -/
theorem goes_manyFrom (hp : LeavesEnd p) (s : Progress α) :
    Goes p s ⟨s.values ++ (manyFrom p s.left).value, (manyFrom p s.left).rest⟩ ∧
      Ends p (manyFrom p s.left).rest := by
  induction s using (wellFounded_next? p).induction with
  | _ s ih =>
  by_cases hends : Ends p s.left
  · rw [manyFrom_of_ends hp hends, List.append_nil]
    exact ⟨.refl, hends⟩
  · -- the next round of the loop is the first one of the repetition
    obtain ⟨taken, value, rest, hne, happend, hparsed⟩ := hp.exists_round hends
    have hlt := byteSize_lt_append hne rest
    rw [happend] at hlt
    have hnext : s.next? p = some ⟨s.values ++ [value], rest⟩ :=
      next?_eq_some_iff.2 ⟨⟨value, rest⟩, hparsed, hlt, rfl⟩
    obtain ⟨hgoes, hlast⟩ := ih _ hnext
    rw [List.append_assoc] at hgoes
    rw [← happend] at hparsed
    rw [← happend, manyFrom_of_reads hne hparsed]
    exact ⟨hgoes.head hnext, hlast⟩

/-- **A repetition** with the values of the rounds and the rest. -/
structure IsRepetition (p : Parser α) (input : Text) (rounds : List (Round α)) (rest : Text) :
    Prop where
  /-- Repetition matches, with the values of the rounds. -/
  found : many p input = some ⟨rounds.map Round.value, rest⟩
  /-- The loop reaches this state. -/
  goes : Goes p ⟨[], input⟩ ⟨rounds.map Round.value, rest⟩
  /-- The loop stops in this state. -/
  stops : Progress.next? p ⟨rounds.map Round.value, rest⟩ = none
  /-- The rounds consume the text up to the rest. -/
  reads : Rounds p input rounds rest
  /-- The parser ends at the rest. -/
  ends : Ends p rest
  /-- Repetition finds nothing in the rest. -/
  again : many p rest = some ⟨[], rest⟩
  /-- No other rounds lead to a place where the parser ends. -/
  unique : ∀ rounds' rest', Rounds p input rounds' rest' → Ends p rest' →
    rounds' = rounds ∧ rest' = rest

/-- **Repetition terminates and is greedy.** This holds for every parser that leaves a suffix, also
if its matches may consume nothing, and for every text. -/
theorem many_isRepetition (hp : LeavesEnd p) (input : Text) :
    (WellFounded fun s' s : Progress α => s.next? p = some s') ∧
      ∃ rounds rest, IsRepetition p input rounds rest := by
  obtain ⟨hgoes, hends⟩ : Goes p ⟨[], input⟩ ⟨(manyFrom p input).value, (manyFrom p input).rest⟩ ∧
    Ends p (manyFrom p input).rest := goes_manyFrom hp ⟨[], input⟩
  obtain ⟨rounds, hrounds, hvalues⟩ : ∃ rounds, Rounds p input rounds (manyFrom p input).rest ∧
    rounds.map Round.value = (manyFrom p input).value := Rounds.of_goes hp hgoes
  rw [← hvalues] at hgoes
  have hfound : many p input = some ⟨rounds.map Round.value, (manyFrom p input).rest⟩ := by
    rw [many_apply, hvalues]
  exact ⟨wellFounded_next? p, rounds, (manyFrom p input).rest, {
    found := hfound
    goes := hgoes
    stops := (next?_eq_none_iff hp).2 hends
    reads := hrounds
    ends := hends
    again := by rw [many_apply, manyFrom_of_ends hp hends]
    unique := fun _ _ h' hends' => hrounds.unique hends h' hends' }⟩

/-- A parser that consumes a letter while three or more characters are left, and otherwise matches
and consumes nothing. Its repetition ends before the last two, and does not return their value. -/
theorem many_isRepetition_of_nullable :
    let letters : Parser Char := guarded (fun t => 2 < t.length) (satisfy (· != '/'))
    let p : Parser Char := orElse letters (ret '.')
    let input : Text := "aéb/c".toList
    LeavesEnd p ∧ p "/c".toList = some ⟨'.', "/c".toList⟩ ∧
      IsRepetition p input
        [⟨['a'], 'a'⟩, ⟨['é'], 'é'⟩, ⟨['b'], 'b'⟩] "/c".toList := by
  intro letters p input
  have hp : LeavesEnd p := ((LeavesEnd.item.verify _).guarded _).orElse (.ret '.')
  have hlast : p "/c".toList = some ⟨'.', "/c".toList⟩ := by decide +kernel
  obtain ⟨-, rounds, rest, h⟩ := many_isRepetition hp input
  have hread : Rounds p input [⟨['a'], 'a'⟩, ⟨['é'], 'é'⟩, ⟨['b'], 'b'⟩] "/c".toList := by
    have hfirst : Rounds p input [⟨['a'], 'a'⟩] "éb/c".toList :=
      (Rounds.start p input).concat (r := ⟨['a'], 'a'⟩) (by simp) (by decide +kernel)
    have hsecond : Rounds p input [⟨['a'], 'a'⟩, ⟨['é'], 'é'⟩] "b/c".toList :=
      hfirst.concat (r := ⟨['é'], 'é'⟩) (by simp) (by decide +kernel)
    exact hsecond.concat (r := ⟨['b'], 'b'⟩) (by simp) (by decide +kernel)
  obtain ⟨rfl, rfl⟩ := h.unique _ _ hread (.inr (.inr ⟨'.', hlast⟩))
  exact ⟨hp, hlast, h⟩

end RecordQuery.Parser

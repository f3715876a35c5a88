import RecordQuery.Proofs.Recognition
import RecordQuery.Query.Compile

/-!
# Parsers leave a suffix of their input

The type of a parser does not relate the text that it leaves to its input. `Parser.recognize` relies
on a relation all the same: it subtracts the byte size of the rest from that of the input, and
splits the input there.

* `Parser.LeavesEnd` states that the rest is a suffix of the input. Every combinator preserves it.
* `Parser.Built` are the parsers that are built of the combinators. They leave a suffix, by
  induction on their structure (`Parser.Built.leavesEnd`), and so does the grammar of queries
  (`Query.built_grammar`).
* `recognize` of such a parser returns the consumed prefix (`Parser.LeavesEnd.exists_cut`).
-/

namespace RecordQuery

namespace Parser

variable {α β γ : Type}

/-! ### Leaving a suffix -/

/-- **The parser leaves a suffix** of its input, on every input. -/
def LeavesEnd (p : Parser α) : Prop := ∀ input parsed, p input = some parsed → parsed.rest <:+ input

namespace LeavesEnd

theorem item : LeavesEnd item := by
  intro input parsed h
  cases input with
  | nil => exact absurd h (by simp)
  | cons c rest =>
    obtain rfl := Option.some.inj h
    exact List.suffix_cons c rest

theorem ret (value : α) : LeavesEnd (ret value) := by
  intro input parsed h
  obtain rfl := Option.some.inj h
  exact List.suffix_refl input

theorem fail : LeavesEnd (fail : Parser α) := by
  intro input parsed h
  exact absurd h (by simp)

theorem guarded {p : Parser α} (hp : LeavesEnd p) (condition : Text → Bool) :
    LeavesEnd (guarded condition p) := by
  intro input parsed h
  rw [Parser.guarded] at h
  split at h
  · exact hp input parsed h
  · exact absurd h (by simp)

theorem orElse {p q : Parser α} (hp : LeavesEnd p) (hq : LeavesEnd q) :
    LeavesEnd (orElse p q) := by
  intro input parsed h
  -- both alternatives are run on the whole input
  rcases Option.or_eq_some_iff.1 h with h | ⟨-, h⟩
  · exact hp input parsed h
  · exact hq input parsed h

theorem verify {p : Parser α} (hp : LeavesEnd p) (test : α → Bool) :
    LeavesEnd (verify p test) := by
  intro input parsed h
  exact hp input parsed (Option.filter_eq_some_iff.1 h).1

theorem map {p : Parser α} (hp : LeavesEnd p) (f : α → β) : LeavesEnd (map f p) := by
  intro input parsed h
  obtain ⟨first, hfirst, rfl⟩ := Option.map_eq_some_iff.1 h
  exact hp input first hfirst

/-- The second parser leaves a suffix of the rest of the first. -/
theorem bind {p : Parser α} {follow : α → Parser β} (hp : LeavesEnd p)
    (hfollow : ∀ a, LeavesEnd (follow a)) : LeavesEnd (bind p follow) := by
  intro input parsed h
  obtain ⟨first, hfirst, h⟩ := Option.bind_eq_some_iff.1 h
  exact (hfollow first.value first.rest parsed h).trans (hp input first hfirst)

theorem bindWith {p : Parser α} {follow : α → Parser β} (hp : LeavesEnd p)
    (hfollow : ∀ a, LeavesEnd (follow a)) (combine : α → β → γ) :
    LeavesEnd (bindWith p follow combine) :=
  hp.bind fun a => (hfollow a).map (combine a)

/-- Repetition leaves a suffix, round by round. A match that consumes nothing ends it. -/
theorem manyFrom {p : Parser α} (hp : LeavesEnd p) (input : Text) :
    (manyFrom p input).rest <:+ input := by
  by_cases hgoes : ∃ round, p input = some round ∧ round.rest.length < input.length
  · obtain ⟨round, hround, hlt⟩ := hgoes
    rw [many_cons hround hlt]
    exact (manyFrom hp round.rest).trans (hp input round hround)
  · have hstop : (Parser.manyFrom p input).rest = input := by
      rw [many_stop fun round hround hlt => hgoes ⟨round, hround, hlt⟩]
    exact ⟨[], hstop⟩
termination_by input.length

theorem many {p : Parser α} (hp : LeavesEnd p) : LeavesEnd (many p) := by
  intro input parsed h
  obtain rfl := Option.some.inj h
  exact hp.manyFrom input

theorem literalBy (agrees : Char → Char → Bool) (value : α) (text : Text) :
    LeavesEnd (literalBy agrees value text) := by
  induction text with
  | nil => exact ret value
  | cons c text ih => exact (item.verify (agrees c)).bind fun _ => ih

theorem optional {p : Parser α} (hp : LeavesEnd p) : LeavesEnd (optional p) := by
  intro input parsed h
  rw [Parser.optional] at h
  split at h
  · next first hfirst =>
    obtain rfl := Option.some.inj h
    exact hp input first hfirst
  · obtain rfl := Option.some.inj h
    exact List.suffix_refl input

/-! ### Recognition -/

/-- **Consumed prefix and rest make up the input**, and the subtraction of byte sizes finds the
place between them. -/
theorem exists_cut {p : Parser α} (hp : LeavesEnd p) {input : Text} {parsed : Parsed α}
    (h : p input = some parsed) :
    ∃ taken, taken ++ parsed.rest = input ∧
      Text.byteSize parsed.rest ≤ Text.byteSize input ∧
      Text.splitAtByte? (Text.byteSize input - Text.byteSize parsed.rest) input =
        some (taken, parsed.rest) ∧
      recognize p input = some ⟨taken, parsed.rest⟩ := by
  obtain ⟨taken, rfl⟩ := hp input parsed h
  have hsize : Text.byteSize (taken ++ parsed.rest) =
      Text.byteSize taken + Text.byteSize parsed.rest := Text.byteSize_append ..
  refine ⟨taken, rfl, by omega, ?_, recognize_of_append h⟩
  rw [hsize, Nat.add_sub_cancel, Text.splitAtByte?_append]

theorem recognize_eq_none_iff {p : Parser α} (hp : LeavesEnd p) (input : Text) :
    recognize p input = none ↔ p input = none := by
  cases h : p input with
  | none => simp [recognize, h]
  | some parsed =>
    obtain ⟨taken, -, -, -, htaken⟩ := hp.exists_cut h
    simp [htaken]

theorem recognize {p : Parser α} (hp : LeavesEnd p) : LeavesEnd (recognize p) := by
  intro input parsed h
  -- the rest is that of the parser
  cases hread : p input with
  | none => exact absurd h (by simp [(hp.recognize_eq_none_iff input).2 hread])
  | some first =>
    obtain ⟨taken, -, -, -, htaken⟩ := hp.exists_cut hread
    obtain rfl := Option.some.inj (htaken.symm.trans h)
    exact hp input first hread

end LeavesEnd

/-! ### Parsers built of combinators -/

/-- **Parsers built of the combinators**, with any functions, predicates and conditions. A parser
that is selected by a value is built for every value. -/
inductive Built : {α : Type} → Parser α → Prop
  | item : Built item
  | satisfy (test : Char → Bool) : Built (satisfy test)
  | ret {α : Type} (value : α) : Built (ret value)
  | fail {α : Type} : Built (fail : Parser α)
  | atEnd : Built atEnd
  | literal {α : Type} (text : Text) (value : α) : Built (literal text value)
  | literalIgnoringCase {α : Type} (text : Text) (value : α) :
    Built (literalIgnoringCase text value)
  | bind {α β : Type} {p : Parser α} {follow : α → Parser β} :
    Built p → (∀ a, Built (follow a)) → Built (bind p follow)
  | orElse {α : Type} {p q : Parser α} : Built p → Built q → Built (orElse p q)
  | guarded {α : Type} {p : Parser α} (condition : Text → Bool) :
    Built p → Built (guarded condition p)
  | orWhen {α : Type} {p q : Parser α} (condition : Text → Bool) :
    Built p → Built q → Built (orWhen p condition q)
  | verify {α : Type} {p : Parser α} (test : α → Bool) : Built p → Built (verify p test)
  | map {α β : Type} {p : Parser α} (f : α → β) : Built p → Built (map f p)
  | bindWith {α β γ : Type} {p : Parser α} {follow : α → Parser β} (combine : α → β → γ) :
    Built p → (∀ a, Built (follow a)) → Built (bindWith p follow combine)
  | many {α : Type} {p : Parser α} : Built p → Built (many p)
  | recognize {α : Type} {p : Parser α} : Built p → Built (recognize p)
  | optional {α : Type} {p : Parser α} : Built p → Built (optional p)
  | preceded {α β : Type} {p : Parser α} {q : Parser β} :
    Built p → Built q → Built (preceded p q)
  | terminated {α β : Type} {p : Parser α} {q : Parser β} :
    Built p → Built q → Built (terminated p q)

/-- **Parsers built of the combinators leave a suffix**, by induction on their structure. -/
theorem Built.leavesEnd {p : Parser α} (h : Built p) : LeavesEnd p := by
  induction h with
  | item => exact .item
  | satisfy test => exact LeavesEnd.item.verify test
  | ret value => exact .ret value
  | fail => exact .fail
  | atEnd => exact (LeavesEnd.ret ()).guarded List.isEmpty
  | literal text value => exact .literalBy (· == ·) value text
  | literalIgnoringCase text value => exact .literalBy Text.sameLetter value text
  | bind _ _ hp hfollow => exact hp.bind hfollow
  | orElse _ _ hp hq => exact hp.orElse hq
  | guarded condition _ hp => exact hp.guarded condition
  | orWhen condition _ _ hp hq => exact hp.orElse (hq.guarded condition)
  | verify test _ hp => exact hp.verify test
  | map f _ hp => exact hp.map f
  | bindWith combine _ _ hp hfollow => exact hp.bindWith hfollow combine
  | many _ hp => exact hp.many
  | recognize _ hp => exact hp.recognize
  | optional _ hp => exact hp.optional
  | preceded _ _ hp hq => exact hp.bind fun _ => hq
  | terminated _ _ hp hq => exact hp.bindWith (fun _ => hq) fun a _ => a

end Parser

/-! ### The grammar of queries -/

namespace Segment

open RecordQuery.Parser

theorem built_remainder : Built remainder := .recognize (.many .item)

theorem built_parts (inner : Char) : Built (parts inner) := by
  have hpart : Built (part inner) := .recognize (.many (.satisfy _))
  exact .bindWith _ hpart fun _ => .many (.preceded (.satisfy _) hpart)

theorem built_table (d : Dialect) : Built (table d) := by
  have hpage : Built (page d) := .map _ (.preceded (.literalIgnoringCase ..) (built_parts _))
  have hskip : Built (skip d) := .map _ (.preceded (.literalIgnoringCase ..) built_remainder)
  have htake : Built (take d) := .map _ (.preceded (.literalIgnoringCase ..) built_remainder)
  have hsort : Built (sort d) := .preceded (.literalIgnoringCase ..)
    (.bindWith _ (.optional (.literalIgnoringCase ..)) fun _ => built_remainder)
  have hfilter : Built (filter d) := .map _ (built_parts _)
  exact .orWhen _ (.orWhen _ (.orWhen _ (.orWhen _ (.guarded _ hpage) hskip) htake) hsort) hfilter

end Segment

/-- The grammar of queries is built of the combinators. -/
theorem Query.built_grammar (d : Dialect) : Parser.Built (grammar d) := by
  have hseparators : Parser.Built (separators d) :=
    .map _ (.verify _ (.recognize (.many (.satisfy _))))
  have hsegment : Parser.Built (segment d) :=
    .map _ (.verify _ (.recognize (.many (.satisfy _))))
  exact .many (.orElse hseparators hsegment)

namespace Parser

variable {α : Type}

/-! ### Reading the beginning -/

/-- **The parser reads the beginning of the input.** -/
structure ReadsBeginning (p : Parser α) (input : Text) : Prop where
  /-- The rest is a suffix of the input. -/
  suffix : ∀ parsed, p input = some parsed → parsed.rest <:+ input
  /-- Recognition matches exactly if the parser does. -/
  isSome_recognize : (recognize p input).isSome = (p input).isSome
  /-- Recognition returns the text in front of the rest. -/
  recognized : ∀ parsed, p input = some parsed →
    ∃ taken, recognize p input = some ⟨taken, parsed.rest⟩ ∧ taken ++ parsed.rest = input
  /-- The byte sizes can be subtracted, and the input can be split there. -/
  cut : ∀ parsed, p input = some parsed →
    Text.byteSize parsed.rest ≤ Text.byteSize input ∧
      (Text.splitAtByte? (Text.byteSize input - Text.byteSize parsed.rest) input).isSome = true
  /-- After a failure, an alternative runs on the whole input. -/
  orElse_eq : p input = none → ∀ q, orElse p q input = q input
  /-- So does a conditional alternative, whose condition sees the whole input. -/
  orWhen_eq : p input = none → ∀ condition q,
    orWhen p condition q input = if condition input then q input else none

/-- **Parsers read the beginning of their input.** This holds of every parser that is built of the
combinators, and of every input. -/
theorem readsBeginning_of_built {p : Parser α} (h : Built p) (input : Text) :
    ReadsBeginning p input where
  suffix := h.leavesEnd input
  isSome_recognize := by
    -- `recognize` does not fail on its own: what the parser reads can always be cut off
    have hnone := h.leavesEnd.recognize_eq_none_iff input
    rw [Bool.eq_iff_iff, Option.isSome_iff_ne_none, Option.isSome_iff_ne_none]
    exact not_congr hnone
  recognized parsed hparsed := by
    obtain ⟨taken, happend, -, -, htaken⟩ := h.leavesEnd.exists_cut hparsed
    exact ⟨taken, htaken, happend⟩
  cut parsed hparsed := by
    obtain ⟨taken, -, hle, hcut, -⟩ := h.leavesEnd.exists_cut hparsed
    exact ⟨hle, by rw [hcut]; rfl⟩
  orElse_eq hnone q := by rw [orElse, hnone, Option.none_or]
  orWhen_eq hnone condition q := by rw [orWhen, orElse, hnone, Option.none_or, guarded]

/-- A parser selected by a value reads a two-byte character and fails behind it, and the alternative
starts over. Recognition splits behind the character. -/
theorem readsBeginning_after_failure :
    let p : Parser Text := bindWith (recognize (many (satisfy (· != 'é'))))
      (fun run => orElse (literal "éa".toList run) (preceded item (ret ('+' :: run))))
      fun run chosen => run ++ chosen
    let input : Text := "abéb".toList
    Built p ∧ p input = some ⟨"ab+ab".toList, "b".toList⟩ ∧
      recognize p input = some ⟨"abé".toList, "b".toList⟩ ∧ ReadsBeginning p input := by
  intro p input
  have hbuilt : Built p := .bindWith _ (.recognize (.many (.satisfy _))) fun run =>
    .orElse (.literal _ run) (.preceded .item (.ret _))
  have hreads := readsBeginning_of_built hbuilt input
  have hparsed : p input = some ⟨"ab+ab".toList, "b".toList⟩ := by decide +kernel
  obtain ⟨taken, htaken, happend⟩ := hreads.recognized _ hparsed
  have hcut : taken = "abé".toList := List.append_cancel_right (happend.trans (by decide))
  rw [hcut] at htaken
  exact ⟨hbuilt, hparsed, htaken, hreads⟩

end Parser

end RecordQuery

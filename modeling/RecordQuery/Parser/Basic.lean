import RecordQuery.Text.Basic

/-!
# Parsers

A `Parser` reads the beginning of a text. It gives a value and the rest of the text, or it does not
match. It has no state, and an alternative reads the text that the first parser was given
(`Parser.orElse`, `Parser.orWhen`).

`Parser.many` repeats any parser: a match that does not shorten the text ends the repetition and is
discarded, so the rest becomes shorter in every round. `Parser.many_cons` and `Parser.many_stop`
describe one round.

`Parser.recognize` gives the text that was read, cut off by its size in bytes.
-/

namespace RecordQuery

/-- A match: a value, and the rest of the text. -/
structure Parsed (α : Type) where
  value : α
  rest : Text
  deriving DecidableEq

/-- A parser of values of one type. -/
def Parser (α : Type) := Text → Option (Parsed α)

namespace Parser

variable {α β γ : Type}

/-! ### Primitives -/

/-- Reads one character. -/
def item : Parser Char
  | [] => none
  | c :: rest => some ⟨c, rest⟩

/-- Produces the value and reads nothing. -/
def ret (value : α) : Parser α := fun input => some ⟨value, input⟩

/-- Does not match. -/
def fail : Parser α := fun _ => none

/-- Applies the parser to texts that satisfy the condition. -/
def guarded (condition : Text → Bool) (p : Parser α) : Parser α := fun input =>
  if condition input then p input else none

/-- Matches the empty text. -/
def atEnd : Parser Unit := guarded List.isEmpty (ret ())

/-! ### Combinators -/

/-- Reads with the parser, then with the parser that its value selects. -/
def bind (p : Parser α) (follow : α → Parser β) : Parser β := fun input =>
  (p input).bind fun first => follow first.value first.rest

/-- The first parser, or else the second one on the same text. -/
def orElse (p q : Parser α) : Parser α := fun input => (p input).or (q input)

/-- Drops a match whose value fails the test. -/
def verify (p : Parser α) (test : α → Bool) : Parser α := fun input =>
  (p input).filter fun parsed => test parsed.value

/-- Applies a function to the value. -/
def map (f : α → β) (p : Parser α) : Parser β := fun input =>
  (p input).map fun parsed => ⟨f parsed.value, parsed.rest⟩

/-- Reads with the parser, then with the parser that its value selects, and combines the two
values. -/
def bindWith (p : Parser α) (follow : α → Parser β) (combine : α → β → γ) : Parser γ :=
  bind p fun a => map (combine a) (follow a)

/-- The values of the rounds of a repetition, and the rest after the last one. -/
def manyFrom (p : Parser α) (input : Text) : Parsed (List α) :=
  if input.isEmpty then ⟨[], input⟩
  else
    match p input with
    | none => ⟨[], input⟩
    | some round =>
      if round.rest.length < input.length then
        let later := manyFrom p round.rest
        ⟨round.value :: later.value, later.rest⟩
      -- a round that reads nothing would be followed by the same round for ever
      else ⟨[], input⟩
termination_by input.length

/-- Repeats the parser until it does not match, the text is empty, or a match reads nothing. -/
def many (p : Parser α) : Parser (List α) := fun input => some (manyFrom p input)

/-- The first parser, or else the second one on texts that satisfy the condition. -/
def orWhen (p : Parser α) (condition : Text → Bool) (q : Parser α) : Parser α :=
  orElse p (guarded condition q)

/-! ### Derived parsers -/

/-- Reads one character that satisfies the test. -/
def satisfy (test : Char → Bool) : Parser Char := verify item test

/-- Reads as many characters as the text has, each of which agrees with that of the text. -/
def literalBy (agrees : Char → Char → Bool) (value : α) : Text → Parser α
  | [] => ret value
  | c :: text => bind (satisfy (agrees c)) fun _ => literalBy agrees value text

/-- Reads the text. -/
def literal (text : Text) (value : α) : Parser α := literalBy (· == ·) value text

/-- Reads the text up to the case of `A` to `Z`. -/
def literalIgnoringCase (text : Text) (value : α) : Parser α :=
  literalBy Text.sameLetter value text

/-- Gives the text that the parser reads. -/
def recognize (p : Parser α) : Parser Text := fun input =>
  (p input).bind fun parsed =>
    if Text.byteSize parsed.rest ≤ Text.byteSize input then
      -- a cut inside of a character is no match
      (Text.splitAtByte? (Text.byteSize input - Text.byteSize parsed.rest) input).map fun cut =>
        ⟨cut.1, parsed.rest⟩
    else none

/-- Gives `none` and reads nothing where the parser does not match. -/
def optional (p : Parser α) : Parser (Option α) := fun input =>
  match p input with
  | some parsed => some ⟨some parsed.value, parsed.rest⟩
  | none => some ⟨none, input⟩

/-- Reads both and keeps the second value. -/
def preceded (p : Parser α) (q : Parser β) : Parser β := bind p fun _ => q

/-- Reads both and keeps the first value. -/
def terminated (p : Parser α) (q : Parser β) : Parser α := bindWith p (fun _ => q) fun a _ => a

/-! ### Combinators on texts -/

@[simp] theorem item_nil : item [] = none := rfl

@[simp] theorem item_cons (c : Char) (rest : Text) : item (c :: rest) = some ⟨c, rest⟩ := rfl

@[simp] theorem fail_apply (input : Text) : (fail : Parser α) input = none := rfl

@[simp] theorem satisfy_nil (test : Char → Bool) : satisfy test [] = none := rfl

@[simp] theorem satisfy_cons (test : Char → Bool) (c : Char) (rest : Text) :
    satisfy test (c :: rest) = if test c then some ⟨c, rest⟩ else none := by
  simp [satisfy, verify, Option.filter]

theorem many_apply (p : Parser α) (input : Text) : many p input = some (manyFrom p input) := rfl

@[simp] theorem manyFrom_nil (p : Parser α) : manyFrom p [] = ⟨[], []⟩ := by
  rw [manyFrom]
  rfl

/-- A round that shortens the text is followed by the rounds on the rest. -/
theorem many_cons {p : Parser α} {input : Text} {round : Parsed α} (h : p input = some round)
    (hlt : round.rest.length < input.length) :
    manyFrom p input =
      ⟨round.value :: (manyFrom p round.rest).value, (manyFrom p round.rest).rest⟩ := by
  have hne : input.isEmpty = false := by
    cases input with
    | nil => simp at hlt
    | cons => rfl
  rw [manyFrom]
  simp only [hne, h, hlt, if_true, Bool.false_eq_true, if_false]

/-- Repetition ends where no match shortens the text. -/
theorem many_stop {p : Parser α} {input : Text}
    (h : ∀ round, p input = some round → ¬ round.rest.length < input.length) :
    manyFrom p input = ⟨[], input⟩ := by
  rw [manyFrom]
  split
  · rfl
  · split
    · rfl
    · next round hround => rw [if_neg (h round hround)]

end Parser

end RecordQuery

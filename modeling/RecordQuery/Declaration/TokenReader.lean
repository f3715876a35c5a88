import RecordQuery.Declaration.Lookahead

/-!
# Parsers of tokens

A `TokenReader` consumes tokens from the front of a list, or fails. `a <|> b` runs `b` where `a`
fails, on the same tokens.

`TokenReader.enclosed` parses the contents of a group. Tokens that are left in the group are no
failure at once, but recorded in `Reading.excess`, and `TokenReader.all?` rejects them at the end.

`TokenReader.rounds` and `TokenReader.phrases` repeat a parser until the next tokens stop them. Each
round must consume a token.
-/

namespace RecordQuery.Declaration

/-- The state of a parser. -/
structure Reading where
  /-- The tokens that are left. -/
  tokens : List Token
  /-- Whether tokens were left in a group. -/
  excess : Bool
  deriving DecidableEq

/-- A parser of tokens. -/
abbrev TokenReader := StateT Reading Option

namespace TokenReader

open Token (startWith)

variable {α : Type}

/-- The tokens that are left. -/
def ahead : TokenReader (List Token) := do return (← get).tokens

/-- Continues at other tokens. -/
def goOn (tokens : List Token) : TokenReader Unit := modify fun s => { s with tokens := tokens }

/-- Consumes a token. -/
def next : TokenReader Token := do
  match ← ahead with
  | token :: rest =>
    goOn rest
    return token
  | [] => failure

/-- Consumes a token that satisfies the predicate. -/
def satisfy (p : Token → Bool) : TokenReader (List Token) := do
  let token ← next
  guard (p token)
  return [token]

/-- Consumes a keyword or an operator. -/
def spelled (spelling : String) : TokenReader (List Token) := do
  let tokens ← ahead
  match Token.after? spelling tokens with
  | some rest =>
    goOn rest
    return tokens.take (tokens.length - rest.length)
  | none => failure

/-- Skips a keyword or an operator. -/
def pass (spelling : String) : TokenReader Unit := do
  let _ ← spelled spelling

/-- Consumes a keyword or an operator, if the tokens begin with it. -/
def perhaps (spelling : String) : TokenReader (List Token) := spelled spelling <|> pure []

/-- Consumes the first of the keywords and operators that matches. -/
def oneOf (spellings : List String) : TokenReader (List Token) := do
  let tokens ← ahead
  match spellings.find? fun s => startWith s tokens with
  | some s => spelled s
  | none => failure

/-- Parses an identifier or a keyword. -/
def anyWord : TokenReader Text := do
  match ← next with
  | .word text => return text
  | _ => failure

/-- Parses an identifier. -/
def name : TokenReader Text := do
  let text ← anyWord
  guard (Token.isName text)
  return text

/-- Parses a lifetime. -/
def lifetime : TokenReader (List Token) := satisfy fun token => Token.startWithLifetime [token]

/-- Parses a literal, or a minus and a numeric literal. -/
def literal : TokenReader (List Token) := do
  if startWith "-" (← ahead) then return (← spelled "-") ++ (← satisfy Token.isNumeric)
  else satisfy Token.isLiteral

/-- Runs the parser where the predicate holds of the next tokens. -/
def given (p : List Token → Bool) (r : TokenReader (List Token)) : TokenReader (List Token) := do
  if p (← ahead) then r else return []

/-- Fails unless all tokens are consumed. -/
def atEnd : TokenReader Unit := do guard (← ahead).isEmpty

/-! ### Groups -/

/-- Parses the contents of a group. -/
def enclosed (b : Bracket) (r : TokenReader α) : TokenReader α := do
  let _ ← satisfy (· = .opening b)
  let s ← get
  -- the last token of `inside` is the closing delimiter
  match Token.throughClosing? 1 s.tokens with
  | some (inside, rest) =>
    match r ⟨inside.dropLast, s.excess⟩ with
    | some (a, after) =>
      -- tokens that are left in the group are noted, but do not stop the parser
      set (⟨rest, after.excess || !after.tokens.isEmpty⟩ : Reading)
      return a
    | none => failure
  | none => failure

/-- Parses a group with its delimiters. -/
def bracketed (b : Bracket) (r : TokenReader (List Token)) : TokenReader (List Token) := do
  return .opening b :: (← enclosed b r) ++ [.closing b]

/-- Consumes a group, whatever it contains. -/
def group (shapes : List Bracket) : TokenReader (List Token) := do
  let tokens ← ahead
  guard (shapes.any fun b => Token.startWithOpening b tokens)
  let rest := Token.beyond tokens
  goOn rest
  return tokens.take (tokens.length - rest.length)

/-- All shapes of delimiters. -/
def anyShape : List Bracket := [.round, .square, .curly]

/-! ### Repetition -/

/-- The tokens that the parser consumes. -/
def written (r : TokenReader α) : TokenReader (List Token) := do
  let before ← ahead
  let _ ← r
  let after ← ahead
  return before.take (before.length - after.length)

/-- The results of running the parser until `stops` holds of the next tokens. -/
def roundsFrom (stops : List Token → Bool) (r : TokenReader α) (s : Reading) :
    Option (List α × Reading) :=
  if stops s.tokens then some ([], s)
  else
    match r s with
    | some (a, after) =>
      -- a round without tokens would not end
      if after.tokens.length < s.tokens.length then
        (roundsFrom stops r after).map fun others => (a :: others.1, others.2)
      else none
    | none => none
termination_by s.tokens.length

/-- Runs the parser until `stops` holds of the next tokens. -/
def rounds (stops : List Token → Bool) (r : TokenReader α) : TokenReader (List α) :=
  fun s => roundsFrom stops r s

/-- Runs the parser until no tokens are left. -/
def roundsToEnd (r : TokenReader α) : TokenReader Unit := do
  let _ ← rounds List.isEmpty r

/-- The phrases of a separated list, each with the separator after it, until `stops` holds of the
next tokens or a phrase is the last by `isLast`. The parser is given whether it parses the first
phrase. -/
def phrasesFrom (stops : List Token → Bool) (separator : String) (isLast : α → Bool)
    (r : Bool → TokenReader α) (first : Bool) (s : Reading) :
    Option (List (α × List Token) × Reading) :=
  if stops s.tokens then some ([], s)
  else
    match r first s with
    | some (a, after) =>
      if isLast a then some ([(a, [])], after)
      else
        match spelled separator after with
        | some (between, rest) =>
          if rest.tokens.length < s.tokens.length then
            (phrasesFrom stops separator isLast r false rest).map fun others =>
              ((a, between) :: others.1, others.2)
          else none
        | none => some ([(a, [])], after)
    | none => none
termination_by s.tokens.length

/-- Parses a separated list, with an optional trailing separator. -/
def phrases (stops : List Token → Bool) (separator : String) (r : TokenReader α) :
    TokenReader (List (α × List Token)) :=
  fun s => phrasesFrom stops separator (fun _ => false) (fun _ => r) true s

/-- Parses a comma-separated list to the end, or to a phrase that must be the last. -/
def list (isLast : α → Bool) (r : Bool → TokenReader α) : TokenReader (List (α × List Token)) := do
  let read ← fun s => phrasesFrom List.isEmpty "," isLast r true s
  if read.getLast?.any fun phrase => isLast phrase.1 then return read
  else
    atEnd
    return read

/-- Parses a comma-separated list to the end. -/
def commas (r : TokenReader α) : TokenReader (List (α × List Token)) :=
  list (fun _ => false) fun _ => r

/-- The tokens of phrases and separators. -/
def together (read : List (List Token × List Token)) : List Token :=
  read.flatMap fun phrase => phrase.1 ++ phrase.2

/-! ### Running a parser -/

/-- The result of a parser that need not consume all tokens. -/
def front? (r : TokenReader α) (tokens : List Token) : Option α := (r ⟨tokens, false⟩).map Prod.fst

/-- The result of a parser that consumes all tokens, also in groups. -/
def all? (r : TokenReader α) (tokens : List Token) : Option α :=
  match r ⟨tokens, false⟩ with
  | some (a, ⟨[], false⟩) => some a
  | _ => none

end TokenReader

end RecordQuery.Declaration

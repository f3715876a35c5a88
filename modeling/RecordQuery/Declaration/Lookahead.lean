import RecordQuery.Declaration.Token

/-!
# Lookahead

Parsers decide by the next tokens. `Token.startWith` tests for a keyword or an operator; an operator
of several characters matches when its marks are joint, also as the prefix of a longer one.
`Token.beyond` skips one token, or a whole group in delimiters.
-/

namespace RecordQuery.Declaration

namespace Token

/-! ### Keywords and operators -/

/-- The tokens after an operator, all marks of which but the last must be joint. -/
def afterOperator? : Text → List Token → Option (List Token)
  | [], tokens => some tokens
  -- the last mark may be joint with a further one: `>` matches the first mark of `>>`
  | [c], .mark d _ :: tokens => if c = d then some tokens else none
  | c :: cs, .mark d true :: tokens => if c = d then afterOperator? cs tokens else none
  | _, _ => none

/-- The tokens after the keyword or operator, if they begin with it. -/
def after? (spelling : String) : List Token → Option (List Token)
  | .word text :: tokens => if text = spelling.toList then some tokens else none
  | tokens => afterOperator? spelling.toList tokens

/-- Whether the tokens begin with the keyword or operator. -/
def startWith (spelling : String) (tokens : List Token) : Bool := (after? spelling tokens).isSome

/-- Whether the tokens begin with one of the keywords and operators. -/
def startWithAny (spellings : List String) (tokens : List Token) : Bool :=
  spellings.any fun s => startWith s tokens

/-! ### Sorts of tokens -/

/-- Whether the tokens begin with the opening delimiter. -/
def startWithOpening (b : Bracket) (tokens : List Token) : Bool := tokens.head? = some (.opening b)

/-- Whether the tokens begin with an identifier or a keyword. -/
def startWithWord : List Token → Bool
  | .word _ :: _ => true
  | _ => false

/-- Whether the tokens begin with an identifier. -/
def startWithName : List Token → Bool
  | .word text :: _ => isName text
  | _ => false

/-- Whether the tokens begin with a lifetime. -/
def startWithLifetime : List Token → Bool
  | .lifetime _ :: _ => true
  | _ => false

/-- Whether the tokens begin with a string literal. -/
def startWithString : List Token → Bool
  | .string _ _ :: _ => true
  | _ => false

/-- Whether the token is a numeric literal. -/
def isNumeric : Token → Bool
  | .literal (c :: _) => c.isDigit
  | _ => false

/-- Whether the token is a literal. -/
def isLiteral : Token → Bool
  | .string _ _ => true
  | .literal _ => true
  | .word text => text = "true".toList || text = "false".toList
  | _ => false

/-- Whether the tokens begin with a literal, or with a minus and a numeric literal. -/
def startWithLiteral (tokens : List Token) : Bool :=
  tokens.head?.any isLiteral || startWith "-" tokens && tokens.tail.head?.any isNumeric

/-! ### Delimiters -/

/-- The tokens through the closing delimiter of the outermost of the open groups, whose number is
given, and the rest. -/
def throughClosing? : Nat → List Token → Option (List Token × List Token)
  | _, [] => none
  | depth, .opening b :: tokens =>
    (throughClosing? (depth + 1) tokens).map fun r => (.opening b :: r.1, r.2)
  | depth, .closing b :: tokens =>
    if depth ≤ 1 then some ([.closing b], tokens)
    else (throughClosing? (depth - 1) tokens).map fun r => (.closing b :: r.1, r.2)
  | depth, token :: tokens => (throughClosing? depth tokens).map fun r => (token :: r.1, r.2)

/-- The tokens after the first one or, if that opens a group, after the group. -/
def beyond : List Token → List Token
  | [] => []
  | .opening _ :: tokens => ((throughClosing? 1 tokens).map Prod.snd).getD []
  | _ :: tokens => tokens

/-! ### Prefixes of longer operators -/

/-- Whether the tokens begin with a dot that does not begin a range. -/
def startWithDot (tokens : List Token) : Bool := startWith "." tokens && !startWith ".." tokens

/-- Whether the tokens begin with a colon that does not begin `::`. -/
def startWithColon (tokens : List Token) : Bool := startWith ":" tokens && !startWith "::" tokens

end Token

end RecordQuery.Declaration

import RecordQuery.Declaration.Numeral
import RecordQuery.Declaration.Token

/-!
# The lexer

`tokenize` cuts a text into tokens. Whitespace and comments are skipped; block comments nest. A doc
comment becomes the tokens of a `doc` attribute.

`next?` always leaves a shorter rest, and `tokensFrom` recurses on the length of the text.
-/

namespace RecordQuery.Declaration

open Text

/-! ### Whitespace and comments -/

/-- The text after a block comment, given the depth of nesting. -/
def afterComment : Nat → Text → Option Text
  | _, [] => none
  | depth, '*' :: '/' :: rest =>
    if depth ≤ 1 then some rest else afterComment (depth - 1) rest
  | depth, '/' :: '*' :: rest => afterComment (depth + 1) rest
  | depth, _ :: rest => afterComment depth rest

/-- Whether `//` followed by this text begins a doc comment. -/
def documentsLine : Text → Bool
  | '/' :: '/' :: _ => false
  | '/' :: _ => true
  | '!' :: _ => true
  | _ => false

/-- Whether a block comment whose body begins with this text is a doc comment. -/
def documentsBlock : Text → Bool
  | '*' :: '/' :: _ => false
  | '*' :: '*' :: _ => false
  | '*' :: _ => true
  | '!' :: _ => true
  | _ => false

/-- Whether the character is skipped between tokens: whitespace or a directional mark. -/
def separates (c : Char) : Bool := isBlank c || c.toNat == 0x200E || c.toNat == 0x200F

/-- Splits a text at its first line break. The line feed stays in the rest. -/
def splitLine : Text → Text × Text
  | [] => ([], [])
  | '\n' :: rest => ([], '\n' :: rest)
  | '\r' :: '\n' :: rest => ([], '\n' :: rest)
  | c :: rest => (c :: (splitLine rest).1, (splitLine rest).2)

/-- The text after one whitespace character or one comment, if it begins with one. -/
def afterBlank? : Text → Option Text
  | '/' :: '/' :: rest => if documentsLine rest then none else some (splitLine rest).2
  | '/' :: '*' :: rest => if documentsBlock rest then none else afterComment 1 rest
  | c :: rest => if separates c then some rest else none
  | [] => none

/-- Whether every carriage return is followed by a line feed. -/
def returnsEndLines : Text → Bool
  | [] => true
  | '\r' :: '\n' :: rest => returnsEndLines rest
  | c :: rest => c != '\r' && returnsEndLines rest

/-! ### Escapes -/

/-- The value of one to six hexadecimal digits. -/
def hexadecimal? (digits : Text) : Option Nat :=
  if digits.isEmpty || 6 < digits.length then none
  else digits.foldlM (fun n c => (hexDigit? c).map (16 * n + ·)) 0

/-- The character of a code point in braces, and the rest. -/
def codePoint? : Text → Option (Char × Text)
  | [] => none
  | c :: rest =>
    if c = Bracket.curly.openingChar then
      -- underscores may separate the digits, but not precede them
      let inside := rest.takeWhile (· != Bracket.curly.closingChar)
      let digits := inside.filter (· != '_')
      match (if inside.head? = some '_' then none else hexadecimal? digits),
          rest.dropWhile (· != Bracket.curly.closingChar) with
      | some n, _ :: after => if n.isValidChar then some (Char.ofNat n, after) else none
      | _, _ => none
    else none

/-- The sorts of quoted literals. -/
inductive QuotedSort where
  | text
  | bytes
  /-- A C string, which holds no null character. -/
  | terminated
  deriving DecidableEq

/-- Whether the character may stand in a literal of the sort. -/
def QuotedSort.admits : QuotedSort → Char → Bool
  | .text, _ => true
  | .bytes, c => c.toNat < 128
  | .terminated, c => c.toNat != 0

/-- The characters of the one-letter escapes. -/
def simpleEscape? : Char → Option Char
  | 'n' => some '\n'
  | 'r' => some '\r'
  | 't' => some '\t'
  | '\\' => some '\\'
  | '0' => some (Char.ofNat 0)
  | '\'' => some '\''
  | '"' => some '"'
  | _ => none

/-- The character of two hexadecimal digits. In a string the first is less than eight. -/
def hexEscape? (sort : QuotedSort) (high low : Char) : Option Char :=
  match hexDigit? high, hexDigit? low with
  | some h, some l =>
    if sort = .text && 8 ≤ h || sort = .terminated && 16 * h + l = 0 then none
    else some (Char.ofNat (16 * h + l))
  | _, _ => none

/-- The character of an escape after its backslash, and the rest. -/
def escape? (sort : QuotedSort) : Text → Option (Char × Text)
  | 'x' :: high :: low :: rest => (hexEscape? sort high low).map (·, rest)
  | 'u' :: rest =>
    if sort = .bytes then none else (codePoint? rest).filter fun r => sort.admits r.1
  | c :: rest => ((simpleEscape? c).filter sort.admits).map (·, rest)
  | [] => none

/-! ### Literals -/

/-- The text after the whitespace that a line continuation skips. -/
def afterIndent? : Text → Option Text
  | [] => none
  | '\r' :: '\n' :: rest => afterIndent? rest
  | '\r' :: _ => none
  | c :: rest =>
    if c = ' ' ∨ c = '\t' ∨ c = '\n' then afterIndent? rest else some (c :: rest)

/-- Skipping the indentation only removes characters. -/
theorem length_le_of_afterIndent? {t rest : Text} (h : afterIndent? t = some rest) :
    rest.length ≤ t.length := by
  fun_induction afterIndent? t with
  | case1 => simp at h
  | case2 _ ih => have := ih h; simp only [List.length_cons]; omega
  | case3 => simp at h
  | case4 _ _ _ _ _ ih => have := ih h; simp only [List.length_cons]; omega
  | case5 => simp only [Option.some.injEq] at h; exact Nat.le_of_eq (by rw [h])

/-- Reads a literal after its opening quote: its value, and the rest. -/
def quoted? (sort : QuotedSort) (t : Text) : Option (Text × Text) :=
  match t with
  | [] => none
  | '"' :: rest => some ([], rest)
  -- a line break in a literal is one line feed; a carriage return alone is invalid
  | '\r' :: '\n' :: rest => (quoted? sort rest).map fun r => ('\n' :: r.1, r.2)
  | '\r' :: _ => none
  -- a backslash at the end of a line skips the indentation of the next one
  | '\\' :: '\n' :: rest =>
    match _h : afterIndent? rest with
    | some after => quoted? sort after
    | none => none
  | '\\' :: '\r' :: '\n' :: rest =>
    match _h : afterIndent? rest with
    | some after => quoted? sort after
    | none => none
  | '\\' :: rest =>
    match escape? sort rest with
    | some (c, after) =>
      if after.length < rest.length then (quoted? sort after).map fun r => (c :: r.1, r.2)
      else none
    | none => none
  | c :: rest =>
    if sort.admits c then (quoted? sort rest).map fun r => (c :: r.1, r.2) else none
termination_by t.length
decreasing_by
  all_goals simp only [List.length_cons]
  all_goals first | omega | have := length_le_of_afterIndent? _h; omega

/-- Reads a raw literal after its opening quote, up to a quote with as many number signs. -/
def rawQuoted? (sort : QuotedSort) (signs : Nat) : Text → Option (Text × Text)
  | [] => none
  -- unlike in `quoted?`, the line break stays as it is
  | '\r' :: '\n' :: rest => (rawQuoted? sort signs rest).map fun r => ('\r' :: '\n' :: r.1, r.2)
  | '\r' :: _ => none
  | c :: rest =>
    if c = '"' && (List.replicate signs '#').isPrefixOf rest then some ([], rest.drop signs)
    else if sort.admits c then (rawQuoted? sort signs rest).map fun r => (c :: r.1, r.2)
    else none

/-- Reads the number signs, the quote and the body of a raw literal. -/
def raw? (sort : QuotedSort) (t : Text) : Option (Text × Text) :=
  let signs := (t.takeWhile (· == '#')).length
  match t.dropWhile (· == '#') with
  | '"' :: rest => if signs ≤ 255 then rawQuoted? sort signs rest else none
  | _ => none

/-- The rest after a character literal whose opening apostrophe has been read. -/
def character? (sort : QuotedSort) : Text → Option Text
  | '\\' :: rest =>
    match escape? sort rest with
    | some (_, '\'' :: after) => some after
    | _ => none
  | c :: '\'' :: rest => if sort.admits c then some rest else none
  | _ => none

/-! ### Tokens -/

/-- The prefix of the text before the rest. -/
def consumed (t rest : Text) : Text := t.take (t.length - rest.length)

/-- The token of a string literal, given its value and the rest. -/
def stringToken (t : Text) (read : Option (Text × Text)) : Option (Token × Text) :=
  read.map fun r =>
    let rest := afterSuffix r.2
    (.string r.1 (consumed t rest), rest)

/-- The token of any other literal, given the rest. -/
def literalToken (t : Text) (rest : Option Text) : Option (Token × Text) :=
  rest.map fun r =>
    let rest := afterSuffix r
    (.literal (consumed t rest), rest)

/-- Reads a literal. -/
def literal? (t : Text) : Option (Token × Text) :=
  match t with
  | '"' :: rest => stringToken t (quoted? .text rest)
  | 'r' :: '"' :: _ => stringToken t (raw? .text t.tail)
  | 'r' :: '#' :: '"' :: _ => stringToken t (raw? .text t.tail)
  | 'r' :: '#' :: '#' :: _ => stringToken t (raw? .text t.tail)
  | 'b' :: '"' :: rest => literalToken t ((quoted? .bytes rest).map Prod.snd)
  | 'c' :: '"' :: rest => literalToken t ((quoted? .terminated rest).map Prod.snd)
  | 'b' :: 'r' :: '"' :: _ => literalToken t ((raw? .bytes (t.drop 2)).map Prod.snd)
  | 'b' :: 'r' :: '#' :: _ => literalToken t ((raw? .bytes (t.drop 2)).map Prod.snd)
  | 'c' :: 'r' :: '"' :: _ => literalToken t ((raw? .terminated (t.drop 2)).map Prod.snd)
  | 'c' :: 'r' :: '#' :: _ => literalToken t ((raw? .terminated (t.drop 2)).map Prod.snd)
  | 'b' :: '\'' :: rest => literalToken t (character? .bytes rest)
  | '\'' :: rest => literalToken t (character? .text rest)
  | c :: _ => if c.isDigit then literalToken t (afterNumber? t) else none
  | [] => none

/-- The prefixes of literals that begin with a letter. -/
def literalMarks : List String :=
  ["r\"", "r#\"", "r##", "b\"", "b'", "br\"", "br#", "c\"", "cr\"", "cr#"]

/-- Whether the text begins with one of `literalMarks`. -/
def beginsWithLiteral (t : Text) : Bool := literalMarks.any fun m => m.toList.isPrefixOf t

/-- Reads an identifier or a keyword, also where the text begins with one of `literalMarks`. -/
def anyWord? : Text → Option (Text × Text)
  | 'r' :: '#' :: c :: rest =>
    let name := c :: rest.takeWhile continuesIdentifier
    if startsIdentifier c && name != ['_'] && !(Token.pathKeywords.any fun k => k.toList = name)
    then some ('r' :: '#' :: name, rest.dropWhile continuesIdentifier)
    else none
  | 'r' :: '#' :: [] => none
  | c :: rest =>
    if startsIdentifier c then
      some (c :: rest.takeWhile continuesIdentifier, rest.dropWhile continuesIdentifier)
    else none
  | [] => none

/-- Reads an identifier or a keyword. -/
def word? (t : Text) : Option (Text × Text) := if beginsWithLiteral t then none else anyWord? t

/-- The punctuation characters. -/
def marks : Text := "~!@#$%^&*-=+|;:,<.>/?'".toList

/-- Whether the text begins with a punctuation character that does not open a comment. -/
def beginsWithMark : Text → Bool
  | '/' :: '/' :: _ => false
  | '/' :: '*' :: _ => false
  | c :: _ => marks.contains c
  | [] => false

/-- Reads a lifetime after its apostrophe. In front of one of `literalMarks` the apostrophe is a
punctuation mark. -/
def lifetime? (t : Text) : Option (Token × Text) :=
  match anyWord? t with
  -- a character literal has been tried before, so this is none
  | some (_, '\'' :: _) => none
  | some (name, after) =>
    if after.head? = some '#' && !"r#".toList.isPrefixOf t then none
    else if beginsWithLiteral t then some (.mark '\'' true, t)
    else some (.lifetime name, after)
  | none => none

/-- Reads a punctuation mark or a lifetime. -/
def mark? (t : Text) : Option (Token × Text) :=
  if beginsWithMark t then
    match t with
    | '\'' :: rest => lifetime? rest
    | c :: rest => some (.mark c (beginsWithMark rest), rest)
    | [] => none
  else none

/-- The opening or closing delimiter. -/
def bracket? (c : Char) : Option Token :=
  [Bracket.round, Bracket.square, Bracket.curly].findSome? fun b =>
    if c = b.openingChar then some (.opening b)
    else if c = b.closingChar then some (.closing b)
    else none

/-- The source of a character in a string literal, given the next character: a null before an octal
digit is a two-digit escape, and other control characters are code points. -/
def writtenCharacter (next : Option Char) (c : Char) : Text :=
  if c.toNat = 0 then
    if next.any fun d => '0' ≤ d && d ≤ '7' then "\\x00".toList else "\\0".toList
  else if c = '"' ∨ c = '\\' then ['\\', c]
  else if c = '\t' then ['\\', 't']
  else if c = '\n' then ['\\', 'n']
  else if c = '\r' then ['\\', 'r']
  else if c.toNat < 0x20 || c.toNat = 0x7F then
    ['\\', 'u', Bracket.curly.openingChar] ++ Nat.toDigits 16 c.toNat ++ [Bracket.curly.closingChar]
  else [c]

/-- The source of a text in a string literal, without the quotes. -/
def writtenText : Text → Text
  | [] => []
  | c :: rest => writtenCharacter rest.head? c ++ writtenText rest

/-- The tokens of a `doc` attribute. -/
def documentation (inner : Bool) (text : Text) : List Token :=
  .mark '#' false :: (if inner then [.mark '!' false] else []) ++
    [.opening .square, .word "doc".toList, .mark '=' false,
      .string text ('"' :: writtenText text ++ ['"']), .closing .square]

/-- The text of a doc comment, whether it is an inner one, and the rest. -/
def documentation? : Text → Option (Bool × Text × Text)
  | '/' :: '/' :: c :: rest =>
    if documentsLine (c :: rest) then some (c == '!', splitLine rest) else none
  | '/' :: '*' :: c :: rest =>
    if documentsBlock (c :: rest) then
      (afterComment 1 (c :: rest)).map fun after =>
        (c == '!', (consumed rest after).dropLast.dropLast, after)
    else none
  | _ => none

/-- The placeholder for an invalid literal, itself read as a literal. -/
def unreadable : Text := "(/*ERROR*/)".toList

/-- Reads one token, or the tokens of one doc comment. In a doc comment every carriage return must
be followed by a line feed. -/
def next? (t : Text) : Option (List Token × Text) :=
  if unreadable.isPrefixOf t then some ([.literal unreadable], t.drop unreadable.length)
  else
    match t.head?.bind bracket? with
    | some b => some ([b], t.tail)
    | none =>
      match documentation? t with
      | some (inner, text, rest) =>
        -- there is no other token that begins like a doc comment
        if returnsEndLines text then some (documentation inner text, rest) else none
      | none =>
        -- some literals begin with a letter or an apostrophe, so marks and words come after them
        match literal? t with
        | some (token, rest) => some ([token], rest)
        | none =>
          match mark? t with
          | some (token, rest) => some ([token], rest)
          | none => (word? t).map fun w => ([.word w.1], w.2)

/-- Reads tokens to the end of the text. -/
def tokensFrom (t : Text) : Option (List Token) :=
  if t.isEmpty then some []
  else
    match afterBlank? t with
    | some rest => if rest.length < t.length then tokensFrom rest else none
    | none =>
      match next? t with
      | some (tokens, rest) =>
        if rest.length < t.length then (tokensFrom rest).map (tokens ++ ·) else none
      | none => none
termination_by t.length

/-- The text without a byte order mark in front. -/
def withoutByteOrder : Text → Text
  | c :: rest => if c.toNat = 0xFEFF then rest else c :: rest
  | [] => []

/-- The tokens of a text, if all of it can be cut into tokens and the delimiters are balanced. -/
def tokenize (t : Text) : Option (List Token) :=
  (tokensFrom (withoutByteOrder t)).filter (Token.balanced [])

end RecordQuery.Declaration

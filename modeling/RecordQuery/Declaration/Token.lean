import RecordQuery.Text.Blank

/-!
# Tokens

The tokens of a declaration: words, lifetimes, literals, punctuation marks and delimiters. A mark is
joint when another mark follows it without whitespace; operators of several characters are joint
marks. Delimiters stay in the list, and `Token.balanced` checks that they match.
-/

namespace RecordQuery.Declaration

/-- The shapes of delimiters. -/
inductive Bracket where
  | round
  | square
  | curly
  deriving DecidableEq

/-- The opening delimiter of a shape. -/
def Bracket.openingChar : Bracket → Char
  | .round => '('
  | .square => '['
  | .curly => Char.ofNat 0x7b

/-- The closing delimiter of a shape. -/
def Bracket.closingChar : Bracket → Char
  | .round => ')'
  | .square => ']'
  | .curly => Char.ofNat 0x7d

/-- A token. -/
inductive Token where
  /-- An identifier or a keyword. A raw identifier keeps its prefix. -/
  | word (text : Text)
  /-- The name of a lifetime, without the apostrophe. -/
  | lifetime (name : Text)
  /-- A string literal: its value and its source. -/
  | string (value source : Text)
  /-- The source of any other literal. -/
  | literal (source : Text)
  /-- A punctuation character, and whether it is joint. -/
  | mark (c : Char) (joint : Bool)
  | opening (b : Bracket)
  | closing (b : Bracket)
  deriving DecidableEq

namespace Token

/-- The source of the token. -/
def source : Token → Text
  | .word text => text
  | .lifetime name => '\'' :: name
  | .string _ source => source
  | .literal source => source
  | .mark c _ => [c]
  | .opening b => [b.openingChar]
  | .closing b => [b.closingChar]

/-- The source of the tokens, without whitespace. -/
def sources (tokens : List Token) : Text :=
  (tokens.flatMap source).filter fun c => !Text.isBlank c

/-- Whether the delimiters match, given the open ones, the innermost first. -/
def balanced : List Bracket → List Token → Bool
  | [], [] => true
  | _ :: _, [] => false
  | stack, .opening b :: tokens => balanced (b :: stack) tokens
  | [], .closing _ :: _ => false
  | outer :: stack, .closing b :: tokens => outer = b && balanced stack tokens
  | stack, _ :: tokens => balanced stack tokens

/-- The keywords, which are no identifiers. -/
def keywords : List String := [
  "_", "abstract", "as", "async", "await", "become", "box", "break", "const", "continue", "crate",
  "do", "dyn", "else", "enum", "extern", "false", "final", "fn", "for", "if", "impl", "in", "let",
  "loop", "macro", "match", "mod", "move", "mut", "override", "priv", "pub", "ref", "return",
  "Self", "self", "static", "struct", "super", "trait", "true", "try", "type", "typeof", "unsafe",
  "unsized", "use", "virtual", "where", "while", "yield"]

/-- Whether a word is an identifier. -/
def isName (word : Text) : Bool := !keywords.any fun k => k.toList = word

/-- The keywords that may be segments of a path. -/
def pathKeywords : List String := ["self", "Self", "crate", "super"]

/-- Whether a word may be a segment of a path. -/
def isPathWord (word : Text) : Bool :=
  isName word || pathKeywords.any fun k => k.toList = word

end Token

end RecordQuery.Declaration

import RecordQuery.Text.Basic
import RecordQuery.Text.IdentifierTable

/-!
# Identifiers

An identifier is an underscore or a character of `identifierStartTable`, followed by such characters
and those of `identifierExtendTable`.
-/

namespace RecordQuery.Text

/-- Whether an identifier may start with the character. -/
def startsIdentifier (c : Char) : Bool :=
  c == '_' || if c.toNat < 128 then c.isAlpha else inTable identifierStartTable c

/-- Whether an identifier may go on with the character. -/
def continuesIdentifier (c : Char) : Bool :=
  startsIdentifier c ||
    if c.toNat < 128 then c.isDigit else inTable identifierExtendTable c

/-- Whether the text is an identifier. -/
def isIdentifier : Text → Bool
  | [] => false
  | c :: t => startsIdentifier c && t.all continuesIdentifier

end RecordQuery.Text

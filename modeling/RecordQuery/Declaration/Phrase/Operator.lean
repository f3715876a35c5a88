import RecordQuery.Declaration.TokenReader

/-!
# Operators

Binary operators by precedence. The right operand of an operator takes the operators of a higher
rank; assignments associate to the right.
-/

namespace RecordQuery.Declaration

open Token (startWith)

/-- The classes of binary operators, from the lowest precedence to the highest. -/
inductive Strength where
  | assignment
  | range
  | disjunction
  | conjunction
  | comparison
  | bitDisjunction
  | bitDifference
  | bitConjunction
  | shift
  | sum
  | product
  | conversion
  deriving DecidableEq

namespace Strength

/-- The precedence of the class. -/
def rank : Strength → Nat
  | assignment => 1
  | range => 2
  | disjunction => 3
  | conjunction => 4
  | comparison => 6
  | bitDisjunction => 7
  | bitDifference => 8
  | bitConjunction => 9
  | shift => 10
  | sum => 11
  | product => 12
  | conversion => 13

/-- The least rank of the operators in the right operand. -/
def rightRank (s : Strength) : Nat := if s = assignment then s.rank else s.rank + 1

/-- The binary operators except ranges. An operator comes before its prefixes. -/
def spellings : List (String × Strength) := [
  ("+=", assignment), ("-=", assignment), ("*=", assignment), ("/=", assignment),
  ("%=", assignment), ("^=", assignment), ("&=", assignment), ("|=", assignment),
  ("<<=", assignment), (">>=", assignment), ("&&", conjunction), ("||", disjunction),
  ("<<", shift), (">>", shift), ("==", comparison), ("<=", comparison), ("!=", comparison),
  (">=", comparison), ("+", sum), ("-", sum), ("*", product), ("/", product), ("%", product),
  ("^", bitDifference), ("&", bitConjunction), ("|", bitDisjunction), ("<", comparison),
  (">", comparison), ("=", assignment)]

/-- The binary operator in front of the tokens. The arrow `=>` is none. -/
def operator? (tokens : List Token) : Option (String × Strength) :=
  if startWith "=>" tokens then none else spellings.find? fun s => startWith s.1 tokens

end Strength

end RecordQuery.Declaration

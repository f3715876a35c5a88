import RecordQuery.Declaration.Token

/-!
# Type expressions

A `TypeExpr` keeps the tokens of a type. Of a path it also keeps the segments and their generic
arguments: `TypeExpr.element?` uses them to recognize an optional type.
-/

namespace RecordQuery.Declaration

/-- The sorts of generic arguments. -/
inductive ArgumentSort where
  | lifetime
  | type
  /-- A constant, an associated type or a bound on one. -/
  | other
  deriving DecidableEq

/-- A generic argument. -/
structure Argument where
  sort : ArgumentSort
  tokens : List Token
  deriving DecidableEq

/-- The arguments of a path segment. -/
inductive SegmentArguments where
  | absent
  | angle (arguments : List Argument)
  /-- Types in parentheses, as of a function trait. -/
  | round
  deriving DecidableEq

/-- Whether there are no arguments. -/
def SegmentArguments.isEmpty : SegmentArguments → Bool
  | .absent => true
  | .angle arguments => arguments.isEmpty
  | .round => false

/-- A segment of a path. -/
structure Segment where
  name : Text
  arguments : SegmentArguments
  deriving DecidableEq

/-- The segments of a path, and its tokens. -/
structure Path where
  segments : List Segment
  tokens : List Token
  deriving DecidableEq

/-- Whether no segment has arguments. -/
def Path.isPlain (p : Path) : Bool := p.segments.all fun s => s.arguments = .absent

/-- A type. -/
inductive TypeExpr where
  /-- A path, `qualified` if it begins with a type in angle brackets. -/
  | path (qualified : Bool) (path : Path)
  /-- A single trait bound that is no path. -/
  | bound (tokens : List Token)
  /-- A type in parentheses. -/
  | enclosed (tokens : List Token)
  /-- A type of any other form. -/
  | other (tokens : List Token)
  deriving DecidableEq

namespace TypeExpr

/-- The tokens of the type. -/
def tokens : TypeExpr → List Token
  | .path _ p => p.tokens
  | .bound tokens => tokens
  | .enclosed tokens => tokens
  | .other tokens => tokens

/-- The element type of an optional type: an unqualified path whose last segment is `Option`, with
one type argument. -/
def element? : TypeExpr → Option (List Token)
  | .path false p =>
    match p.segments.getLast? with
    | some ⟨name, .angle [⟨.type, tokens⟩]⟩ =>
      if name = "Option".toList then some tokens else none
    | _ => none
  | _ => none

end TypeExpr

end RecordQuery.Declaration

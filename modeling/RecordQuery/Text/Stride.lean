/-!
# Runs of code points

A table of characters is a list of runs of code points. A `Stride` has a first and a last code point
and a step; a `Shift` is a stride whose members are all mapped by adding one distance.
-/

namespace RecordQuery.Text

/-- The code points `first`, `first + step`, … up to `last`. -/
structure Stride where
  first : Nat
  last : Nat
  step : Nat

/-- Whether the code point belongs to the run. -/
def Stride.covers (run : Stride) (n : Nat) : Bool :=
  run.first ≤ n && n ≤ run.last && (n - run.first) % run.step == 0

/-- A stride whose members are mapped by adding `distance`. -/
structure Shift extends Stride where
  distance : Int

/-- Whether the character is in one of the runs. -/
def inTable (table : List Stride) (c : Char) : Bool :=
  table.any fun run => run.covers c.toNat

/-- The character that the table maps `c` to, if it is in one of the runs. -/
def shifted? (table : List Shift) (c : Char) : Option Char :=
  (table.find? fun run => run.covers c.toNat).map fun run =>
    Char.ofNat ((c.toNat : Int) + run.distance).toNat

end RecordQuery.Text

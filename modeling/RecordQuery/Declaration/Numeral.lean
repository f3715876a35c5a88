import RecordQuery.Text.Identifier

/-!
# Numeric literals

`Text.afterNumber?` finds the end of a numeric literal with its suffix, `Text.whole?` is the value
of an integer. `Text.place?` is the index of a tuple field, and `Text.places?` are the indices in a
nested tuple access such as `0.1`, which is lexed as a float.
-/

namespace RecordQuery.Text

/-! ### Digits -/

/-- The value of a hexadecimal digit. -/
def hexDigit? (c : Char) : Option Nat :=
  if c.isDigit then some (c.toNat - '0'.toNat)
  else if 'a' ≤ c ∧ c ≤ 'f' then some (c.toNat - 'a'.toNat + 10)
  else if 'A' ≤ c ∧ c ≤ 'F' then some (c.toNat - 'A'.toNat + 10)
  else none

/-- Whether the character is a decimal digit or an underscore. -/
def isDecimal (c : Char) : Bool := c.isDigit || c == '_'

/-- Whether the character begins an exponent. -/
def marksPower (c : Char) : Bool := c == 'e' || c == 'E'

/-! ### Extent -/

/-- The text after an optional suffix. -/
def afterSuffix (t : Text) : Text :=
  match t with
  | c :: rest => if startsIdentifier c then rest.dropWhile continuesIdentifier else t
  | [] => []

/-- The text after the digits of the base, given whether one has been read. A decimal digit outside
of the base makes the literal invalid. -/
def afterDigits? (base : Nat) : Bool → Text → Option Text
  | found, [] => if found then some [] else none
  | found, c :: rest =>
    if c = '_' then afterDigits? base found rest
    else
      match hexDigit? c with
      | some d =>
        if d < base then afterDigits? base true rest
        -- a letter beyond the base begins the suffix
        else if found && !c.isDigit then some (c :: rest)
        else none
      | none => if found then some (c :: rest) else none

/-- The text after an integer. -/
def afterInteger? : Text → Option Text
  | '0' :: 'x' :: rest => afterDigits? 16 false rest
  | '0' :: 'o' :: rest => afterDigits? 8 false rest
  | '0' :: 'b' :: rest => afterDigits? 2 false rest
  | t => afterDigits? 10 false t

/-- The text after an exponent whose `e` has been read. -/
def afterExponent? (t : Text) : Option Text :=
  let signed := t.dropWhile (· == '_')
  let power := match signed with
    | '+' :: rest => rest
    | '-' :: rest => rest
    | _ => signed
  if (power.takeWhile isDecimal).any Char.isDigit then some (power.dropWhile isDecimal) else none

/-- The text after a float, which has a fraction, an exponent, or both. A dot does not belong to the
number if another dot or an identifier follows. -/
def afterFraction? (t : Text) : Option Text :=
  match t.dropWhile isDecimal with
  | '.' :: after =>
    if after.head?.any fun c => c == '.' || startsIdentifier c then none
    else
      match after.dropWhile isDecimal with
      | mark :: power =>
        if marksPower mark then some ((afterExponent? power).getD (mark :: power))
        else some (mark :: power)
      | [] => some []
  | mark :: power => if marksPower mark then afterExponent? power else none
  | [] => none

/-- The text after a numeric literal and its suffix. -/
def afterNumber? (t : Text) : Option Text :=
  let whole (rest : Text) : Option Text :=
    some (afterSuffix rest) |>.filter fun t => !t.head?.any continuesIdentifier
  -- a literal that could be both is a float
  ((afterFraction? t).bind whole).or ((afterInteger? t).bind whole)

/-! ### Values -/

/-- Whether an exponent follows its `e`; otherwise the `e` begins a suffix. -/
def raises (t : Text) : Bool :=
  let found := (t.takeWhile isDecimal).any Char.isDigit
  match t.dropWhile isDecimal with
  | [] => found
  | c :: rest => c = '+' || c = '-' || found && isIdentifier (c :: rest)

/-- The value of the further digits of an integer, and the suffix. -/
def wholeFrom (base value : Nat) : Text → Option (Nat × Text)
  | [] => some (value, [])
  | c :: rest =>
    if c = '_' then wholeFrom base value rest
    -- with a point or an exponent it is no integer
    else if base = 10 && (c = '.' || marksPower c && raises rest) then none
    else
      match (hexDigit? c).filter (· < base) with
      | some digit => wholeFrom base (base * value + digit) rest
      | none => if isIdentifier (c :: rest) then some (value, c :: rest) else none

/-- The value of an integer literal and its suffix. -/
def whole? : Text → Option (Nat × Text)
  | '0' :: 'x' :: rest => wholeFrom 16 0 rest
  | '0' :: 'o' :: rest => wholeFrom 8 0 rest
  | '0' :: 'b' :: rest => wholeFrom 2 0 rest
  | t => wholeFrom 10 0 t

/-- The index of a tuple field: an integer literal without a suffix that fits into 32 bits. -/
def place? (t : Text) : Option Nat :=
  match whole? t with
  | some (n, []) => if n < UInt32.size then some n else none
  | _ => none

/-- The parts of a text between its dots. -/
def betweenPoints : Text → List Text
  | [] => [[]]
  | c :: rest =>
    if c = '.' then [] :: betweenPoints rest
    else
      match betweenPoints rest with
      | part :: parts => (c :: part) :: parts
      | [] => [[c]]

/-- The indices in a float literal, and whether it ends with a dot. -/
def places? (t : Text) : Option (List Nat × Bool) :=
  let ended := t.getLast? = some '.'
  let parts := betweenPoints (if ended then t.dropLast else t)
  (parts.mapM place?).map (·, ended)

end RecordQuery.Text

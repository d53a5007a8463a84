/-!
# JSON values

Values as they stand in a document: the members of an object keep their order, and a name may
be given twice.

* An integer is a number written with digits alone; a `Decimal` is any other number, so `1.0`,
  `1e0` and `-0` are no integers.
* A document may hold values that can be skipped but not read, such as a string with half of a
  surrogate pair. They are `illFormed`.

`Json.isReadable` says whether a value can be read as a whole: it holds nothing ill-formed, and
each of its numbers fits a 64-bit floating-point number (`fitsDouble`).
-/

namespace CodeIndex

/-- A number that is not written with digits alone: a fraction, an exponent, or minus zero. -/
structure Decimal where
  negative : Bool
  whole : Nat
  fraction : List Nat
  exponent : Option Int
deriving DecidableEq, Repr

/-- A value of a JSON document. -/
inductive Json where
  | null
  | bool (value : Bool)
  | integer (value : Int)
  | decimal (value : Decimal)
  | string (value : String)
  | array (items : List Json)
  | object (members : List (String × Json))
  | illFormed
deriving Repr, Inhabited

/-! ## Numbers that fit -/

/-- The number rounded to 53 significant binary digits, a tie to the even neighbour. -/
def roundTo53Bits (n : Nat) : Nat :=
  let excess := n.log2 - 52
  let unit := Nat.pow 2 excess
  let below := n / unit
  let rest := 2 * (n % unit)
  let up := unit < rest || (rest == unit && below % 2 == 1)
  (if up then below + 1 else below) * unit

/-- Takes digits into a number as long as it stays below `2 ^ 64`, and counts those left. -/
def takeSignificant (significand : Nat) : List Nat → Nat × Nat
  | [] => (significand, 0)
  | digit :: rest =>
    if 10 * significand + digit < UInt64.size then takeSignificant (10 * significand + digit) rest
    else (significand, rest.length + 1)

/-- The digits of a number in decimal, the most significant first. -/
def decimalDigits (n : Nat) : List Nat := (Nat.toDigits 10 n).map fun c => c.toNat - '0'.toNat

/-- The number with the given digits before and after the point and the given exponent stays
finite when it is taken as a significand of 64 bits times a power of ten. -/
def fitsDouble (whole fraction : List Nat) (exponent : Int) : Bool :=
  let (significand, wholeLeft) := takeSignificant 0 whole
  let (significand, fractionLeft) := takeSignificant significand fraction
  let power := (wholeLeft : Int) - ((fraction.length - fractionLeft : Nat) : Int) + exponent
  significand == 0 || power < 0 ||
    (power ≤ 308 &&
      roundTo53Bits (roundTo53Bits significand * roundTo53Bits (Nat.pow 10 power.toNat)) <
        Nat.pow 2 1024)

/-- A decimal number that fits a 64-bit floating-point number. -/
def Decimal.isFinite (number : Decimal) : Bool :=
  fitsDouble (decimalDigits number.whole) number.fraction (number.exponent.getD 0)

namespace Json

/-! ## Whole values -/

mutual

/-- Nothing in the value is ill-formed, and all its numbers fit. -/
def isReadable : Json → Bool
  | .illFormed => false
  | .integer value => fitsDouble (decimalDigits value.natAbs) [] 0
  | .decimal value => value.isFinite
  | .array items => itemsReadable items
  | .object members => membersReadable members
  | _ => true

/-- All items can be read. -/
def itemsReadable : List Json → Bool
  | [] => true
  | item :: rest => isReadable item && itemsReadable rest

/-- All members can be read. -/
def membersReadable : List (String × Json) → Bool
  | [] => true
  | (_, value) :: rest => isReadable value && membersReadable rest

end

mutual

/-- How deep arrays and objects are nested. -/
def depth : Json → Nat
  | .array items => itemsDepth items + 1
  | .object members => membersDepth members + 1
  | _ => 0

/-- The depth of the deepest item. -/
def itemsDepth : List Json → Nat
  | [] => 0
  | item :: rest => max (depth item) (itemsDepth rest)

/-- The depth of the deepest member. -/
def membersDepth : List (String × Json) → Nat
  | [] => 0
  | (_, value) :: rest => max (depth value) (membersDepth rest)

end

/-! ## Parts of values -/

/-- The value of the first member with a name. -/
def member? (name : String) : Json → Option Json
  | .object members => (members.find? (·.1 == name)).map (·.2)
  | _ => none

/-- The text of a string. -/
def string? : Json → Option String
  | .string value => some value
  | _ => none

/-- The value of an integer. -/
def integer? : Json → Option Int
  | .integer value => some value
  | _ => none

/-- The value of an integer that is not negative and below a bound. -/
def natBelow? (bound : Nat) : Json → Option Nat
  | .integer (.ofNat value) => if value < bound then some value else none
  | _ => none

/-- The value of a boolean. -/
def bool? : Json → Option Bool
  | .bool value => some value
  | _ => none

/-- The items of an array. -/
def items? : Json → Option (List Json)
  | .array items => some items
  | _ => none

end Json

end CodeIndex

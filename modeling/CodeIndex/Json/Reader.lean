import CodeIndex.Json.Basic
import CodeIndex.Text.Digit
import CodeIndex.Text.Rest

/-!
# Reading JSON

`Json.parse?` reads one value with blanks around it, by the grammar of the standard and nothing
beyond it: no byte order mark, comment, trailing comma, leading zero, leading plus sign, or raw
control character in a string.

A string is first read into code units (`readUnits`), since an escape may name half of a
surrogate pair. A string whose halves do not pair up is ill-formed, and so is an object with
such a name; the document is still read on behind it.

Every reader returns what it read together with a rest that is shorter than its input, which is
why reading ends.
-/

namespace CodeIndex.Json

open Text (Shorter NoLonger whole skipWhile length_dropWhile_le)

/-- A blank between tokens: space, tab, line feed, carriage return. -/
def isSpace (c : Char) : Bool := c == ' ' || c == '\t' || c == '\n' || c == '\r'

/-- The text without the blanks in front. -/
def skipSpace (text : List Char) : NoLonger text := skipWhile isSpace text

/-! ## Strings -/

/-- The character of a two-character escape. -/
def escaped? (c : Char) : Option Char :=
  if c = '"' then some '"'
  else if c = '\\' then some '\\'
  else if c = '/' then some '/'
  else if c = 'b' then some '\x08'
  else if c = 'f' then some '\x0c'
  else if c = 'n' then some '\n'
  else if c = 'r' then some '\r'
  else if c = 't' then some '\t'
  else none

/-- Reads the inside of a string and its closing quote. The units read so far are in reverse. -/
def readUnits (units : List Nat) : List Char → Option (List Nat × List Char)
  | [] => none
  | '"' :: rest => some (units.reverse, rest)
  | '\\' :: 'u' :: a :: b :: c :: d :: rest =>
    match Text.numeral? 16 [a, b, c, d] with
    | some unit => readUnits (unit :: units) rest
    | none => none
  | '\\' :: c :: rest =>
    match escaped? c with
    | some c => readUnits (c.toNat :: units) rest
    | none => none
  | c :: rest => if c.toNat < 0x20 then none else readUnits (c.toNat :: units) rest

theorem length_readUnits {units : List Nat} {text : List Char} {found : List Nat × List Char}
    (read : readUnits units text = some found) : found.2.length < text.length := by
  fun_induction readUnits units text with
  | case1 => cases read
  | case2 => cases read; exact Nat.lt_succ_self _
  | case3 _ _ _ _ _ _ _ _ ih => have := ih read; simp only [List.length_cons]; omega
  | case4 => cases read
  | case5 _ _ _ _ _ _ ih => have := ih read; simp only [List.length_cons]; omega
  | case6 => cases read
  | case7 => cases read
  | case8 _ _ _ _ _ _ _ ih => have := ih read; simp only [List.length_cons]; omega

/-- The first half of a surrogate pair. -/
def isHighHalf (unit : Nat) : Bool := 0xD800 ≤ unit && unit ≤ 0xDBFF

/-- The second half of a surrogate pair. -/
def isLowHalf (unit : Nat) : Bool := 0xDC00 ≤ unit && unit ≤ 0xDFFF

/-- The characters of some code units, if all surrogates pair up. The characters found so far
are in reverse. -/
def joinUnits (chars : List Char) : List Nat → Option (List Char)
  | [] => some chars.reverse
  | unit :: rest =>
    if isHighHalf unit then
      match rest with
      | low :: rest =>
        if isLowHalf low then
          let code := 0x10000 + (unit - 0xD800) * 0x400 + (low - 0xDC00)
          joinUnits (Char.ofNat code :: chars) rest
        else none
      | [] => none
    else if isLowHalf unit then none
    else joinUnits (Char.ofNat unit :: chars) rest

/-- Reads the inside of a string; there is no text if it is ill-formed. -/
def readString (text : List Char) : Option (Option String × Shorter text) :=
  match read : readUnits [] text with
  | none => none
  | some (units, rest) =>
    some ((joinUnits [] units).map String.ofList, ⟨rest, length_readUnits read⟩)

/-! ## Numbers -/

/-- A decimal digit. -/
def isDigit (c : Char) : Bool := '0' ≤ c && c ≤ '9'

/-- The value of a decimal digit. -/
def digitValue (c : Char) : Nat := c.toNat - '0'.toNat

/-- The number with some digits, the most significant first. -/
def ofDigits (digits : List Nat) : Nat := digits.foldl (fun acc digit => 10 * acc + digit) 0

/-- Reads at least one digit. -/
def readDigits (text : List Char) : Option (List Nat × Shorter text) :=
  match text with
  | [] => none
  | c :: rest =>
    if isDigit c then
      some (digitValue c :: (rest.takeWhile isDigit).map digitValue,
        ⟨rest.dropWhile isDigit, Nat.lt_succ_of_le (length_dropWhile_le _ _)⟩)
    else none

/-- Reads a fraction if there is one. -/
def readFraction : (text : List Char) → Option (List Nat × NoLonger text)
  | '.' :: rest =>
    match readDigits rest with
    | some (digits, ⟨rest, shorter⟩) => some (digits, ⟨rest, by simp; omega⟩)
    | none => none
  | text => some ([], whole text)

/-- Reads the sign of an exponent, which may be left out. -/
def readSign : (text : List Char) → Bool × NoLonger text
  | '-' :: rest => (true, ⟨rest, Nat.le_succ _⟩)
  | '+' :: rest => (false, ⟨rest, Nat.le_succ _⟩)
  | text => (false, whole text)

/-- Reads an exponent if there is one. -/
def readExponent : (text : List Char) → Option (Option Int × NoLonger text)
  | [] => some (none, whole [])
  | c :: rest =>
    if c = 'e' ∨ c = 'E' then
      match readSign rest with
      | (negative, ⟨unsigned, signed⟩) =>
        match readDigits unsigned with
        | some (digits, ⟨rest, shorter⟩) =>
          let value := Int.ofNat (ofDigits digits)
          some (some (if negative then -value else value),
            ⟨rest, Nat.le_succ_of_le (Nat.le_trans (Nat.le_of_lt shorter) signed)⟩)
        | none => none
    else some (none, whole (c :: rest))

/-- The value of a number in parts. Digits alone make an integer, but minus zero is none. -/
def ofParts (negative : Bool) (whole : Nat) (fraction : List Nat) (exponent : Option Int) :
    Json :=
  if fraction.isEmpty && exponent.isNone && !(negative && whole == 0) then
    .integer (if negative then -(whole : Int) else whole)
  else .decimal ⟨negative, whole, fraction, exponent⟩

/-- Reads a number behind its sign. The whole part has no redundant zero in front. -/
def readUnsigned (negative : Bool) (text : List Char) : Option (Json × Shorter text) :=
  match readDigits text with
  | none => none
  | some (digits, ⟨rest, shorter⟩) =>
    if digits.head? = some 0 ∧ digits.length ≠ 1 then none
    else
      match readFraction rest with
      | none => none
      | some (fraction, ⟨rest, _⟩) =>
        match readExponent rest with
        | none => none
        | some (exponent, ⟨rest, _⟩) =>
          some (ofParts negative (ofDigits digits) fraction exponent, ⟨rest, by omega⟩)

/-- Reads a number. -/
def readNumber : (text : List Char) → Option (Json × Shorter text)
  | '-' :: rest =>
    match readUnsigned true rest with
    | some (value, ⟨rest, shorter⟩) => some (value, ⟨rest, by simp; omega⟩)
    | none => none
  | text => readUnsigned false text

/-! ## Values -/

/-- Reads one of the three words, or a number. -/
def readScalar : (text : List Char) → Option (Json × Shorter text)
  | 'n' :: 'u' :: 'l' :: 'l' :: rest => some (.null, ⟨rest, by simp; omega⟩)
  | 't' :: 'r' :: 'u' :: 'e' :: rest => some (.bool true, ⟨rest, by simp; omega⟩)
  | 'f' :: 'a' :: 'l' :: 's' :: 'e' :: rest => some (.bool false, ⟨rest, by simp; omega⟩)
  | text => readNumber text

/-- Reads the name of a member and the colon behind it. -/
def readName (text : List Char) : Option (Option String × Shorter text) :=
  match skipSpace text with
  | ⟨[], _⟩ => none
  | ⟨c :: rest, opened⟩ =>
    if c = '"' then
      match readString rest with
      | none => none
      | some (name, ⟨rest, named⟩) =>
        match skipSpace rest with
        | ⟨[], _⟩ => none
        | ⟨c :: rest, separated⟩ =>
          if c = ':' then some (name, ⟨rest, by simp at opened separated; omega⟩) else none
    else none

/-- The object with some members; it is ill-formed if one of the names is. -/
def ofMembers (members : List (Option String × Json)) : Json :=
  match members.mapM fun (name, value) => name.map (·, value) with
  | some members => .object members
  | none => .illFormed

mutual

/-- Reads a value with the blanks in front of it. -/
def readValue (text : List Char) : Option (Json × Shorter text) :=
  match skipSpace text with
  | ⟨[], _⟩ => none
  | ⟨c :: rest, opened⟩ =>
    if c = '"' then
      match readString rest with
      | some (some value, ⟨rest, shorter⟩) =>
        some (.string value, ⟨rest, by simp at opened; omega⟩)
      | some (none, ⟨rest, shorter⟩) => some (.illFormed, ⟨rest, by simp at opened; omega⟩)
      | none => none
    else if c = '[' then
      match skipSpace rest with
      | ⟨[], _⟩ => none
      | ⟨d :: behind, closed⟩ =>
        if d = ']' then some (.array [], ⟨behind, by simp at opened closed; omega⟩)
        else
          match readItems rest with
          | some (items, ⟨rest, shorter⟩) =>
            some (.array items, ⟨rest, by simp at opened; omega⟩)
          | none => none
    else if c = '\x7b' then
      match skipSpace rest with
      | ⟨[], _⟩ => none
      | ⟨d :: behind, closed⟩ =>
        if d = '\x7d' then some (.object [], ⟨behind, by simp at opened closed; omega⟩)
        else
          match readMembers rest with
          | some (members, ⟨rest, shorter⟩) =>
            some (ofMembers members, ⟨rest, by simp at opened; omega⟩)
          | none => none
    else
      match readScalar (c :: rest) with
      | some (value, ⟨rest, shorter⟩) => some (value, ⟨rest, by simp at opened shorter; omega⟩)
      | none => none
termination_by (text.length, 0)
decreasing_by
  all_goals simp at opened
  all_goals omega

/-- Reads the items of an array up to its closing bracket; there is at least one. -/
def readItems (text : List Char) : Option (List Json × Shorter text) :=
  match readValue text with
  | none => none
  | some (item, ⟨rest, shorter⟩) =>
    match skipSpace rest with
    | ⟨[], _⟩ => none
    | ⟨c :: rest, behind⟩ =>
      if c = ']' then some ([item], ⟨rest, by simp at behind; omega⟩)
      else if c = ',' then
        match readItems rest with
        | some (items, ⟨rest, later⟩) =>
          some (item :: items, ⟨rest, by simp at behind; omega⟩)
        | none => none
      else none
termination_by (text.length, 1)
decreasing_by
  · exact Prod.Lex.right _ (by decide)
  · simp at behind; omega

/-- Reads the members of an object up to its closing brace; there is at least one. -/
def readMembers (text : List Char) : Option (List (Option String × Json) × Shorter text) :=
  match readName text with
  | none => none
  | some (name, ⟨afterName, named⟩) =>
    match readValue afterName with
    | none => none
    | some (value, ⟨rest, shorter⟩) =>
      match skipSpace rest with
      | ⟨[], _⟩ => none
      | ⟨c :: rest, behind⟩ =>
        if c = '\x7d' then some ([(name, value)], ⟨rest, by simp at behind; omega⟩)
        else if c = ',' then
          match readMembers rest with
          | some (members, ⟨rest, later⟩) =>
            some ((name, value) :: members, ⟨rest, by simp at behind; omega⟩)
          | none => none
        else none
termination_by (text.length, 1)
decreasing_by
  · omega
  · simp at behind; omega

end

/-- Reads a document: one value, and nothing but blanks around it. -/
def parse? (text : String) : Option Json :=
  match readValue text.toList with
  | some (value, ⟨rest, _⟩) => if (skipSpace rest).val.isEmpty then some value else none
  | none => none

end CodeIndex.Json

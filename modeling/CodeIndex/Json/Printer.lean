import CodeIndex.Json.Basic

/-!
# Writing JSON

A value is written without blanks, its members in order. `Json.pieces` lists the pieces of text
in the order in which they are written; `Json.render` is all of them together. Inside a string
a run of characters that need no escape is one piece, and every escape is a piece of its own:

* `"` and `\` and the controls backspace, form feed, line feed, carriage return and tab have
  two-character escapes;
* any other character below U+0020 is written by its code in four hexadecimal digits;
* every other character stands for itself.
-/

namespace CodeIndex.Json

/-- The lower-case hexadecimal digit of a number below sixteen. -/
def hexDigit (n : Nat) : Char := Nat.digitChar (n % 16)

/-- The escape of a character inside a string, if it needs one. -/
def escape? (c : Char) : Option String :=
  if c = '"' then some "\\\""
  else if c = '\\' then some "\\\\"
  else if c = '\x08' then some "\\b"
  else if c = '\x0c' then some "\\f"
  else if c = '\n' then some "\\n"
  else if c = '\r' then some "\\r"
  else if c = '\t' then some "\\t"
  else if c.toNat < 0x20 then
    some (String.ofList ['\\', 'u', '0', '0', hexDigit (c.toNat / 16), hexDigit c.toNat])
  else none

/-- The pieces of the inside of a string. The run holds the characters before, in reverse,
that belong to the same piece. -/
def contentPieces (run : List Char) : List Char → List String
  | [] => if run.isEmpty then [] else [String.ofList run.reverse]
  | c :: rest =>
    match escape? c with
    | none => contentPieces (c :: run) rest
    | some escaped =>
      if run.isEmpty then escaped :: contentPieces [] rest
      else String.ofList run.reverse :: escaped :: contentPieces [] rest

/-- The pieces of a string. -/
def stringPieces (text : String) : List String :=
  "\"" :: contentPieces [] text.toList ++ ["\""]

/-- The text of a decimal number. -/
def decimalText (number : Decimal) : String :=
  let sign := if number.negative then "-" else ""
  let fraction :=
    if number.fraction.isEmpty then ""
    else "." ++ String.join (number.fraction.map fun digit => toString (digit % 10))
  let exponent :=
    match number.exponent with
    | some exponent => "e" ++ toString exponent
    | none => ""
  sign ++ toString number.whole ++ fraction ++ exponent

mutual

/-- The pieces of a value. An ill-formed value has no text of its own and is written as `null`. -/
def pieces : Json → List String
  | .null => ["null"]
  | .bool true => ["true"]
  | .bool false => ["false"]
  | .integer value => [toString value]
  | .decimal value => [decimalText value]
  | .string value => stringPieces value
  | .array [] => ["[", "]"]
  | .array (item :: rest) => "[" :: pieces item ++ laterItems rest ++ ["]"]
  | .object [] => ["\x7b", "\x7d"]
  | .object ((name, value) :: rest) =>
    "\x7b" :: stringPieces name ++ ":" :: pieces value ++ laterMembers rest ++ ["\x7d"]
  | .illFormed => ["null"]

/-- The pieces of the items after the first one. -/
def laterItems : List Json → List String
  | [] => []
  | item :: rest => "," :: pieces item ++ laterItems rest

/-- The pieces of the members after the first one. -/
def laterMembers : List (String × Json) → List String
  | [] => []
  | (name, value) :: rest =>
    "," :: stringPieces name ++ ":" :: pieces value ++ laterMembers rest

end

/-- The text of a value. -/
def render (value : Json) : String := String.join value.pieces

end CodeIndex.Json

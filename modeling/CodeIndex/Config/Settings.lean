import CodeIndex.Config
import CodeIndex.Failure
import CodeIndex.Text.Class
import CodeIndex.Text.Digit
import CodeIndex.Yaml.Document

/-!
# Reading a configuration

A configuration file is a YAML mapping in which every name is optional:

* `emit-doc-comments` and `emit-usages` are `true` or `false`, in lower case, capitalized or in
  upper case;
* `max-ast-value-chars` is a number below `2 ^ 64`, in decimal, or in hexadecimal, octal or
  binary behind `0x`, `0o` or `0b`; it may also be null.

Values are plain scalars, or literal blocks with the tag of what they hold. An unknown or
repeated name is an error. A text of blanks alone holds no choices.
-/

namespace CodeIndex.Config

open Yaml (Scalar)

/-! ## Values -/

/-- The tag of a type that YAML knows. -/
def standardTag (type : String) : String := "tag:yaml.org,2002:" ++ type

/-- A scalar may hold a value of a type that YAML knows. -/
def mayHold (type : String) (value : Scalar) : Bool :=
  value.style == .plain || (value.style == .literal && value.tag == some (standardTag type))

/-- A truth value. -/
def flag? (value : Scalar) : Option Bool :=
  if !mayHold "bool" value then none
  else if value.text ∈ ["true", "True", "TRUE"] then some true
  else if value.text ∈ ["false", "False", "FALSE"] then some false
  else none

/-- The number below `2 ^ 64` that at least one digit of a base makes. -/
def digits? (base : Nat) (text : List Char) : Option Nat :=
  if text.isEmpty then none
  else
    match Text.numeral? base text with
    | some number => if number < UInt64.size then some number else none
    | none => none

/-- The number that a text makes. A decimal number has no redundant zero in front. -/
def number? (text : List Char) : Option Nat :=
  let unsigned :=
    match text with
    | '+' :: rest => rest
    | _ => text
  match unsigned with
  | '0' :: 'x' :: rest => digits? 16 rest
  | '0' :: 'o' :: rest => digits? 8 rest
  | '0' :: 'b' :: rest => digits? 2 rest
  | '0' :: _ :: _ => none
  | _ => digits? 10 unsigned

/-- A word for nothing. -/
def isNullWord (text : String) : Bool := text ∈ ["~", "null", "Null", "NULL"]

/-- A scalar stands for nothing: it is plain and a word for nothing, or left out. One with a tag
is always something, apart from the tag for nothing. -/
def isNull (value : Scalar) : Bool :=
  value.style == .plain &&
    match value.tag with
    | none => value.text.isEmpty || isNullWord value.text
    | some tag => tag == standardTag "null" && isNullWord value.text

/-- A limit, or none. What has the tag for nothing is no number. -/
def limit? (value : Scalar) : Option (Option Nat) :=
  if isNull value then some none
  else if !mayHold "int" value || value.tag == some (standardTag "null") then none
  else (number? value.text.toList).map some

/-! ## Entries -/

/-- The configuration with the value of one name set. -/
def set? (config : Config) (name : String) (value : Scalar) : Option Config :=
  if name = "emit-doc-comments" then
    (flag? value).map fun flag => { config with emitDocComments := flag }
  else if name = "emit-usages" then
    (flag? value).map fun flag => { config with emitUsages := flag }
  else if name = "max-ast-value-chars" then
    (limit? value).map fun limit => { config with maxValueLength := limit }
  else none

/-- The configuration with some entries set, of which none has a name that was given before. -/
def setAll? (config : Config) (given : List String) : List (String × Scalar) → Option Config
  | [] => some config
  | (name, value) :: rest =>
    if name ∈ given then none
    else
      match config.set? name value with
      | some next => next.setAll? (name :: given) rest
      | none => none

/-- The configuration that a text holds. -/
def ofText (text : String) : Except Error Config :=
  if text.toList.all Text.isBlank then .ok {}
  else
    match (Yaml.mapping? text).bind (({} : Config).setAll? []) with
    | some config => .ok config
    | none => .error .config

/-- The configuration in the bytes of a file. It may be that the file cannot be read. -/
def load : Except IoCause ByteArray → Except Error Config
  | .error cause => .error (.io cause)
  | .ok bytes =>
    match String.fromUTF8? bytes with
    | none => .error (.io .invalidText)
    | some text => ofText text

end CodeIndex.Config

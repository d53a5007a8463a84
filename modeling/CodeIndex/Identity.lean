import CodeIndex.Text.Quoted
import CodeIndex.Hash.Xxh3

/-!
# Identity keys

An entity is identified by a canonical string, built from what defines it and nothing else,
and by the hash of that string. The parts are joined by single spaces:

* a type is its qualified name, with its type parameters as `<A,B>` if it has any
  (`Key.ofType`);
* a method is its enclosing type, return type, name and parameter types as `[a, b]`; inside a
  lambda the start offset of the lambda comes first (`Key.ofMethod`);
* an enum constant is the name of its enum and its own name (`Key.ofEnumConstant`);
* a field is its enclosing type, its type and its name (`Key.ofField`);
* a variable is its enclosing method, its type and its name (`Key.ofVariable`).

A part that is missing or that would blur the string is refused with an `IdentityError`, the
first such part in the order in which the function takes its checks.
-/

namespace CodeIndex

open Text

/-- The hash of an entity's canonical string. -/
structure EntityHash where
  value : Int64
deriving DecidableEq, Repr, Hashable

instance : ToString EntityHash := ⟨fun hash => toString hash.value.toInt⟩

/-- The XXH3-64 hash of the UTF-8 bytes of a text, read as a signed number. -/
def hashText (text : String) : Int64 := (Hash.xxh3 text.toUTF8).toInt64

/-! ## Errors -/

/-- What an identity error complains about. -/
inductive Component where
  | typeName
  | typeParameter
  | returnType
  | methodName
  | parameterType
  | enumName
  | enumConstantName
  | fieldType
  | fieldName
  | variableType
  | variableName
  | enclosingType
  | typeNode
  | methodNode
  | typeNesting
deriving DecidableEq, Repr

/-- The words for a component in messages. -/
def Component.label : Component → String
  | .typeName => "type qualified name"
  | .typeParameter => "type parameter"
  | .returnType => "return type"
  | .methodName => "method name"
  | .parameterType => "parameter type"
  | .enumName => "enum qualified name"
  | .enumConstantName => "enum constant name"
  | .fieldType => "field type"
  | .fieldName => "field name"
  | .variableType => "variable type"
  | .variableName => "variable name"
  | .enclosingType => "enclosing type"
  | .typeNode => "type node"
  | .methodNode => "method node"
  | .typeNesting => "type nesting"

/-- Why an identity cannot be formed. -/
inductive IdentityError where
  | empty (component : Component)
  | malformed (component : Component) (value : String)
deriving DecidableEq, Repr

/-- The wording of an identity error; the offending value is quoted. -/
def IdentityError.message : IdentityError → String
  | .empty component => "empty " ++ component.label
  | .malformed component value => "malformed " ++ component.label ++ ": " ++ quoted value

/-! ## Checks -/

/-- A simple name: no blank and no control character in it. -/
def isSimpleName (name : List Char) : Bool :=
  name.all fun c => !isBlank c && !isControl c

/-- A qualified name may hold inner blanks, as in `? extends Number`, but is trimmed, holds no
control character, and no full stop stands at an end or beside another one. -/
def isQualifiedName (name : List Char) : Bool :=
  isTrimmed name && !name.any isControl && name.head? != some '.' &&
    name.getLast? != some '.' && !hasDoubleDot name

/-- Accepts a simple name that is not empty. -/
def checkSimple (component : Component) (value : String) : Except IdentityError Unit :=
  if value.toList.isEmpty then .error (.empty component)
  else if isSimpleName value.toList then .ok ()
  else .error (.malformed component value)

/-- Accepts a qualified name that is not blank throughout. -/
def checkQualified (component : Component) (value : String) : Except IdentityError Unit :=
  if value.toList.all isBlank then .error (.empty component)
  else if isQualifiedName value.toList then .ok ()
  else .error (.malformed component value)

/-- Accepts a list of qualified names, or refuses the first bad one. -/
def checkAllQualified (component : Component) : List String → Except IdentityError Unit
  | [] => .ok ()
  | value :: rest => do
    checkQualified component value
    checkAllQualified component rest

/-! ## Canonical strings -/

/-- The type parameters of a type in angle brackets; nothing where there are none. -/
def typeParameterSuffix (parameters : List String) : String :=
  if parameters.isEmpty then "" else "<" ++ ",".intercalate parameters ++ ">"

/-- The parameter types of a method in square brackets. -/
def parameterList (parameters : List String) : String :=
  "[" ++ ", ".intercalate parameters ++ "]"

/-- A canonical identity string. -/
structure Key where
  canonical : String
deriving DecidableEq, Repr

namespace Key

/-- The hash that stands for the key in records. -/
def hash (key : Key) : EntityHash := ⟨hashText key.canonical⟩

/-- The key as a reader sees it: the canonical string and its hash. -/
def display (key : Key) : String := key.canonical ++ " (" ++ toString key.hash ++ ")"

/-- The parts of a canonical string, joined by single spaces. -/
def joined (parts : List String) : Key := ⟨" ".intercalate parts⟩

/-- The key of a class, interface or enum. -/
def ofType (name : String) (parameters : List String) : Except IdentityError Key := do
  checkQualified .typeName name
  checkAllQualified .typeParameter parameters
  return ⟨name ++ typeParameterSuffix parameters⟩

/-- The key of a method, constructor or lambda body. The offset is that of the lambda it is
declared in, if it is declared in one. -/
def ofMethod (enclosing : Key) (returnType name : String) (parameters : List String)
    (lambdaOffset : Option Nat) : Except IdentityError Key := do
  checkQualified .returnType returnType
  checkSimple .methodName name
  checkAllQualified .parameterType parameters
  let signature := [enclosing.canonical, returnType, name, parameterList parameters]
  match lambdaOffset with
  | some offset => return joined (toString offset :: signature)
  | none => return joined signature

/-- The key of an enum constant. -/
def ofEnumConstant (enumName name : String) : Except IdentityError Key := do
  checkQualified .enumName enumName
  checkSimple .enumConstantName name
  return joined [enumName, name]

/-- The key of a field. -/
def ofField (enclosing : Key) (fieldType name : String) : Except IdentityError Key := do
  checkQualified .fieldType fieldType
  checkSimple .fieldName name
  return joined [enclosing.canonical, fieldType, name]

/-- The key of a local variable or parameter. -/
def ofVariable (enclosing : Key) (variableType name : String) : Except IdentityError Key := do
  checkQualified .variableType variableType
  checkSimple .variableName name
  return joined [enclosing.canonical, variableType, name]

end Key

end CodeIndex

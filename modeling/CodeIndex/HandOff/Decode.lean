import CodeIndex.Json.Reader
import CodeIndex.Failure

/-!
# The hand-off format: reading

A structure is an object with its fields as members, in any order. Members with other names are
ignored, but no field is given twice. A structure may also be an array of its fields in the
order of their declaration. A field with a default may be left out, in an array only behind all
fields that are given.

The kind of a node is an object with the name of the kind as its member `node`, or an array that
begins with that name. It is read as a whole before its fields are looked at, so that, unlike an
ignored member elsewhere, it holds nothing that cannot be read (`payloads`, `maxPayloadDepth`).

`readUnit?` reads a document. A document that is `null` says that there is no unit.
-/

namespace CodeIndex.HandOff

/-! ## Structures -/

/-- The fields of a structure with the given field names: each field's value, where given. -/
def fields? (names : List String) : Json → Option (String → Option Json)
  | .object members =>
    if names.all fun name => members.countP (fun member => member.1 == name) ≤ 1 then
      some fun name => members.lookup name
    else none
  | .array items =>
    if items.length ≤ names.length then some fun name => (names.zip items).lookup name
    else none
  | _ => none

/-- A field that has to be given. -/
def required {α : Type} (decode : Json → Option α) (field : Option Json) : Option α :=
  field.bind decode

/-- A field that has a default. -/
def withDefault {α : Type} (default : α) (decode : Json → Option α) : Option Json → Option α
  | none => some default
  | some value => decode value

/-- A value that may be absent. -/
def nullable {α : Type} (decode : Json → Option α) : Json → Option (Option α)
  | .null => some none
  | value => (decode value).map some

/-- A list of values. -/
def listOf {α : Type} (decode : Json → Option α) : Json → Option (List α)
  | .array items => items.mapM decode
  | _ => none

/-- An offset or a count, below `2 ^ 64`. -/
def offset? (value : Json) : Option Nat := value.natBelow? UInt64.size

/-- The id of a node, below `2 ^ 32`. -/
def nodeId? (value : Json) : Option NodeId := value.natBelow? UInt32.size

/-- The number of a file, a signed number of 64 bits. -/
def fileId? (value : Json) : Option FileId :=
  match value.integer? with
  | some number =>
    if Int64.minValue.toInt ≤ number ∧ number ≤ Int64.maxValue.toInt then
      some ⟨Int64.ofInt number⟩
    else none
  | none => none

/-- The modifier bits, below `2 ^ 32`. -/
def modifiers? (value : Json) : Option Modifiers :=
  (value.natBelow? UInt32.size).map fun bits => ⟨UInt32.ofNat bits⟩

/-- A list of texts. -/
def texts? : Json → Option (List String) := listOf Json.string?

/-! ## Bindings and references -/

/-- A binding of a type. -/
def typeBinding? (value : Json) : Option TypeBinding := do
  let field ← fields? ["qualified_name", "type_parameters"] value
  let qualifiedName ← required Json.string? (field "qualified_name")
  let typeParameters ← withDefault [] texts? (field "type_parameters")
  return ⟨qualifiedName, typeParameters⟩

/-- A reference to a type. -/
def typeRef? (value : Json) : Option TypeRef := do
  let field ← fields? ["written", "binding"] value
  let written ← required Json.string? (field "written")
  let binding ← withDefault none (nullable typeBinding?) (field "binding")
  return ⟨written, binding⟩

/-- A binding of a method. -/
def methodBinding? (value : Json) : Option MethodBinding := do
  let field ← fields? ["declaring_type", "name", "return_type", "parameter_types"] value
  let declaringType ← required typeBinding? (field "declaring_type")
  let name ← required Json.string? (field "name")
  let returnType ← required Json.string? (field "return_type")
  let parameterTypes ← withDefault [] texts? (field "parameter_types")
  return ⟨declaringType, name, returnType, parameterTypes⟩

/-! ## Kinds -/

/-- The kind of type with a name. -/
def typeKindNamed? (name : String) : Option TypeKind :=
  if name = "class" then some .classType
  else if name = "interface" then some .interfaceType
  else if name = "enum" then some .enumType
  else none

/-- A kind of type: its name, alone or as the only member of an object with nothing in it. -/
def typeKind? : Json → Option TypeKind
  | .string name => typeKindNamed? name
  | .object [(name, .null)] => typeKindNamed? name
  | .object [(name, .object [])] => typeKindNamed? name
  | _ => none

/-- A named type. -/
def typeDecl? (value : Json) : Option TypeDecl := do
  let field ← fields? ["name", "type_kind", "modifiers", "type_parameters", "binding",
    "superclass", "interfaces"] value
  let name ← required Json.string? (field "name")
  let typeKind ← withDefault .classType typeKind? (field "type_kind")
  let modifiers ← withDefault {} modifiers? (field "modifiers")
  let typeParameters ← withDefault [] texts? (field "type_parameters")
  let binding ← withDefault none (nullable typeBinding?) (field "binding")
  let superclass ← withDefault none (nullable typeRef?) (field "superclass")
  let interfaces ← withDefault [] (listOf typeRef?) (field "interfaces")
  return ⟨name, typeKind, modifiers, typeParameters, binding, superclass, interfaces⟩

/-- An anonymous class. -/
def anonymousClass? (value : Json) : Option AnonymousClass := do
  let field ← fields? ["binding"] value
  let binding ← withDefault none (nullable typeBinding?) (field "binding")
  return ⟨binding⟩

/-- A method or constructor. -/
def methodDecl? (value : Json) : Option MethodDecl := do
  let field ← fields? ["name", "modifiers", "constructor", "return_type", "parameters",
    "has_body"] value
  let name ← required Json.string? (field "name")
  let modifiers ← withDefault {} modifiers? (field "modifiers")
  let isConstructor ← withDefault false Json.bool? (field "constructor")
  let returnType ← withDefault none (nullable typeRef?) (field "return_type")
  let parameters ← withDefault [] (listOf typeRef?) (field "parameters")
  let hasBody ← withDefault false Json.bool? (field "has_body")
  return ⟨name, modifiers, isConstructor, returnType, parameters, hasBody⟩

/-- A field of a type. -/
def fieldDecl? (value : Json) : Option FieldDecl := do
  let field ← fields? ["name", "modifiers", "field_type", "has_initializer"] value
  let name ← required Json.string? (field "name")
  let modifiers ← withDefault {} modifiers? (field "modifiers")
  let fieldType ← required typeRef? (field "field_type")
  let hasInitializer ← withDefault false Json.bool? (field "has_initializer")
  return ⟨name, modifiers, fieldType, hasInitializer⟩

/-- An enum constant. -/
def enumConstant? (value : Json) : Option EnumConstantDecl := do
  let field ← fields? ["name"] value
  let name ← required Json.string? (field "name")
  return ⟨name⟩

/-- A local variable or parameter. -/
def variableDecl? (value : Json) : Option VariableDecl := do
  let field ← fields? ["name", "modifiers", "var_type", "has_initializer"] value
  let name ← required Json.string? (field "name")
  let modifiers ← withDefault {} modifiers? (field "modifiers")
  let variableType ← required typeRef? (field "var_type")
  let hasInitializer ← withDefault false Json.bool? (field "has_initializer")
  return ⟨name, modifiers, variableType, hasInitializer⟩

/-- A lambda. -/
def lambdaDecl? (value : Json) : Option LambdaDecl := do
  let field ← fields? ["name", "return_type", "parameters"] value
  let name ← withDefault none (nullable Json.string?) (field "name")
  let returnType ← withDefault none (nullable typeRef?) (field "return_type")
  let parameters ← withDefault [] (listOf typeRef?) (field "parameters")
  return ⟨name, returnType, parameters⟩

/-- A call. -/
def invocation? (value : Json) : Option Invocation := do
  let field ← fields? ["name", "target"] value
  let name ← required Json.string? (field "name")
  let target ← withDefault none (nullable methodBinding?) (field "target")
  return ⟨name, target⟩

/-- The name of a kind, and the structure of its fields. -/
def tagged? : Json → Option (String × Json)
  | .object members =>
    match members.filter fun member => member.1 == "node" with
    | [(_, .string name)] =>
      some (name, .object (members.filter fun member => member.1 != "node"))
    | _ => none
  | .array (.string name :: items) => some (name, .array items)
  | _ => none

/-- A kind without fields ignores members, but has no items. -/
def isEmptyStructure : Json → Bool
  | .object _ => true
  | .array items => items.isEmpty
  | _ => false

/-- A kind of node. -/
def kind? (value : Json) : Option NodeKind := do
  let (name, structure?) ← tagged? value
  if name = "type" then return .namedType (← typeDecl? structure?)
  else if name = "anonymous_class" then return .anonymousClass (← anonymousClass? structure?)
  else if name = "method" then return .method (← methodDecl? structure?)
  else if name = "field" then return .field (← fieldDecl? structure?)
  else if name = "enum_constant" then return .enumConstant (← enumConstant? structure?)
  else if name = "variable" then return .localVariable (← variableDecl? structure?)
  else if name = "lambda" then return .lambda (← lambdaDecl? structure?)
  else if name = "invocation" then return .invocation (← invocation? structure?)
  else if name = "other" ∧ isEmptyStructure structure? then return .other
  else none

/-! ## Units -/

/-- The names of the fields of a node. -/
def nodeFields : List String := ["parent", "start", "end", "implicit", "doc_comment", "kind"]

/-- The names of the fields of a unit. -/
def unitFields : List String := ["file_id", "label", "package", "source", "nodes", "problems"]

/-- A node. -/
def node? (value : Json) : Option SyntaxNode := do
  let field ← fields? nodeFields value
  let parent ← withDefault none (nullable nodeId?) (field "parent")
  let start ← required offset? (field "start")
  let stop ← required offset? (field "end")
  let isImplicit ← withDefault false Json.bool? (field "implicit")
  let docComment ← withDefault none (nullable Json.string?) (field "doc_comment")
  let kind ← required kind? (field "kind")
  return ⟨parent, start, stop, isImplicit, docComment, kind⟩

/-- A problem. -/
def problem? (value : Json) : Option Problem := do
  let field ← fields? ["message", "is_error", "is_warning", "start", "end"] value
  let message ← required Json.string? (field "message")
  let isError ← withDefault false Json.bool? (field "is_error")
  let isWarning ← withDefault false Json.bool? (field "is_warning")
  let start ← required offset? (field "start")
  let stop ← required offset? (field "end")
  return ⟨message, isError, isWarning, start, stop⟩

/-- A unit. -/
def unit? (value : Json) : Option SourceUnit := do
  let field ← fields? unitFields value
  let fileId ← required fileId? (field "file_id")
  let label ← withDefault "" Json.string? (field "label")
  let package ← withDefault none (nullable Json.string?) (field "package")
  let source ← required Json.string? (field "source")
  let nodes ← withDefault [] (listOf node?) (field "nodes")
  let problems ← withDefault [] (listOf problem?) (field "problems")
  return ⟨fileId, label, package, source, nodes.toArray, problems.toArray⟩

/-! ## Documents -/

/-- A field of a value that is read as a structure. -/
def fieldOf? (names : List String) (name : String) (value : Json) : Option Json :=
  (fields? names value).bind (· name)

/-- The kinds of the nodes of a document, as values. -/
def payloads (document : Json) : List Json :=
  match fieldOf? unitFields "nodes" document with
  | some (.array nodes) => nodes.filterMap (fieldOf? nodeFields "kind")
  | _ => []

/-- How deep the kind of a node may be nested: it stands inside a node, a list and a unit, and
no reader of whole values goes deeper than 127 levels. -/
def maxPayloadDepth : Nat := 124

/-- The unit of a document. The outer option is about the document being well-formed, the inner
one about there being a unit. -/
def readUnit? (text : String) : Option (Option SourceUnit) := do
  let document ← Json.parse? text
  if (payloads document).all fun kind => kind.isReadable && kind.depth ≤ maxPayloadDepth then
    nullable unit? document
  else none

/-- The unit in the bytes of the file with a path. It may be that the file cannot be read. -/
def loadUnit (path : String) : Except IoCause ByteArray → Except Error (Option SourceUnit)
  | .error cause => .error (.io cause)
  | .ok bytes =>
    match String.fromUTF8? bytes with
    | none => .error (.io .invalidText)
    | some text =>
      match readUnit? text with
      | none => .error (.malformedUnit path)
      | some unit => .ok unit

end CodeIndex.HandOff

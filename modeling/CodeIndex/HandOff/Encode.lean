import CodeIndex.Json.Basic
import CodeIndex.SourceUnit

/-!
# The hand-off format: writing

How a front-end writes a unit down as a JSON value. Every field is written, also one that holds
its default; what is absent is `null`. A node's kind is an object whose first member, `node`,
names the kind.
-/

namespace CodeIndex.HandOff

/-- A natural number as a value. -/
def ofNat (value : Nat) : Json := .integer value

/-- A value or `null`. -/
def ofOption {α : Type} (encode : α → Json) : Option α → Json
  | none => .null
  | some value => encode value

/-- A list of values. -/
def ofList {α : Type} (encode : α → Json) (values : List α) : Json := .array (values.map encode)

/-- A list of texts. -/
def ofTexts (texts : List String) : Json := ofList .string texts

/-- The modifier bits. -/
def ofModifiers (modifiers : Modifiers) : Json := ofNat modifiers.bits.toNat

/-- The name of a kind of type. -/
def typeKindName : TypeKind → String
  | .classType => "class"
  | .interfaceType => "interface"
  | .enumType => "enum"

/-- A binding of a type. -/
def ofTypeBinding (binding : TypeBinding) : Json :=
  .object [("qualified_name", .string binding.qualifiedName),
    ("type_parameters", ofTexts binding.typeParameters)]

/-- A reference to a type. -/
def ofTypeRef (reference : TypeRef) : Json :=
  .object [("written", .string reference.written),
    ("binding", ofOption ofTypeBinding reference.binding)]

/-- A binding of a method. -/
def ofMethodBinding (binding : MethodBinding) : Json :=
  .object [("declaring_type", ofTypeBinding binding.declaringType),
    ("name", .string binding.name),
    ("return_type", .string binding.returnType),
    ("parameter_types", ofTexts binding.parameterTypes)]

/-- The name of a kind of node. -/
def kindName : NodeKind → String
  | .namedType _ => "type"
  | .anonymousClass _ => "anonymous_class"
  | .method _ => "method"
  | .field _ => "field"
  | .enumConstant _ => "enum_constant"
  | .localVariable _ => "variable"
  | .lambda _ => "lambda"
  | .invocation _ => "invocation"
  | .other => "other"

/-- The members of a kind besides its name. -/
def kindMembers : NodeKind → List (String × Json)
  | .namedType decl =>
    [("name", .string decl.name),
      ("type_kind", .string (typeKindName decl.typeKind)),
      ("modifiers", ofModifiers decl.modifiers),
      ("type_parameters", ofTexts decl.typeParameters),
      ("binding", ofOption ofTypeBinding decl.binding),
      ("superclass", ofOption ofTypeRef decl.superclass),
      ("interfaces", ofList ofTypeRef decl.interfaces)]
  | .anonymousClass body => [("binding", ofOption ofTypeBinding body.binding)]
  | .method decl =>
    [("name", .string decl.name),
      ("modifiers", ofModifiers decl.modifiers),
      ("constructor", .bool decl.isConstructor),
      ("return_type", ofOption ofTypeRef decl.returnType),
      ("parameters", ofList ofTypeRef decl.parameters),
      ("has_body", .bool decl.hasBody)]
  | .field decl =>
    [("name", .string decl.name),
      ("modifiers", ofModifiers decl.modifiers),
      ("field_type", ofTypeRef decl.fieldType),
      ("has_initializer", .bool decl.hasInitializer)]
  | .enumConstant decl => [("name", .string decl.name)]
  | .localVariable decl =>
    [("name", .string decl.name),
      ("modifiers", ofModifiers decl.modifiers),
      ("var_type", ofTypeRef decl.variableType),
      ("has_initializer", .bool decl.hasInitializer)]
  | .lambda decl =>
    [("name", ofOption .string decl.name),
      ("return_type", ofOption ofTypeRef decl.returnType),
      ("parameters", ofList ofTypeRef decl.parameters)]
  | .invocation call =>
    [("name", .string call.name), ("target", ofOption ofMethodBinding call.target)]
  | .other => []

/-- A kind of node. -/
def ofKind (kind : NodeKind) : Json :=
  .object (("node", .string (kindName kind)) :: kindMembers kind)

/-- A node. -/
def ofNode (node : SyntaxNode) : Json :=
  .object [("parent", ofOption ofNat node.parent),
    ("start", ofNat node.start),
    ("end", ofNat node.stop),
    ("implicit", .bool node.isImplicit),
    ("doc_comment", ofOption .string node.docComment),
    ("kind", ofKind node.kind)]

/-- A problem. -/
def ofProblem (problem : Problem) : Json :=
  .object [("message", .string problem.message),
    ("is_error", .bool problem.isError),
    ("is_warning", .bool problem.isWarning),
    ("start", ofNat problem.start),
    ("end", ofNat problem.stop)]

/-- A unit. -/
def ofUnit (unit : SourceUnit) : Json :=
  .object [("file_id", .integer unit.fileId.value.toInt),
    ("label", .string unit.label),
    ("package", ofOption .string unit.package),
    ("source", .string unit.source),
    ("nodes", ofList ofNode unit.nodes.toList),
    ("problems", ofList ofProblem unit.problems.toList)]

end CodeIndex.HandOff

import CodeIndex.Naming

/-!
# Identities of nodes

The key and the qualified name of what a node declares, and whether a name had to be made up
because something was not resolved:

* `SourceUnit.typeIdentity` for named types and anonymous classes;
* `SourceUnit.methodIdentity` for methods, constructors and lambdas;
* `SourceUnit.fieldIdentity`, `SourceUnit.variableIdentity` and
  `SourceUnit.enumConstantIdentity`.

`TypeRef.key` and `MethodBinding.key` are the keys of what is referred to. They are those of
the declarations, so that a use meets its declaration wherever that is.
-/

namespace CodeIndex

/-- The identity of a node. -/
structure NodeIdentity where
  key : Key
  qualifiedName : String
  isPlaceholder : Bool
deriving DecidableEq, Repr

/-- The key of a type as its declaration has it. An unresolved reference is keyed by the text
as written. -/
def TypeRef.key (reference : TypeRef) : Except IdentityError Key :=
  match reference.binding with
  | some binding => Key.ofType binding.qualifiedName binding.typeParameters
  | none => Key.ofType reference.written []

/-- The key of a method as its declaration outside of lambdas has it. -/
def MethodBinding.key (target : MethodBinding) : Except IdentityError Key := do
  let owner ← Key.ofType target.declaringType.qualifiedName target.declaringType.typeParameters
  Key.ofMethod owner target.returnType target.name target.parameterTypes none

/-- What tells methods of one type apart. -/
structure Signature where
  name : String
  returnType : TypeRef
  parameters : List TypeRef
deriving DecidableEq, Repr

/-- Every type of the signature was resolved. -/
def Signature.isResolved (signature : Signature) : Bool :=
  signature.returnType.isResolved && signature.parameters.all (·.isResolved)

namespace NodeKind

/-- The name of a lambda whose method was not resolved. -/
def lambdaName (decl : LambdaDecl) : String := decl.name.getD "lambda"

/-- The signature of a method, constructor or lambda. What names no return type returns
`void`. -/
def signature? : NodeKind → Option Signature
  | .method decl => some ⟨decl.name, decl.returnType.getD .void, decl.parameters⟩
  | .lambda decl => some ⟨lambdaName decl, decl.returnType.getD .void, decl.parameters⟩
  | _ => none

/-- The type parameters that a type is declared with. -/
def typeParameters : NodeKind → List String
  | .namedType decl => decl.typeParameters
  | _ => []

end NodeKind

namespace SourceUnit

/-- The identity of a named type or an anonymous class. -/
def typeIdentity (unit : SourceUnit) (id : NodeId) : Except IdentityError NodeIdentity := do
  let node ← unit.typeNode id
  match node.kind.typeBinding with
  | some binding =>
    let key ← Key.ofType binding.qualifiedName binding.typeParameters
    return ⟨key, binding.qualifiedName, false⟩
  | none =>
    let name ← unit.placeholderName id
    let key ← Key.ofType name node.kind.typeParameters
    return ⟨key, name, true⟩

/-- The identity of the nearest type around a node. -/
def enclosingTypeIdentity (unit : SourceUnit) (id : NodeId) :
    Except IdentityError NodeIdentity :=
  match unit.enclosingType? id with
  | some outer => unit.typeIdentity outer
  | none => .error (.empty .enclosingType)

/-- The identity of a method, constructor or lambda. -/
def methodIdentity (unit : SourceUnit) (id : NodeId) : Except IdentityError NodeIdentity :=
  match unit.node? id with
  | none => .error (.empty .methodNode)
  | some node => do
    let owner ← unit.enclosingTypeIdentity id
    match node.kind.signature? with
    | none => .error (.malformed .methodNode (toString id))
    | some signature =>
      let key ← Key.ofMethod owner.key signature.returnType.name signature.name
        (signature.parameters.map (·.name)) (unit.lambdaOffset? id)
      return ⟨key, owner.qualifiedName ++ "." ++ signature.name, !signature.isResolved⟩

/-- The key of the method or lambda that a variable stands in. Outside of any, as in an
initializer, the enclosing type takes its place. -/
def enclosingMethodKey (unit : SourceUnit) (id : NodeId) : Except IdentityError Key :=
  match unit.enclosingMethod? id with
  | some method => (·.key) <$> unit.methodIdentity method
  | none => (·.key) <$> unit.enclosingTypeIdentity id

/-- The identity of a field. -/
def fieldIdentity (unit : SourceUnit) (id : NodeId) (name : String) (fieldType : TypeRef) :
    Except IdentityError NodeIdentity := do
  let owner ← unit.enclosingTypeIdentity id
  let key ← Key.ofField owner.key fieldType.name name
  return ⟨key, owner.qualifiedName ++ "." ++ name, !fieldType.isResolved⟩

/-- The identity of a local variable or parameter. Its qualified name is its simple one. -/
def variableIdentity (unit : SourceUnit) (id : NodeId) (name : String)
    (variableType : TypeRef) : Except IdentityError NodeIdentity := do
  let method ← unit.enclosingMethodKey id
  let key ← Key.ofVariable method variableType.name name
  return ⟨key, name, !variableType.isResolved⟩

/-- The identity of an enum constant. -/
def enumConstantIdentity (unit : SourceUnit) (id : NodeId) (name : String) :
    Except IdentityError NodeIdentity := do
  let owner ← unit.enclosingTypeIdentity id
  let key ← Key.ofEnumConstant owner.qualifiedName name
  return ⟨key, owner.qualifiedName ++ "." ++ name, false⟩

end SourceUnit

end CodeIndex

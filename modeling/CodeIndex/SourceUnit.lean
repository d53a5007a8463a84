import CodeIndex.Modifiers

/-!
# Source units

What a front-end hands over for one source file: the text, its syntax nodes with the bindings
that were resolved, and the problems that were reported.

* A node's id is its place in `SourceUnit.nodes`; a parent id may point anywhere, also out of
  range or around in a circle.
* Offsets count characters; `stop` is exclusive.
* A type reference without a binding is unresolved.
-/

namespace CodeIndex

/-- The place of a node in its unit. -/
abbrev NodeId := Nat

/-- The number of a source file in the store. -/
structure FileId where
  value : Int64
deriving DecidableEq, Repr

instance : ToString FileId := ⟨fun file => toString file.value.toInt⟩

/-! ## Bindings and references -/

/-- What is known about a resolved type. -/
structure TypeBinding where
  qualifiedName : String
  typeParameters : List String := []
deriving DecidableEq, Repr

/-- A type as written, with its binding where it was resolved. -/
structure TypeRef where
  written : String
  binding : Option TypeBinding := none
deriving DecidableEq, Repr

namespace TypeRef

/-- The qualified name of a resolved reference, and the text of any other one. -/
def name (reference : TypeRef) : String :=
  match reference.binding with
  | some binding => binding.qualifiedName
  | none => reference.written

/-- The reference has a binding. -/
def isResolved (reference : TypeRef) : Bool := reference.binding.isSome

/-- The reference to `void`, the type of what returns nothing. -/
def void : TypeRef := ⟨"void", some ⟨"void", []⟩⟩

end TypeRef

/-- What is known about the target of a resolved call. -/
structure MethodBinding where
  declaringType : TypeBinding
  name : String
  returnType : String
  parameterTypes : List String := []
deriving DecidableEq, Repr

/-! ## Nodes -/

/-- The kind of a named type. -/
inductive TypeKind where
  | classType
  | interfaceType
  | enumType
deriving DecidableEq, Repr

/-- A class, interface or enum. The interfaces of an interface are those it extends. -/
structure TypeDecl where
  name : String
  typeKind : TypeKind := .classType
  modifiers : Modifiers := {}
  typeParameters : List String := []
  binding : Option TypeBinding := none
  superclass : Option TypeRef := none
  interfaces : List TypeRef := []
deriving DecidableEq, Repr

/-- A class body without a name. -/
structure AnonymousClass where
  binding : Option TypeBinding := none
deriving DecidableEq, Repr

/-- A method or constructor. A constructor has no return type. -/
structure MethodDecl where
  name : String
  modifiers : Modifiers := {}
  isConstructor : Bool := false
  returnType : Option TypeRef := none
  parameters : List TypeRef := []
  hasBody : Bool := false
deriving DecidableEq, Repr

/-- A field. -/
structure FieldDecl where
  name : String
  modifiers : Modifiers := {}
  fieldType : TypeRef
  hasInitializer : Bool := false
deriving DecidableEq, Repr

/-- A constant of an enum. -/
structure EnumConstantDecl where
  name : String
deriving DecidableEq, Repr

/-- A local variable or parameter. -/
structure VariableDecl where
  name : String
  modifiers : Modifiers := {}
  variableType : TypeRef
  hasInitializer : Bool := false
deriving DecidableEq, Repr

/-- A lambda expression, with the method it stands for as far as that was resolved. -/
structure LambdaDecl where
  name : Option String := none
  returnType : Option TypeRef := none
  parameters : List TypeRef := []
deriving DecidableEq, Repr

/-- A call, with its target where it was resolved. -/
structure Invocation where
  name : String
  target : Option MethodBinding := none
deriving DecidableEq, Repr

/-- What a node stands for. -/
inductive NodeKind where
  | namedType (decl : TypeDecl)
  | anonymousClass (body : AnonymousClass)
  | method (decl : MethodDecl)
  | field (decl : FieldDecl)
  | enumConstant (decl : EnumConstantDecl)
  | localVariable (decl : VariableDecl)
  | lambda (decl : LambdaDecl)
  | invocation (call : Invocation)
  | other
deriving DecidableEq, Repr

/-- The scope that a node opens. -/
inductive ScopeKind where
  | type
  | method
  | lambda
deriving DecidableEq, Repr

namespace NodeKind

/-- The scope that a node of this kind opens. The body of an anonymous class is none: what is
declared in it looks further outward. -/
def scopeKind : NodeKind → Option ScopeKind
  | .namedType _ => some .type
  | .method _ => some .method
  | .lambda _ => some .lambda
  | _ => none

/-- A node of this kind has members: a named type or an anonymous class. -/
def isTypeLike : NodeKind → Bool
  | .namedType _ => true
  | .anonymousClass _ => true
  | _ => false

/-- A node of this kind has members or opens a scope. -/
def isOwner (kind : NodeKind) : Bool := kind.isTypeLike || kind.scopeKind.isSome

/-- The binding of a named type or an anonymous class. -/
def typeBinding : NodeKind → Option TypeBinding
  | .namedType decl => decl.binding
  | .anonymousClass body => body.binding
  | _ => none

end NodeKind

/-- A node of the syntax tree. An implicit node is not written in the source. -/
structure SyntaxNode where
  parent : Option NodeId := none
  start : Nat
  stop : Nat
  isImplicit : Bool := false
  docComment : Option String := none
  kind : NodeKind
deriving DecidableEq, Repr

/-- A problem that the front-end reported. -/
structure Problem where
  message : String
  isError : Bool := false
  isWarning : Bool := false
  start : Nat
  stop : Nat
deriving DecidableEq, Repr

/-! ## Units -/

/-- A source file as the front-end hands it over. The label names it in log lines. -/
structure SourceUnit where
  fileId : FileId
  label : String := ""
  package : Option String := none
  source : String
  nodes : Array SyntaxNode := #[]
  problems : Array Problem := #[]
deriving DecidableEq, Repr

namespace SourceUnit

/-- The node with an id. -/
def node? (unit : SourceUnit) (id : NodeId) : Option SyntaxNode := unit.nodes[id]?

/-- The unit with a node added at the end, whose id is the number of nodes before. -/
def push (unit : SourceUnit) (node : SyntaxNode) : SourceUnit :=
  { unit with nodes := unit.nodes.push node }

/-- The unit with a problem added at the end. -/
def pushProblem (unit : SourceUnit) (problem : Problem) : SourceUnit :=
  { unit with problems := unit.problems.push problem }

/-- The unit with one node changed; there is none if the unit has no such node. -/
def update? (unit : SourceUnit) (id : NodeId) (change : SyntaxNode → SyntaxNode) :
    Option SourceUnit :=
  if id < unit.nodes.size then some { unit with nodes := unit.nodes.modify id change }
  else none

/-- The nodes with their ids, in order. -/
def entries (unit : SourceUnit) : List (NodeId × SyntaxNode) :=
  unit.nodes.toList.zipIdx.map fun (node, id) => (id, node)

end SourceUnit

end CodeIndex

import CodeIndex.Config
import CodeIndex.Failure
import CodeIndex.NodeIdentity
import CodeIndex.Record

/-!
# What a node contributes

`NodeContext.outcome` works on one node and looks at no other node's outcome:

* a named type, method, constructor, lambda, field, enum constant or variable gives the rows of
  one declaration, or fails;
* a call gives one usage row, or fails, or is left out if its target is unknown or usages are
  not wanted;
* an anonymous class gives no row and fails if it cannot be named; any other node gives
  nothing.

Besides its rows a node leaves remarks, in the order in which they arise. References that a
type leaves out are remarked on before anything can fail but its name; a placeholder is
remarked on only where it is used.
-/

namespace CodeIndex

/-! ## Results -/

/-- Something worth telling about a node that is no failure. -/
inductive Remark where
  | skippedReference (written : String)
  | placeholder (qualifiedName : String)
  | anonymousClass (start : Nat) (key : Key)
deriving DecidableEq, Repr

/-- A member that waits for its owner to be confirmed. -/
structure PendingMember where
  owner : NodeId
  memberHash : EntityHash
  kind : MemberKind
  visibility : Visibility
  astNodeId : AstNodeId
deriving DecidableEq, Repr

/-- A type that another one specializes, and how. -/
structure Base where
  hash : EntityHash
  kind : RelationKind
deriving DecidableEq, Repr

/-- The rows of one declaration. -/
structure Declaration where
  astNode : AstNode
  entity : Entity
  docComment : Option DocComment := none
  bases : List Base := []
  member : Option PendingMember := none
deriving DecidableEq, Repr

/-- The rows that a node gives. -/
inductive Contribution where
  | nothing
  | declaration (rows : Declaration)
  | usage (astNode : AstNode)
deriving DecidableEq, Repr

namespace Contribution

/-- The declaration among the rows of a node. -/
def declaration? : Contribution → Option Declaration
  | .declaration rows => some rows
  | _ => none

/-- The places among the rows of a node. -/
def astNode? : Contribution → Option AstNode
  | .nothing => none
  | .declaration rows => some rows.astNode
  | .usage astNode => some astNode

end Contribution

/-- What working on a node leaves behind. -/
structure Outcome where
  remarks : List Remark := []
  result : Except Failure Contribution
deriving Repr

/-! ## Parts of a declaration -/

/-- The text that the number of a place is made from. Colons separate its six parts. -/
def AstNode.idText (file : FileId) (start stop : Nat) (symbolKind : SymbolKind)
    (astKind : AstKind) (hash : EntityHash) : String :=
  ":".intercalate [toString file, toString start, toString stop, symbolKind.label,
    astKind.label, toString hash]

/-- Remarks that the identity of a declaration calls for. -/
def NodeIdentity.remarks (identity : NodeIdentity) : List Remark :=
  if identity.isPlaceholder then [.placeholder identity.qualifiedName] else []

/-- Declared with a body or initializer, or without. -/
def AstKind.ofBody (hasBody : Bool) : AstKind := if hasBody then .definition else .declaration

/-- The references of a type to the types that it specializes, the superclass first. -/
def TypeDecl.supertypes (decl : TypeDecl) : List (TypeRef × RelationKind) :=
  let kind := if decl.typeKind = .interfaceType then .inheritance else .implements
  decl.superclass.toList.map (·, .inheritance) ++ decl.interfaces.map (·, kind)

/-- The bases that some references lead to. Unresolved references are left out with a remark;
a resolved one that has no key ends the work. -/
def resolveBases : List (TypeRef × RelationKind) →
    List Remark × Except IdentityError (List Base)
  | [] => ([], .ok [])
  | (reference, kind) :: rest =>
    if reference.isResolved then
      match reference.key with
      | .error error => ([], .error error)
      | .ok key =>
        let (remarks, bases) := resolveBases rest
        (remarks, bases.map (⟨key.hash, kind⟩ :: ·))
    else
      let (remarks, bases) := resolveBases rest
      (.skippedReference reference.written :: remarks, bases)

/-- What the row of a typed entity says about its type. -/
def typedDetail (id : NodeId) (isFinal isStatic : Bool) (declared : TypeRef) :
    Except Failure EntityDetail :=
  match declared.key with
  | .error error => .error (.ofIdentity id error)
  | .ok key => .ok (.typed ⟨isFinal, isStatic, key.hash, declared.name⟩)

/-- What a declaration says besides its identity and its place. -/
structure DeclarationShape where
  name : String
  symbolKind : SymbolKind
  astKind : AstKind
  detail : EntityDetail
  bases : List Base := []
  member : Option (MemberKind × Modifiers) := none

/-- A node with the unit that it belongs to, the lines of the unit's text, and the choices of
the user. -/
structure NodeContext where
  config : Config
  unit : SourceUnit
  lines : LineMap
  id : NodeId
  node : SyntaxNode

namespace NodeContext

/-- The row for the place of a node. -/
def astNode (context : NodeContext) (hash : EntityHash) (symbolKind : SymbolKind)
    (astKind : AstKind) : Except Failure AstNode :=
  let node := context.node
  let file := context.unit.fileId
  match context.lines.span node.start node.stop, context.lines.slice node.start node.stop with
  | .error error, _ => .error (.ofPosition (.node context.id) error)
  | .ok _, .error error => .error (.ofPosition (.node context.id) error)
  | .ok location, .ok text => .ok {
      id := ⟨hashText (AstNode.idText file node.start node.stop symbolKind astKind hash)⟩
      value := context.config.clip text
      location := location
      fileId := file
      entityHash := hash
      symbolKind := symbolKind
      astKind := astKind
      isVisible := !node.isImplicit }

/-- The documentation of a declaration, where there is some and it is wanted. -/
def docComment (context : NodeContext) (hash : EntityHash) : Option DocComment :=
  if context.config.emitDocComments then
    context.node.docComment.map fun content => ⟨content, hashText content, hash⟩
  else none

/-- The pending membership of a declaration. Only what a named type owns directly is a member;
what a method, a lambda or an anonymous class owns is none. -/
def pendingMember (context : NodeContext) (hash : EntityHash) (astNodeId : AstNodeId)
    (member : MemberKind × Modifiers) : Option PendingMember :=
  match context.unit.owner? context.id with
  | some (owner, ⟨_, _, _, _, _, .namedType _⟩) =>
    some ⟨owner, hash, member.1, member.2.visibility, astNodeId⟩
  | _ => none

/-- The rows of a declaration. -/
def declare (context : NodeContext) (identity : NodeIdentity) (shape : DeclarationShape) :
    Except Failure Declaration := do
  let hash := identity.key.hash
  let astNode ← context.astNode hash shape.symbolKind shape.astKind
  return {
    astNode := astNode
    entity := ⟨astNode.id, hash, shape.name, identity.qualifiedName, shape.detail⟩
    docComment := context.docComment hash
    bases := shape.bases
    member := shape.member.bind (context.pendingMember hash astNode.id) }

/-- The outcome of a declaration whose identity is known: its rows with the remarks that the
identity calls for, behind what was remarked on earlier. -/
def declared (context : NodeContext) (earlier : List Remark) (identity : NodeIdentity)
    (shape : DeclarationShape) : Outcome :=
  match context.declare identity shape with
  | .error failure => ⟨earlier, .error failure⟩
  | .ok rows => ⟨earlier ++ identity.remarks, .ok (.declaration rows)⟩

/-- The outcome of a node that has no identity. -/
def unidentified (context : NodeContext) (earlier : List Remark) (error : IdentityError) :
    Outcome :=
  ⟨earlier, .error (.ofIdentity context.id error)⟩

/-- The outcome of a declaration that has a type. -/
def typedOutcome (context : NodeContext) (identity : Except IdentityError NodeIdentity)
    (declaredType : TypeRef) (isFinal isStatic : Bool)
    (shape : EntityDetail → DeclarationShape) : Outcome :=
  match identity with
  | .error error => context.unidentified [] error
  | .ok identity =>
    match typedDetail context.id isFinal isStatic declaredType with
    | .error failure => ⟨[], .error failure⟩
    | .ok detail => context.declared [] identity (shape detail)

/-! ## Outcomes by kind -/

/-- The outcome of a named type. -/
def typeOutcome (context : NodeContext) (decl : TypeDecl) : Outcome :=
  match context.unit.typeIdentity context.id with
  | .error error => context.unidentified [] error
  | .ok identity =>
    match resolveBases decl.supertypes with
    | (remarks, .error error) => context.unidentified remarks error
    | (remarks, .ok bases) =>
      context.declared remarks identity {
        name := decl.name
        symbolKind := .type
        astKind := .definition
        detail := .type ⟨decl.modifiers.isAbstract || decl.typeKind = .interfaceType,
          decl.modifiers.isFinal⟩
        bases := bases
        member := some (.nestedType, decl.modifiers) }

/-- The outcome of an anonymous class, which has members but is no entity. -/
def anonymousClassOutcome (context : NodeContext) : Outcome :=
  match context.unit.typeIdentity context.id with
  | .error error => context.unidentified [] error
  | .ok identity =>
    ⟨identity.remarks ++ [.anonymousClass context.node.start identity.key], .ok .nothing⟩

/-- The outcome of a method or constructor. -/
def methodOutcome (context : NodeContext) (decl : MethodDecl) : Outcome :=
  context.typedOutcome (context.unit.methodIdentity context.id) (decl.returnType.getD .void)
    decl.modifiers.isFinal decl.modifiers.isStatic fun detail => {
      name := decl.name
      symbolKind := if decl.isConstructor then .constructor else .method
      astKind := .ofBody decl.hasBody
      detail := detail
      member := some (if decl.isConstructor then .constructor else .method, decl.modifiers) }

/-- The outcome of a lambda. -/
def lambdaOutcome (context : NodeContext) (decl : LambdaDecl) : Outcome :=
  context.typedOutcome (context.unit.methodIdentity context.id) (decl.returnType.getD .void)
    false false fun detail => {
      name := NodeKind.lambdaName decl
      symbolKind := .lambda
      astKind := .definition
      detail := detail }

/-- The outcome of a field. -/
def fieldOutcome (context : NodeContext) (decl : FieldDecl) : Outcome :=
  context.typedOutcome (context.unit.fieldIdentity context.id decl.name decl.fieldType)
    decl.fieldType decl.modifiers.isFinal decl.modifiers.isStatic fun detail => {
      name := decl.name
      symbolKind := .field
      astKind := .ofBody decl.hasInitializer
      detail := detail
      member := some (.field, decl.modifiers) }

/-- The outcome of an enum constant. -/
def enumConstantOutcome (context : NodeContext) (decl : EnumConstantDecl) : Outcome :=
  match context.unit.enumConstantIdentity context.id decl.name with
  | .error error => context.unidentified [] error
  | .ok identity =>
    context.declared [] identity {
      name := decl.name
      symbolKind := .enumConstant
      astKind := .definition
      detail := .constant
      member := some (.enumConstant, .enumConstant) }

/-- The outcome of a local variable or parameter. -/
def variableOutcome (context : NodeContext) (decl : VariableDecl) : Outcome :=
  context.typedOutcome (context.unit.variableIdentity context.id decl.name decl.variableType)
    decl.variableType decl.modifiers.isFinal decl.modifiers.isStatic fun detail => {
      name := decl.name
      symbolKind := .localVariable
      astKind := .ofBody decl.hasInitializer
      detail := detail }

/-- The outcome of a call. -/
def invocationOutcome (context : NodeContext) (call : Invocation) : Outcome :=
  if !context.config.emitUsages then ⟨[], .ok .nothing⟩
  else
    match call.target with
    | none => ⟨[.skippedReference call.name], .ok .nothing⟩
    | some target =>
      match target.key with
      | .error error => context.unidentified [] error
      | .ok key => ⟨[], .usage <$> context.astNode key.hash .method .usage⟩

/-- The outcome of a node of any kind. -/
def outcome (context : NodeContext) : Outcome :=
  match context.node.kind with
  | .namedType decl => context.typeOutcome decl
  | .anonymousClass _ => context.anonymousClassOutcome
  | .method decl => context.methodOutcome decl
  | .field decl => context.fieldOutcome decl
  | .enumConstant decl => context.enumConstantOutcome decl
  | .localVariable decl => context.variableOutcome decl
  | .lambda decl => context.lambdaOutcome decl
  | .invocation call => context.invocationOutcome call
  | .other => ⟨[], .ok .nothing⟩

end NodeContext

end CodeIndex

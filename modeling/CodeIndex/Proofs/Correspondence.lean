import CodeIndex.Outcome
import CodeIndex.Proofs.Embedding

/-!
# Outcomes of the same node in two units

What a node gives is settled by the node itself, by the part of its unit that its identity reads,
and by the text. Where these are the same in two units, so are the outcomes.

* `NodeContext.Corresponds` says what has to be the same; the ids of the nodes may differ.
* `SameOutcome` says what is the same then: the remarks, and the rows or the failure, up to the
  ids in them.
* `NodeContext.Corresponds.outcome` goes through the kinds of nodes.
-/

namespace CodeIndex

/-! ## Renamed results -/

/-- The node with its parent renamed. -/
def SyntaxNode.rename (rename : NodeId → NodeId) (node : SyntaxNode) : SyntaxNode :=
  { node with parent := node.parent.map rename }

/-- The subject with its node renamed. -/
def Subject.rename (rename : NodeId → NodeId) : Subject → Subject
  | .node id => .node (rename id)
  | .problem index => .problem index

/-- The membership with its owner renamed. -/
def PendingMember.rename (rename : NodeId → NodeId) (pending : PendingMember) : PendingMember :=
  { pending with owner := rename pending.owner }

/-- The rows with the owner that the member waits for renamed. -/
def Declaration.rename (rename : NodeId → NodeId) (rows : Declaration) : Declaration :=
  { rows with member := rows.member.map (·.rename rename) }

/-- The rows with the owner that a member waits for renamed. -/
def Contribution.rename (rename : NodeId → NodeId) : Contribution → Contribution
  | .nothing => .nothing
  | .declaration rows => .declaration (rows.rename rename)
  | .usage astNode => .usage astNode

/-- The failures are the same, but for the id of the node and the ids that the wording tells. -/
inductive SameFailure (rename : NodeId → NodeId) : Failure → Failure → Prop
  | position (id : NodeId) (error : PositionError) :
      SameFailure rename (.ofPosition (.node id) error) (.ofPosition (.node (rename id)) error)
  | identity (id : NodeId) {error error' : IdentityError} (same : SameError rename error error') :
      SameFailure rename (.ofIdentity id error) (.ofIdentity (rename id) error')

/-- Rows that differ in the owners of members, or failures that are the same. -/
abbrev SameResult (rename : NodeId → NodeId) :
    Except Failure Contribution → Except Failure Contribution → Prop :=
  Agrees (SameFailure rename) fun rows rows' => rows' = rows.rename rename

/-- The outcomes have the same remarks and the same result, up to ids. -/
structure SameOutcome (rename : NodeId → NodeId) (outcome outcome' : Outcome) : Prop where
  remarks : outcome'.remarks = outcome.remarks
  result : SameResult rename outcome.result outcome'.result

section Renamed

variable {rename : NodeId → NodeId}

theorem SameFailure.kind {failure failure' : Failure} (same : SameFailure rename failure failure') :
    failure'.kind = failure.kind := by
  cases same <;> rfl

theorem SameFailure.subject {failure failure' : Failure}
    (same : SameFailure rename failure failure') :
    failure'.subject = failure.subject.rename rename := by
  cases same <;> rfl

theorem SameFailure.eq_of_id {failure failure' : Failure} (same : SameFailure id failure failure') :
    failure' = failure := by
  cases same with
  | position place error => rfl
  | identity place same => rw [same.eq_of_id, id_eq]

theorem SyntaxNode.rename_id (node : SyntaxNode) : node.rename id = node := by
  rw [rename, Option.map_id_apply]

theorem Contribution.rename_id (rows : Contribution) : rows.rename id = rows := by
  cases rows with
  | declaration rows => simp [rename, Declaration.rename, PendingMember.rename]
  | _ => rfl

/-- Where no node is renamed, outcomes that are the same are equal. -/
theorem SameOutcome.eq_of_id {outcome outcome' : Outcome}
    (same : SameOutcome id outcome outcome') : outcome' = outcome := by
  obtain ⟨remarks, result⟩ := outcome
  obtain ⟨remarks', result'⟩ := outcome'
  obtain rfl : remarks' = remarks := same.remarks
  obtain rfl : result' = result :=
    same.result.eq (fun _ _ equal => equal.eq_of_id) fun rows _ equal =>
      equal.trans rows.rename_id
  rfl

end Renamed

/-! ## Contexts that correspond -/

namespace NodeContext

/-- The node of one context stands in the unit of the other as well.

* `embeds`, `inside`: what the identity reads is there too.
* `place`: the node itself is there, with its own text span and comment, under its other id.
* `config`, `lines`, `fileId`: choices, text and file are the same. -/
structure Corresponds (rename : NodeId → NodeId) (part : NodeId → Prop)
    (context context' : NodeContext) : Prop where
  embeds : context.unit.Embeds rename part context'.unit
  inside : part context.id
  id : context'.id = rename context.id
  node : context'.node = context.node.rename rename
  config : context'.config = context.config
  lines : context'.lines = context.lines
  fileId : context'.unit.fileId = context.unit.fileId

namespace Corresponds

variable {rename : NodeId → NodeId} {part : NodeId → Prop} {context context' : NodeContext}

/-! ### Parts of a declaration -/

theorem astNode (same : Corresponds rename part context context') (hash : EntityHash)
    (symbolKind : SymbolKind) (astKind : AstKind) :
    Agrees (SameFailure rename) Eq (context.astNode hash symbolKind astKind)
      (context'.astNode hash symbolKind astKind) := by
  unfold NodeContext.astNode
  simp only [same.node, same.config, same.lines, same.fileId, same.id, SyntaxNode.rename]
  cases context.lines.span context.node.start context.node.stop with
  | error error => exact .error (.position context.id error)
  | ok location =>
      cases context.lines.slice context.node.start context.node.stop with
      | error error => exact .error (.position context.id error)
      | ok text => exact .ok rfl

theorem docComment (same : Corresponds rename part context context') (hash : EntityHash) :
    context'.docComment hash = context.docComment hash := by
  unfold NodeContext.docComment
  rw [same.config, same.node]
  rfl

theorem pendingMember (same : Corresponds rename part context context') (hash : EntityHash)
    (astNodeId : AstNodeId) (member : MemberKind × Modifiers) :
    context'.pendingMember hash astNodeId member =
      (context.pendingMember hash astNodeId member).map (·.rename rename) := by
  unfold NodeContext.pendingMember
  rw [same.id]
  rcases same.embeds.owner? same.inside with
    ⟨none, none'⟩ | ⟨owner, node, node', found, found', _, matched⟩
  · rw [none, none']
    rfl
  · rw [found, found']
    obtain ⟨parent, start, stop, isImplicit, docComment, kind⟩ := node
    obtain ⟨parent', start', stop', isImplicit', docComment', kind'⟩ := node'
    obtain rfl : kind' = kind := matched.kind
    cases kind' <;> rfl

theorem declare (same : Corresponds rename part context context') (identity : NodeIdentity)
    (shape : DeclarationShape) :
    Agrees (SameFailure rename) (fun rows rows' => rows' = rows.rename rename)
      (context.declare identity shape) (context'.declare identity shape) := by
  unfold NodeContext.declare
  refine (same.astNode _ _ _).bind ?_
  rintro astNode _ rfl
  refine .ok ?_
  rw [same.docComment]
  cases shape.member with
  | none => rfl
  | some member =>
      simp only [Option.bind_some, same.pendingMember]
      rfl

/-! ### Outcomes -/

theorem unidentified (same : Corresponds rename part context context') (earlier : List Remark)
    {error error' : IdentityError} (errors : SameError rename error error') :
    SameOutcome rename (context.unidentified earlier error)
      (context'.unidentified earlier error') where
  remarks := rfl
  result := by
    unfold NodeContext.unidentified
    rw [same.id]
    exact .error (.identity context.id errors)

theorem declared (same : Corresponds rename part context context') (earlier : List Remark)
    (identity : NodeIdentity) (shape : DeclarationShape) :
    SameOutcome rename (context.declared earlier identity shape)
      (context'.declared earlier identity shape) := by
  unfold NodeContext.declared
  rcases (same.declare identity shape).ok_or_error with
    ⟨rows, rows', made, made', renamed⟩ | ⟨failure, failure', failed, failed', failures⟩
  · rw [made, made']
    exact ⟨rfl, .ok (congrArg Contribution.declaration renamed)⟩
  · rw [failed, failed']
    exact ⟨rfl, .error failures⟩

/-- What has a type gives the same outcome if it has the same identity. -/
theorem typedOutcome (same : Corresponds rename part context context')
    {identity identity' : Except IdentityError NodeIdentity}
    (identities : Agrees (SameError rename) Eq identity identity') (declaredType : TypeRef)
    (isFinal isStatic : Bool) (shape : EntityDetail → DeclarationShape) :
    SameOutcome rename (context.typedOutcome identity declaredType isFinal isStatic shape)
      (context'.typedOutcome identity' declaredType isFinal isStatic shape) := by
  unfold NodeContext.typedOutcome
  cases identities with
  | error errors => exact same.unidentified [] errors
  | ok identities =>
      subst identities
      unfold typedDetail
      cases declaredType.key with
      | error error => exact same.unidentified [] (.refl error)
      | ok key => exact same.declared [] _ _

theorem typeOutcome (same : Corresponds rename part context context') (decl : TypeDecl) :
    SameOutcome rename (context.typeOutcome decl) (context'.typeOutcome decl) := by
  unfold NodeContext.typeOutcome
  rw [same.id]
  rcases (same.embeds.typeIdentity same.inside).ok_or_error with
    ⟨identity, _, identified, identified', rfl⟩ | ⟨error, error', failed, failed', errors⟩
  · rw [identified, identified']
    rcases resolveBases decl.supertypes with ⟨remarks, error | bases⟩
    · exact same.unidentified remarks (.refl error)
    · exact same.declared remarks identity _
  · rw [failed, failed']
    exact same.unidentified [] errors

theorem anonymousClassOutcome (same : Corresponds rename part context context') :
    SameOutcome rename context.anonymousClassOutcome context'.anonymousClassOutcome := by
  unfold NodeContext.anonymousClassOutcome
  rw [same.id, same.node]
  rcases (same.embeds.typeIdentity same.inside).ok_or_error with
    ⟨identity, _, identified, identified', rfl⟩ | ⟨error, error', failed, failed', errors⟩
  · rw [identified, identified']
    exact ⟨rfl, .ok rfl⟩
  · rw [failed, failed']
    exact same.unidentified [] errors

theorem enumConstantOutcome (same : Corresponds rename part context context')
    (decl : EnumConstantDecl) :
    SameOutcome rename (context.enumConstantOutcome decl)
      (context'.enumConstantOutcome decl) := by
  unfold NodeContext.enumConstantOutcome
  rw [same.id]
  rcases (same.embeds.enumConstantIdentity same.inside decl.name).ok_or_error with
    ⟨identity, _, identified, identified', rfl⟩ | ⟨error, error', failed, failed', errors⟩
  · rw [identified, identified']
    exact same.declared [] identity _
  · rw [failed, failed']
    exact same.unidentified [] errors

theorem invocationOutcome (same : Corresponds rename part context context') (call : Invocation) :
    SameOutcome rename (context.invocationOutcome call) (context'.invocationOutcome call) := by
  unfold NodeContext.invocationOutcome
  rw [same.config]
  cases context.config.emitUsages with
  | false => exact ⟨rfl, .ok rfl⟩
  | true =>
      cases call.target with
      | none => exact ⟨rfl, .ok rfl⟩
      | some target =>
          simp only [Bool.not_true, Bool.false_eq_true, if_false]
          cases target.key with
          | error error => exact same.unidentified [] (.refl error)
          | ok key =>
              refine ⟨rfl, (same.astNode key.hash .method .usage).map ?_⟩
              rintro astNode _ rfl
              rfl

/-- A node that stands in two units has the same outcome in both, up to ids. -/
theorem outcome (same : Corresponds rename part context context') :
    SameOutcome rename context.outcome context'.outcome := by
  have kind : context'.node.kind = context.node.kind := by
    rw [same.node]
    rfl
  unfold NodeContext.outcome
  rw [kind]
  cases context.node.kind with
  | namedType decl => exact same.typeOutcome decl
  | anonymousClass body => exact same.anonymousClassOutcome
  | method decl =>
      unfold methodOutcome
      rw [same.id]
      exact same.typedOutcome (same.embeds.methodIdentity same.inside) _ _ _ _
  | field decl =>
      unfold fieldOutcome
      rw [same.id]
      exact same.typedOutcome (same.embeds.fieldIdentity same.inside _ _) _ _ _ _
  | enumConstant decl => exact same.enumConstantOutcome decl
  | localVariable decl =>
      unfold variableOutcome
      rw [same.id]
      exact same.typedOutcome (same.embeds.variableIdentity same.inside _ _) _ _ _ _
  | lambda decl =>
      unfold lambdaOutcome
      rw [same.id]
      exact same.typedOutcome (same.embeds.methodIdentity same.inside) _ _ _ _
  | invocation call => exact same.invocationOutcome call
  | other => exact ⟨rfl, .ok rfl⟩

end Corresponds

/-- A node gives the same in another unit in which it stands under its own id. -/
theorem outcome_eq_of_embeds (context : NodeContext) {unit' : SourceUnit} {part : NodeId → Prop}
    (embeds : context.unit.Embeds (fun id => id) part unit') (inside : part context.id)
    (fileId : unit'.fileId = context.unit.fileId) :
    { context with unit := unit' }.outcome = context.outcome := by
  have corresponds : Corresponds (fun id => id) part context { context with unit := unit' } := {
    embeds := embeds
    inside := inside
    id := rfl
    node := context.node.rename_id.symm
    config := rfl
    lines := rfl
    fileId := fileId }
  exact corresponds.outcome.eq_of_id

end NodeContext

end CodeIndex

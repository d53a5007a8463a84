import CodeIndex.Outcome

/-!
# Outcomes by kind of node

What the outcome of a node can be, told from its kind alone.

* `outcome_declares`: a node that declares an entity gives the rows of one declaration, all of
  them about the node (`Declaration.IsOf`), or one failure about the node.
* `outcome_anonymousClass`: an anonymous class gives no row and at most one failure.
* `outcome_invocation`: a wanted call gives a usage row, is left out with one remark, or fails;
  an unwanted call leaves nothing behind.
-/

namespace CodeIndex

/-! ## What a kind of node calls for -/

/-- A node of this kind declares an entity. -/
def NodeKind.declares : NodeKind → Bool
  | .namedType _ | .method _ | .field _ | .enumConstant _ | .localVariable _ | .lambda _ => true
  | .anonymousClass _ | .invocation _ | .other => false

/-- What a node of this kind is to a type that owns it, with the modifiers that decide who sees
it. Lambdas and variables are no members. -/
def NodeKind.membership? : NodeKind → Option (MemberKind × Modifiers)
  | .namedType decl => some (.nestedType, decl.modifiers)
  | .method decl => some (if decl.isConstructor then .constructor else .method, decl.modifiers)
  | .field decl => some (.field, decl.modifiers)
  | .enumConstant _ => some (.enumConstant, .enumConstant)
  | _ => none

/-- The identity of a node, if nodes of its kind have one. -/
def SourceUnit.identity? (unit : SourceUnit) (id : NodeId) :
    NodeKind → Option (Except IdentityError NodeIdentity)
  | .namedType _ | .anonymousClass _ => some (unit.typeIdentity id)
  | .method _ | .lambda _ => some (unit.methodIdentity id)
  | .field decl => some (unit.fieldIdentity id decl.name decl.fieldType)
  | .enumConstant decl => some (unit.enumConstantIdentity id decl.name)
  | .localVariable decl => some (unit.variableIdentity id decl.name decl.variableType)
  | .invocation _ | .other => none

/-- The row shows the node: where it stands, in which file, and the text that stands there. -/
structure AstNode.IsPlaceOf (context : NodeContext) (astNode : AstNode) : Prop where
  location : context.lines.span context.node.start context.node.stop = .ok astNode.location
  value : ∃ text, context.lines.slice context.node.start context.node.stop = .ok text ∧
    astNode.value = context.config.clip text
  fileId : astNode.fileId = context.unit.fileId
  isVisible : astNode.isVisible = !context.node.isImplicit
  id : astNode.id = ⟨hashText (AstNode.idText context.unit.fileId context.node.start
    context.node.stop astNode.symbolKind astNode.astKind astNode.entityHash)⟩

/-- The rows declare the node: the entity has the identity of the node, its place is the row for
the node, and documentation and membership are those of the node. -/
structure Declaration.IsOf (context : NodeContext) (rows : Declaration) : Prop where
  identity : ∃ identity,
    context.unit.identity? context.id context.node.kind = some (.ok identity) ∧
      rows.entity.hash = identity.key.hash ∧ rows.entity.qualifiedName = identity.qualifiedName
  place : rows.astNode.IsPlaceOf context
  astKind : rows.astNode.astKind ≠ .usage
  hash : rows.entity.hash = rows.astNode.entityHash
  astNodeId : rows.entity.astNodeId = rows.astNode.id
  docComment : rows.docComment = context.docComment rows.entity.hash
  member : rows.member = context.node.kind.membership?.bind
    (context.pendingMember rows.entity.hash rows.entity.astNodeId)

/-- The declaration among what an outcome gives. -/
def Outcome.declaration? (outcome : Outcome) : Option Declaration :=
  outcome.result.toOption.bind (·.declaration?)

theorem Outcome.declaration?_of_ok {outcome : Outcome} {contribution : Contribution}
    (result : outcome.result = .ok contribution) :
    outcome.declaration? = contribution.declaration? := by
  unfold declaration?
  rw [result]
  rfl

theorem Outcome.declaration?_of_error {outcome : Outcome} {failure : Failure}
    (result : outcome.result = .error failure) : outcome.declaration? = none := by
  unfold declaration?
  rw [result]
  rfl

/-- The outcome is one declaration of the node, or one failure about the node. -/
def Outcome.Declares (context : NodeContext) (outcome : Outcome) : Prop :=
  (∃ rows, outcome.result = .ok (.declaration rows) ∧ rows.IsOf context) ∨
    ∃ failure, outcome.result = .error failure ∧ failure.subject = .node context.id

/-! ## Parts of an outcome -/

namespace NodeContext

variable {context : NodeContext}

theorem astNode_eq_ok {hash : EntityHash} {symbolKind : SymbolKind} {astKind : AstKind}
    {astNode : AstNode} (placed : context.astNode hash symbolKind astKind = .ok astNode) :
    astNode.IsPlaceOf context ∧ astNode.entityHash = hash ∧ astNode.astKind = astKind := by
  simp only [NodeContext.astNode] at placed
  split at placed
  · cases placed
  · cases placed
  · next location text span slice =>
      -- `cases` would try to evaluate the hash in the row
      obtain rfl := Except.ok.inj placed
      exact ⟨⟨span, ⟨text, slice, rfl⟩, rfl, rfl, rfl⟩, rfl, rfl⟩

theorem astNode_eq_error {hash : EntityHash} {symbolKind : SymbolKind} {astKind : AstKind}
    {failure : Failure} (failed : context.astNode hash symbolKind astKind = .error failure) :
    failure.subject = .node context.id := by
  simp only [NodeContext.astNode] at failed
  split at failed
  · cases failed
    rfl
  · cases failed
    rfl
  · cases failed

theorem ofBody_ne_usage (hasBody : Bool) : AstKind.ofBody hasBody ≠ .usage := by
  cases hasBody <;> decide

/-- Rows whose shape fits the kind of the node are rows of that node. -/
theorem declare_eq_ok {identity : NodeIdentity} {shape : DeclarationShape} {rows : Declaration}
    (made : context.declare identity shape = .ok rows)
    (found : context.unit.identity? context.id context.node.kind = some (.ok identity))
    (astKind : shape.astKind ≠ .usage)
    (member : shape.member = context.node.kind.membership?) : rows.IsOf context := by
  simp only [declare] at made
  cases placed : context.astNode identity.key.hash shape.symbolKind shape.astKind with
  | error failure =>
      rw [placed] at made
      cases made
  | ok astNode =>
      rw [placed] at made
      cases made
      obtain ⟨place, hash, kind⟩ := astNode_eq_ok placed
      exact {
        identity := ⟨identity, found, rfl, rfl⟩
        place := place
        astKind := kind ▸ astKind
        hash := hash.symm
        astNodeId := rfl
        docComment := rfl
        member := by rw [← member] }

theorem declare_eq_error {identity : NodeIdentity} {shape : DeclarationShape} {failure : Failure}
    (failed : context.declare identity shape = .error failure) :
    failure.subject = .node context.id := by
  simp only [declare] at failed
  cases placed : context.astNode identity.key.hash shape.symbolKind shape.astKind with
  | error reason =>
      rw [placed] at failed
      cases failed
      exact astNode_eq_error placed
  | ok astNode =>
      rw [placed] at failed
      cases failed

/-- A declaration whose shape fits the kind of its node gives the rows of that node, or fails
over the node. -/
theorem declared_declares {earlier : List Remark} {identity : NodeIdentity}
    {shape : DeclarationShape}
    (found : context.unit.identity? context.id context.node.kind = some (.ok identity))
    (astKind : shape.astKind ≠ .usage)
    (member : shape.member = context.node.kind.membership?) :
    (context.declared earlier identity shape).Declares context := by
  unfold declared
  cases made : context.declare identity shape with
  | error failure => exact .inr ⟨failure, rfl, declare_eq_error made⟩
  | ok rows => exact .inl ⟨rows, rfl, declare_eq_ok made found astKind member⟩

theorem unidentified_declares {earlier : List Remark} {error : IdentityError} :
    (context.unidentified earlier error).Declares context :=
  .inr ⟨_, rfl, rfl⟩

theorem typedOutcome_declares {identity : Except IdentityError NodeIdentity}
    {declaredType : TypeRef} {isFinal isStatic : Bool} {shape : EntityDetail → DeclarationShape}
    (found : context.unit.identity? context.id context.node.kind = some identity)
    (astKind : ∀ detail, (shape detail).astKind ≠ .usage)
    (member : ∀ detail, (shape detail).member = context.node.kind.membership?) :
    (context.typedOutcome identity declaredType isFinal isStatic shape).Declares context := by
  unfold typedOutcome typedDetail
  cases identity with
  | error error => exact unidentified_declares
  | ok identity =>
      cases declaredType.key with
      | error error => exact .inr ⟨_, rfl, rfl⟩
      | ok key => exact declared_declares found (astKind _) (member _)

/-! ## Outcomes by kind -/

theorem typeOutcome_declares {decl : TypeDecl} (kind : context.node.kind = .namedType decl) :
    (context.typeOutcome decl).Declares context := by
  have found : context.unit.identity? context.id context.node.kind =
      some (context.unit.typeIdentity context.id) := by
    rw [kind]
    rfl
  unfold typeOutcome
  cases identified : context.unit.typeIdentity context.id with
  | error error => exact unidentified_declares
  | ok identity =>
      rw [identified] at found
      rcases resolveBases decl.supertypes with ⟨remarks, error | bases⟩
      · exact unidentified_declares
      · exact declared_declares found (fun usage => by cases usage) (by rw [kind]; rfl)

theorem enumConstantOutcome_declares {decl : EnumConstantDecl}
    (kind : context.node.kind = .enumConstant decl) :
    (context.enumConstantOutcome decl).Declares context := by
  have found : context.unit.identity? context.id context.node.kind =
      some (context.unit.enumConstantIdentity context.id decl.name) := by
    rw [kind]
    rfl
  unfold enumConstantOutcome
  cases identified : context.unit.enumConstantIdentity context.id decl.name with
  | error error => exact unidentified_declares
  | ok identity =>
      rw [identified] at found
      exact declared_declares found (fun usage => by cases usage) (by rw [kind]; rfl)

/-- A node that declares an entity gives one declaration or one failure. -/
theorem outcome_declares (declares : context.node.kind.declares = true) :
    context.outcome.Declares context := by
  unfold outcome
  cases kind : context.node.kind with
  | namedType decl => exact typeOutcome_declares kind
  | method decl =>
      exact typedOutcome_declares (by rw [kind]; rfl) (fun _ => ofBody_ne_usage _)
        (fun _ => by rw [kind]; rfl)
  | field decl =>
      exact typedOutcome_declares (by rw [kind]; rfl) (fun _ => ofBody_ne_usage _)
        (fun _ => by rw [kind]; rfl)
  | enumConstant decl => exact enumConstantOutcome_declares kind
  | localVariable decl =>
      exact typedOutcome_declares (by rw [kind]; rfl) (fun _ => ofBody_ne_usage _)
        (fun _ => by rw [kind]; rfl)
  | lambda decl =>
      exact typedOutcome_declares (by rw [kind]; rfl) (fun _ usage => by cases usage)
        (fun _ => by rw [kind]; rfl)
  | anonymousClass body => simp [kind, NodeKind.declares] at declares
  | invocation call => simp [kind, NodeKind.declares] at declares
  | other => simp [kind, NodeKind.declares] at declares

/-- An anonymous class gives no row, and fails over itself or not at all. -/
theorem outcome_anonymousClass {body : AnonymousClass}
    (kind : context.node.kind = .anonymousClass body) :
    context.outcome.result = .ok .nothing ∨
      ∃ failure, context.outcome.result = .error failure ∧
        failure.subject = .node context.id := by
  unfold outcome
  rw [kind]
  unfold anonymousClassOutcome
  cases context.unit.typeIdentity context.id with
  | error error => exact .inr ⟨_, rfl, rfl⟩
  | ok identity => exact .inl rfl

/-- A call that is wanted and has no target is left out, with one remark. -/
theorem outcome_invocation_unresolved {call : Invocation}
    (kind : context.node.kind = .invocation call) (wanted : context.config.emitUsages = true)
    (unresolved : call.target = none) :
    context.outcome = ⟨[.skippedReference call.name], .ok .nothing⟩ := by
  unfold outcome
  rw [kind]
  unfold invocationOutcome
  simp [wanted, unresolved]

/-- A call that is wanted and has a target gives one usage row, or fails over itself. -/
theorem outcome_invocation_resolved {call : Invocation} {target : MethodBinding}
    (kind : context.node.kind = .invocation call) (wanted : context.config.emitUsages = true)
    (resolved : call.target = some target) :
    context.outcome.remarks = [] ∧
      ((∃ key astNode, target.key = .ok key ∧
          context.outcome.result = .ok (.usage astNode) ∧ astNode.IsPlaceOf context ∧
          astNode.entityHash = key.hash ∧ astNode.astKind = .usage) ∨
        ∃ failure, context.outcome.result = .error failure ∧
          failure.subject = .node context.id) := by
  cases keyed : target.key with
  | error error =>
      have outcome_eq : context.outcome = context.unidentified [] error := by
        simp [outcome, kind, invocationOutcome, wanted, resolved, keyed]
      rw [outcome_eq]
      exact ⟨rfl, .inr ⟨_, rfl, rfl⟩⟩
  | ok key =>
      have outcome_eq : context.outcome =
          ⟨[], .usage <$> context.astNode key.hash .method .usage⟩ := by
        simp [outcome, kind, invocationOutcome, wanted, resolved, keyed]
      rw [outcome_eq]
      refine ⟨rfl, ?_⟩
      cases placed : context.astNode key.hash .method .usage with
      | error failure => exact .inr ⟨failure, rfl, astNode_eq_error placed⟩
      | ok astNode =>
          obtain ⟨place, hash, astKind⟩ := astNode_eq_ok placed
          exact .inl ⟨key, astNode, rfl, rfl, place, hash, astKind⟩

/-- A call that is not wanted leaves nothing behind. -/
theorem outcome_invocation_unwanted {call : Invocation}
    (kind : context.node.kind = .invocation call) (unwanted : context.config.emitUsages = false) :
    context.outcome = ⟨[], .ok .nothing⟩ := by
  unfold outcome
  rw [kind]
  unfold invocationOutcome
  simp [unwanted]

theorem outcome_other (kind : context.node.kind = .other) :
    context.outcome = ⟨[], .ok .nothing⟩ := by
  unfold outcome
  rw [kind]

/-! ## What the rows of an outcome are about -/

/-- Only a node of a kind that declares an entity gives a declaration. -/
theorem declares_of_declaration? {rows : Declaration}
    (given : context.outcome.declaration? = some rows) :
    context.node.kind.declares = true := by
  cases kind : context.node.kind with
  | anonymousClass body =>
      rcases outcome_anonymousClass kind with nothing | ⟨failure, failed, _⟩
      · rw [Outcome.declaration?_of_ok nothing] at given
        cases given
      · rw [Outcome.declaration?_of_error failed] at given
        cases given
  | invocation call =>
      cases wanted : context.config.emitUsages with
      | false =>
          rw [outcome_invocation_unwanted kind wanted] at given
          cases given
      | true =>
          cases resolved : call.target with
          | none =>
              rw [outcome_invocation_unresolved kind wanted resolved] at given
              cases given
          | some target =>
              rcases (outcome_invocation_resolved kind wanted resolved).2 with
                ⟨key, astNode, _, used, _⟩ | ⟨failure, failed, _⟩
              · rw [Outcome.declaration?_of_ok used] at given
                cases given
              · rw [Outcome.declaration?_of_error failed] at given
                cases given
  | other =>
      rw [outcome_other kind] at given
      cases given
  | _ => rfl

/-- The rows of a declaration are about the node that gave them. -/
theorem isOf_of_declaration? {rows : Declaration}
    (given : context.outcome.declaration? = some rows) : rows.IsOf context := by
  rcases outcome_declares (declares_of_declaration? given) with
    ⟨found, result, isOf⟩ | ⟨failure, failed, _⟩
  · rw [Outcome.declaration?_of_ok result] at given
    obtain rfl : found = rows := Option.some.inj given
    exact isOf
  · rw [Outcome.declaration?_of_error failed] at given
    cases given

end NodeContext

end CodeIndex

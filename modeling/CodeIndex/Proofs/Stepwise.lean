import CodeIndex.Proofs.Outcome
import CodeIndex.Proofs.Share

/-!
# A build as a run of steps

The first pass as changes of a state: the rows so far, the failures, the counters, the hashes
that have an entity, and the memberships that wait for their owner. The steps of a node are
taken in the order of their effects. A step may fail, and then the state stays as it is at that
moment; nothing is taken back.

* `NodeContext.visit` are the steps of one node; `visit_run` says that they change the state by
  the outcome of the node.
* `build_eq_run`: a build is what visiting its nodes leaves, with the memberships linked.
* `failed_visit`: a failure leaves the state as it was, apart from the references that a type
  has left out before; `NodeContext.leftOut` is their number.
-/

namespace CodeIndex

/-- What a build has come to after some of its nodes. -/
structure Progress where
  records : RecordSet := {}
  failures : List Failure := []
  counts : Counts := {}
  emitted : Std.HashSet EntityHash := {}
  pending : List PendingMember := []

/-- A change of what a build has come to. -/
abbrev Step (α : Type) := EStateM Failure Progress α

/-! ## Steps -/

namespace Step

/-- Counts a reference that is left out. -/
def skipReference : Step Unit :=
  modify fun state =>
    { state with counts.skippedReferences := state.counts.skippedReferences + 1 }

/-- Counts the placeholder of an identity that has one. -/
def notePlaceholder (identity : NodeIdentity) : Step Unit :=
  if identity.isPlaceholder then
    modify fun state => { state with counts.placeholders := state.counts.placeholders + 1 }
  else pure ()

def addAstNode (astNode : AstNode) : Step Unit :=
  modify fun state => { state with records.astNodes := state.records.astNodes ++ [astNode] }

/-- Adds an entity. From now on its hash is known. -/
def addEntity (entity : Entity) : Step Unit :=
  modify fun state =>
    { state with
      records.entities := state.records.entities ++ [entity]
      emitted := state.emitted.insert entity.hash }

def addDocComment (comment : DocComment) : Step Unit :=
  modify fun state =>
    { state with records.docComments := state.records.docComments ++ [comment] }

/-- Adds both edges from a type to one that it specializes. -/
def addBase (derived : EntityHash) (base : Base) : Step Unit :=
  modify fun state =>
    { state with
      records.inheritances := state.records.inheritances ++ [⟨base.hash, derived⟩]
      records.relations := state.records.relations ++ [⟨base.kind, derived, base.hash⟩] }

def addPending (pending : PendingMember) : Step Unit :=
  modify fun state => { state with pending := state.pending ++ [pending] }

end Step

namespace NodeContext

variable (context : NodeContext)

/-- A part that an identity needs. Without it the node fails. -/
def require {α : Type} (part : Except IdentityError α) : Step α :=
  ofExcept (part.mapError (.ofIdentity context.id))

/-- Goes through the references of a type, counts what it leaves out, and fails at the first
resolved one that has no key. -/
def collectBases : List (TypeRef × RelationKind) → Step (List Base)
  | [] => pure []
  | (reference, kind) :: rest => do
    if reference.isResolved then
      let key ← context.require reference.key
      let bases ← collectBases rest
      return ⟨key.hash, kind⟩ :: bases
    else
      Step.skipReference
      collectBases rest

/-- Adds the rows of a declaration. Its place in the text is the only thing that can fail. -/
def emit (identity : NodeIdentity) (shape : DeclarationShape) : Step Unit := do
  let hash := identity.key.hash
  let astNode ← ofExcept (context.astNode hash shape.symbolKind shape.astKind)
  Step.notePlaceholder identity
  Step.addAstNode astNode
  Step.addEntity ⟨astNode.id, hash, shape.name, identity.qualifiedName, shape.detail⟩
  (context.docComment hash).forM Step.addDocComment
  shape.bases.forM (Step.addBase hash)
  (shape.member.bind (context.pendingMember hash astNode.id)).forM Step.addPending

/-- The steps of a declaration that has a type. -/
def visitTyped (identity : Except IdentityError NodeIdentity) (declaredType : TypeRef)
    (isFinal isStatic : Bool) (shape : EntityDetail → DeclarationShape) : Step Unit := do
  let identity ← context.require identity
  let detail ← ofExcept (typedDetail context.id isFinal isStatic declaredType)
  context.emit identity (shape detail)

def visitType (decl : TypeDecl) : Step Unit := do
  let identity ← context.require (context.unit.typeIdentity context.id)
  let bases ← context.collectBases decl.supertypes
  context.emit identity {
    name := decl.name
    symbolKind := .type
    astKind := .definition
    detail := .type ⟨decl.modifiers.isAbstract || decl.typeKind = .interfaceType,
      decl.modifiers.isFinal⟩
    bases := bases
    member := some (.nestedType, decl.modifiers) }

def visitAnonymousClass : Step Unit := do
  let identity ← context.require (context.unit.typeIdentity context.id)
  Step.notePlaceholder identity

def visitMethod (decl : MethodDecl) : Step Unit :=
  context.visitTyped (context.unit.methodIdentity context.id) (decl.returnType.getD .void)
    decl.modifiers.isFinal decl.modifiers.isStatic fun detail => {
      name := decl.name
      symbolKind := if decl.isConstructor then .constructor else .method
      astKind := .ofBody decl.hasBody
      detail := detail
      member := some (if decl.isConstructor then .constructor else .method, decl.modifiers) }

def visitLambda (decl : LambdaDecl) : Step Unit :=
  context.visitTyped (context.unit.methodIdentity context.id) (decl.returnType.getD .void)
    false false fun detail => {
      name := NodeKind.lambdaName decl
      symbolKind := .lambda
      astKind := .definition
      detail := detail }

def visitField (decl : FieldDecl) : Step Unit :=
  context.visitTyped (context.unit.fieldIdentity context.id decl.name decl.fieldType)
    decl.fieldType decl.modifiers.isFinal decl.modifiers.isStatic fun detail => {
      name := decl.name
      symbolKind := .field
      astKind := .ofBody decl.hasInitializer
      detail := detail
      member := some (.field, decl.modifiers) }

def visitEnumConstant (decl : EnumConstantDecl) : Step Unit := do
  let identity ← context.require (context.unit.enumConstantIdentity context.id decl.name)
  context.emit identity {
    name := decl.name
    symbolKind := .enumConstant
    astKind := .definition
    detail := .constant
    member := some (.enumConstant, .enumConstant) }

def visitVariable (decl : VariableDecl) : Step Unit :=
  context.visitTyped (context.unit.variableIdentity context.id decl.name decl.variableType)
    decl.variableType decl.modifiers.isFinal decl.modifiers.isStatic fun detail => {
      name := decl.name
      symbolKind := .localVariable
      astKind := .ofBody decl.hasInitializer
      detail := detail }

def visitInvocation (call : Invocation) : Step Unit := do
  if context.config.emitUsages then
    match call.target with
    | none => Step.skipReference
    | some target =>
      let key ← context.require target.key
      let astNode ← ofExcept (context.astNode key.hash .method .usage)
      Step.addAstNode astNode

/-- The steps of a node, in the order of their effects. -/
def visit : Step Unit :=
  match context.node.kind with
  | .namedType decl => context.visitType decl
  | .anonymousClass _ => context.visitAnonymousClass
  | .method decl => context.visitMethod decl
  | .field decl => context.visitField decl
  | .enumConstant decl => context.visitEnumConstant decl
  | .localVariable decl => context.visitVariable decl
  | .lambda decl => context.visitLambda decl
  | .invocation call => context.visitInvocation call
  | .other => pure ()

end NodeContext

/-! ## What steps come to -/

theorem Counts.ofRemarks_append (first second : List Remark) :
    Counts.ofRemarks (first ++ second) = .ofRemarks first + .ofRemarks second := by
  simp only [Counts.ofRemarks, Counts.add_eq, List.countP_append]

namespace Progress

/-- Remarks are counted. -/
def remark (state : Progress) (remarks : List Remark) : Progress :=
  { state with counts := state.counts + .ofRemarks remarks }

/-- The rows of a node are added, and its membership waits. -/
def add (state : Progress) (contribution : Contribution) : Progress :=
  { state with
    records := state.records ++ contribution.records fun _ => none
    emitted := state.emitted.insertMany (contribution.declaration?.toList.map (·.entity.hash))
    pending := state.pending ++ contribution.declaration?.toList.filterMap (·.member) }

/-- What an outcome makes of the state: its remarks are counted in any case, and its rows are
added unless it is a failure. -/
def after (state : Progress) (outcome : Outcome) : EStateM.Result Failure Progress Unit :=
  match outcome.result with
  | .error failure => .error failure (state.remark outcome.remarks)
  | .ok contribution => .ok () ((state.remark outcome.remarks).add contribution)

theorem remark_append (state : Progress) (first second : List Remark) :
    state.remark (first ++ second) = (state.remark first).remark second := by
  simp only [remark, Counts.ofRemarks_append, Counts.add_eq, Nat.add_assoc]

theorem add_nothing (state : Progress) : state.add .nothing = state := by
  simp [add, Contribution.records, Contribution.declaration?, RecordSet.append_eq]

theorem after_nothing (state : Progress) (remarks : List Remark) :
    state.after ⟨remarks, .ok .nothing⟩ = .ok () (state.remark remarks) :=
  congrArg (EStateM.Result.ok ()) (state.remark remarks).add_nothing

theorem add_usage (state : Progress) (astNode : AstNode) :
    state.add (.usage astNode) =
      { state with records.astNodes := state.records.astNodes ++ [astNode] } := by
  simp [add, Contribution.records, Contribution.declaration?, RecordSet.append_eq]

theorem add_declaration (state : Progress) (rows : Declaration) :
    state.add (.declaration rows) =
      { state with
        records := {
          astNodes := state.records.astNodes ++ [rows.astNode]
          entities := state.records.entities ++ [rows.entity]
          relations := state.records.relations ++
            rows.bases.map fun base => ⟨base.kind, rows.entity.hash, base.hash⟩
          inheritances := state.records.inheritances ++
            rows.bases.map fun base => ⟨base.hash, rows.entity.hash⟩
          memberTypes := state.records.memberTypes
          docComments := state.records.docComments ++ rows.docComment.toList }
        emitted := state.emitted.insert rows.entity.hash
        pending := state.pending ++ rows.member.toList } := by
  have waiting : [rows].filterMap (·.member) = rows.member.toList := by
    cases member : rows.member <;> simp [member]
  have noRow : rows.member.toList.filterMap (fun _ => (none : Option MemberType)) = [] := by
    cases rows.member <;> rfl
  simp [add, Contribution.records, Contribution.declaration?, RecordSet.append_eq, waiting, noRow]

end Progress

/-! ## Runs of steps -/

section Runs

variable (context : NodeContext) (state : Progress)

theorem run_ofExcept {α : Type} (part : Except Failure α) :
    EStateM.run (ofExcept part : Step α) state =
      match part with
      | .ok value => .ok value state
      | .error failure => .error failure state := by
  cases part <;> rfl

theorem run_require {α : Type} (part : Except IdentityError α) :
    (context.require part).run state =
      match part with
      | .ok value => .ok value state
      | .error error => .error (.ofIdentity context.id error) state := by
  cases part <;> rfl

theorem run_skipReference (written : String) :
    Step.skipReference.run state = .ok () (state.remark [.skippedReference written]) := rfl

theorem run_notePlaceholder (identity : NodeIdentity) :
    (Step.notePlaceholder identity).run state = .ok () (state.remark identity.remarks) := by
  unfold Step.notePlaceholder NodeIdentity.remarks
  cases identity.isPlaceholder <;> rfl

theorem run_collectBases (references : List (TypeRef × RelationKind)) :
    (context.collectBases references).run state =
      match resolveBases references with
      | (remarks, .ok bases) => .ok bases (state.remark remarks)
      | (remarks, .error error) =>
        .error (.ofIdentity context.id error) (state.remark remarks) := by
  induction references generalizing state with
  | nil => rfl
  | cons reference rest ih =>
      obtain ⟨reference, kind⟩ := reference
      unfold NodeContext.collectBases resolveBases
      cases resolved : reference.isResolved with
      | true =>
          simp only [if_true, EStateM.run_bind, run_require]
          cases reference.key with
          | error error => rfl
          | ok key =>
              simp only [ih]
              rcases resolveBases rest with ⟨remarks, error | bases⟩
              · rfl
              · rfl
      | false =>
          simp only [Bool.false_eq_true, if_false, EStateM.run_bind,
            run_skipReference state reference.written, ih, ← state.remark_append]
          rcases resolveBases rest with ⟨remarks, error | bases⟩
          · rfl
          · rfl

theorem run_addBases (derived : EntityHash) (bases : List Base) :
    EStateM.run (bases.forM (Step.addBase derived)) state =
      .ok () { state with
        records.inheritances :=
          state.records.inheritances ++ bases.map fun base => ⟨base.hash, derived⟩
        records.relations :=
          state.records.relations ++ bases.map fun base => ⟨base.kind, derived, base.hash⟩ } := by
  induction bases generalizing state with
  | nil =>
      simp only [List.map_nil, List.append_nil]
      rfl
  | cons base rest ih =>
      have first : (List.forM (base :: rest) (Step.addBase derived)).run state =
          EStateM.run (rest.forM (Step.addBase derived)) { state with
            records.inheritances := state.records.inheritances ++ [⟨base.hash, derived⟩]
            records.relations := state.records.relations ++ [⟨base.kind, derived, base.hash⟩] } :=
        rfl
      rw [first, ih]
      simp only [List.map_cons, List.append_assoc, List.singleton_append]

theorem run_addDocComment (comment : Option DocComment) :
    EStateM.run (comment.forM Step.addDocComment) state =
      .ok () { state with
        records.docComments := state.records.docComments ++ comment.toList } := by
  cases comment with
  | none =>
      simp only [Option.toList_none, List.append_nil]
      rfl
  | some comment => rfl

theorem run_addPending (pending : Option PendingMember) :
    EStateM.run (pending.forM Step.addPending) state =
      .ok () { state with pending := state.pending ++ pending.toList } := by
  cases pending with
  | none =>
      simp only [Option.toList_none, List.append_nil]
      rfl
  | some pending => rfl

/-- The rows of a declaration are added all together, or none of them is. -/
theorem run_emit (earlier : List Remark) (identity : NodeIdentity) (shape : DeclarationShape) :
    (context.emit identity shape).run (state.remark earlier) =
      state.after (context.declared earlier identity shape) := by
  unfold NodeContext.emit NodeContext.declared NodeContext.declare
  simp only [EStateM.run_bind, run_ofExcept]
  cases context.astNode identity.key.hash shape.symbolKind shape.astKind with
  | error failure => rfl
  | ok astNode =>
      simp only [run_notePlaceholder, Step.addAstNode, Step.addEntity, EStateM.run_modify,
        run_addDocComment, run_addBases, run_addPending, ← state.remark_append]
      show _ = EStateM.Result.ok () ((state.remark (earlier ++ identity.remarks)).add
        (.declaration _))
      rw [Progress.add_declaration]

theorem run_visitTyped (identity : Except IdentityError NodeIdentity) (declaredType : TypeRef)
    (isFinal isStatic : Bool) (shape : EntityDetail → DeclarationShape) :
    (context.visitTyped identity declaredType isFinal isStatic shape).run state =
      state.after (context.typedOutcome identity declaredType isFinal isStatic shape) := by
  unfold NodeContext.visitTyped NodeContext.typedOutcome
  simp only [EStateM.run_bind, run_require]
  cases identity with
  | error error => rfl
  | ok identity =>
      simp only [run_ofExcept]
      cases typedDetail context.id isFinal isStatic declaredType with
      | error failure => rfl
      | ok detail => exact run_emit context state [] identity (shape detail)

theorem run_visitType (decl : TypeDecl) :
    (context.visitType decl).run state = state.after (context.typeOutcome decl) := by
  unfold NodeContext.visitType NodeContext.typeOutcome
  simp only [EStateM.run_bind, run_require]
  cases context.unit.typeIdentity context.id with
  | error error => rfl
  | ok identity =>
      simp only [run_collectBases]
      rcases resolveBases decl.supertypes with ⟨remarks, error | bases⟩
      · rfl
      · exact run_emit context state remarks identity _

theorem run_visitAnonymousClass :
    context.visitAnonymousClass.run state = state.after context.anonymousClassOutcome := by
  unfold NodeContext.visitAnonymousClass NodeContext.anonymousClassOutcome
  simp only [EStateM.run_bind, run_require]
  cases context.unit.typeIdentity context.id with
  | error error => rfl
  | ok identity =>
      simp only [run_notePlaceholder]
      rw [state.after_nothing, state.remark_append]
      rfl

theorem run_visitEnumConstant (decl : EnumConstantDecl) :
    (context.visitEnumConstant decl).run state =
      state.after (context.enumConstantOutcome decl) := by
  unfold NodeContext.visitEnumConstant NodeContext.enumConstantOutcome
  simp only [EStateM.run_bind, run_require]
  cases context.unit.enumConstantIdentity context.id decl.name with
  | error error => rfl
  | ok identity => exact run_emit context state [] identity _

theorem run_visitInvocation (call : Invocation) :
    (context.visitInvocation call).run state = state.after (context.invocationOutcome call) := by
  unfold NodeContext.visitInvocation NodeContext.invocationOutcome
  cases context.config.emitUsages with
  | false => exact (state.after_nothing []).symm
  | true =>
      cases call.target with
      | none => exact (state.after_nothing [.skippedReference call.name]).symm
      | some target =>
          simp only [if_true, Bool.not_true, Bool.false_eq_true, if_false, EStateM.run_bind,
            run_require]
          cases target.key with
          | error error => rfl
          | ok key =>
              simp only [run_ofExcept]
              cases context.astNode key.hash .method .usage with
              | error failure => rfl
              | ok astNode => exact congrArg (EStateM.Result.ok ()) (state.add_usage astNode).symm

/-- The steps of a node change the state by the outcome of the node. -/
theorem visit_run : context.visit.run state = state.after context.outcome := by
  unfold NodeContext.visit NodeContext.outcome
  cases context.node.kind with
  | namedType decl => exact run_visitType context state decl
  | anonymousClass body => exact run_visitAnonymousClass context state
  | method decl => exact run_visitTyped context state _ _ _ _ _
  | field decl => exact run_visitTyped context state _ _ _ _ _
  | enumConstant decl => exact run_visitEnumConstant context state decl
  | localVariable decl => exact run_visitTyped context state _ _ _ _ _
  | lambda decl => exact run_visitTyped context state _ _ _ _ _
  | invocation call => exact run_visitInvocation context state call
  | other => exact (state.after_nothing []).symm

end Runs

/-! ## The whole first pass -/

namespace Progress

/-- The state after one more node. A failure is added to the others. -/
def next (state : Progress) (context : NodeContext) : Progress :=
  match context.visit.run state with
  | .ok _ after => after
  | .error failure after => { after with failures := after.failures ++ [failure] }

/-- The rows, once every waiting membership is linked. -/
def linked (unit : SourceUnit) (state : Progress) : RecordSet :=
  { state.records with
    memberTypes := state.pending.filterMap fun pending => (unit.link state.emitted pending).row? }

/-- What some outcomes, in their order, come to. -/
def ofOutcomes (outcomes : List (NodeId × Outcome)) : Progress where
  records := (Build.ofOutcomes (fun _ => .unnamed) outcomes).records
  failures := (Build.ofOutcomes (fun _ => .unnamed) outcomes).failures
  counts := (Build.ofOutcomes (fun _ => .unnamed) outcomes).counts
  emitted := .ofList ((declarations outcomes).map (·.entity.hash))
  pending := (declarations outcomes).filterMap (·.member)

end Progress

section FirstPass

variable (link : PendingMember → Link) (outcomes : List (NodeId × Outcome))
  (entry : NodeId × Outcome)

/-- One more node at the end adds its share at the end. -/
theorem share_append_singleton :
    (Build.ofOutcomes link (outcomes ++ [entry])).share =
      (Build.ofOutcomes link outcomes).share ++
        entry.2.share fun pending => (link pending).row? := by
  rw [Build.share_ofOutcomes, Build.share_ofOutcomes, List.map_append, Share.sum_append,
    List.map_singleton, Share.sum, Share.sum, Share.append_nil]

theorem records_append_singleton :
    (Build.ofOutcomes link (outcomes ++ [entry])).records =
      (Build.ofOutcomes link outcomes).records ++
        (entry.2.share fun pending => (link pending).row?).records :=
  congrArg (·.records) (share_append_singleton link outcomes entry)

theorem failures_append_singleton :
    (Build.ofOutcomes link (outcomes ++ [entry])).failures =
      (Build.ofOutcomes link outcomes).failures ++
        (entry.2.share fun pending => (link pending).row?).failures :=
  congrArg (·.failures) (share_append_singleton link outcomes entry)

theorem counts_append_singleton :
    (Build.ofOutcomes link (outcomes ++ [entry])).counts =
      (Build.ofOutcomes link outcomes).counts +
        (entry.2.share fun pending => (link pending).row?).counts :=
  congrArg (·.counts) (share_append_singleton link outcomes entry)

theorem declarations_append_singleton :
    declarations (outcomes ++ [entry]) =
      declarations outcomes ++ (entry.2.result.toOption.bind (·.declaration?)).toList := by
  unfold declarations contributions
  rw [List.filterMap_append, List.filterMap_append]
  obtain ⟨id, remarks, failure | contribution⟩ := entry
  · rfl
  · cases contribution <;> rfl

end FirstPass

/-- Visiting one more node adds its outcome. -/
theorem next_ofOutcomes (outcomes : List (NodeId × Outcome)) (context : NodeContext) :
    (Progress.ofOutcomes outcomes).next context =
      .ofOutcomes (outcomes ++ [(context.id, context.outcome)]) := by
  unfold Progress.next
  rw [visit_run]
  simp only [Progress.ofOutcomes, records_append_singleton, failures_append_singleton,
    counts_append_singleton, declarations_append_singleton, List.map_append,
    List.filterMap_append, Std.HashSet.ofList_eq_insertMany_empty, Std.HashSet.insertMany_append]
  obtain ⟨remarks, failure | contribution⟩ := context.outcome
  · simp [Progress.after, Progress.remark, Outcome.share, Except.toOption, RecordSet.append_eq]
  · simp [Progress.after, Progress.add, Progress.remark, Outcome.share, Except.toOption,
      Link.row?]

/-- What visiting the nodes of a unit leaves. -/
def SourceUnit.run (config : Config) (unit : SourceUnit) : Progress :=
  (unit.contexts config).foldl Progress.next {}

theorem foldl_next (contexts : List NodeContext) (outcomes : List (NodeId × Outcome)) :
    contexts.foldl Progress.next (.ofOutcomes outcomes) =
      .ofOutcomes (outcomes ++ contexts.map fun context => (context.id, context.outcome)) := by
  induction contexts generalizing outcomes with
  | nil => simp
  | cons context rest ih => rw [List.foldl_cons, next_ofOutcomes, ih]; simp

theorem run_eq_ofOutcomes (config : Config) (unit : SourceUnit) :
    unit.run config = .ofOutcomes (unit.outcomes config) := by
  have start : ({} : Progress) = .ofOutcomes [] := by
    unfold Progress.ofOutcomes
    rw [show declarations [] = [] from rfl, List.map_nil, Std.HashSet.ofList_nil]
    rfl
  unfold SourceUnit.run
  rw [start, foldl_next]
  rfl

/-- A build is what visiting its nodes leaves, with the memberships linked. -/
theorem build_eq_run (config : Config) (unit : SourceUnit) :
    (unit.build config).records = (unit.run config).linked unit ∧
      (unit.build config).failures = (unit.run config).failures ∧
      (unit.build config).counts = (unit.run config).counts := by
  rw [run_eq_ofOutcomes]
  refine ⟨?_, rfl, rfl⟩
  have rows : (unit.build config).records.memberTypes =
      ((Progress.ofOutcomes (unit.outcomes config)).linked unit).memberTypes :=
    List.filterMap_map
  -- the other lists of rows do not depend on what becomes of a membership
  exact congrArg
    (fun memberTypes => { (unit.build config).records with memberTypes := memberTypes }) rows

/-! ## Failures -/

/-- The reference was resolved and has no key even so. -/
def TypeRef.isKeyless (reference : TypeRef) : Bool :=
  reference.isResolved && reference.key.toOption.isNone

/-- How many references are left out before the first one that has no key ends the work. -/
def leftOutBefore (references : List (TypeRef × RelationKind)) : Nat :=
  (references.takeWhile fun (reference, _) => !reference.isKeyless).countP
    fun (reference, _) => !reference.isResolved

/-- How many references the node has left out when it fails: a type that can be named goes
through its references before anything else can fail. -/
def NodeContext.leftOut (context : NodeContext) : Nat :=
  match context.node.kind with
  | .namedType decl =>
    if (context.unit.typeIdentity context.id).toOption.isSome then leftOutBefore decl.supertypes
    else 0
  | _ => 0

theorem leftOutBefore_cons (reference : TypeRef) (kind : RelationKind)
    (rest : List (TypeRef × RelationKind)) :
    leftOutBefore ((reference, kind) :: rest) =
      if reference.isKeyless then 0
      else leftOutBefore rest + if reference.isResolved then 0 else 1 := by
  unfold leftOutBefore
  cases keyless : reference.isKeyless <;> cases resolved : reference.isResolved <;>
    simp [keyless, resolved]

theorem resolveBases_counts (references : List (TypeRef × RelationKind)) :
    Counts.ofRemarks (resolveBases references).1 = ⟨0, leftOutBefore references⟩ := by
  induction references with
  | nil => rfl
  | cons reference rest ih =>
      obtain ⟨reference, kind⟩ := reference
      rw [leftOutBefore_cons]
      unfold resolveBases TypeRef.isKeyless
      cases resolved : reference.isResolved with
      | true =>
          cases reference.key with
          | error error => rfl
          | ok key => exact ih
      | false =>
          have one : Counts.ofRemarks [.skippedReference reference.written] = ⟨0, 1⟩ := rfl
          have counted := Counts.ofRemarks_append [.skippedReference reference.written]
            (resolveBases rest).1
          rw [one, ih, Counts.add_eq, Nat.add_comm 1] at counted
          exact counted

namespace NodeContext

variable {context : NodeContext} {failure : Failure}

theorem declared_remarks_of_error {earlier : List Remark} {identity : NodeIdentity}
    {shape : DeclarationShape}
    (failed : (context.declared earlier identity shape).result = .error failure) :
    (context.declared earlier identity shape).remarks = earlier := by
  unfold declared at failed ⊢
  cases made : context.declare identity shape with
  | error reason => rfl
  | ok rows =>
      rw [made] at failed
      cases failed

theorem typedOutcome_counts_of_error {identity : Except IdentityError NodeIdentity}
    {declaredType : TypeRef} {isFinal isStatic : Bool} {shape : EntityDetail → DeclarationShape}
    (failed : (context.typedOutcome identity declaredType isFinal isStatic shape).result =
      .error failure) :
    Counts.ofRemarks (context.typedOutcome identity declaredType isFinal isStatic shape).remarks =
      {} := by
  unfold typedOutcome at failed ⊢
  cases identity with
  | error error => rfl
  | ok identity =>
      cases typed : typedDetail context.id isFinal isStatic declaredType with
      | error reason => rfl
      | ok detail =>
          simp only [typed] at failed ⊢
          rw [declared_remarks_of_error failed]
          rfl

theorem typeOutcome_counts_of_error {decl : TypeDecl}
    (failed : (context.typeOutcome decl).result = .error failure) :
    Counts.ofRemarks (context.typeOutcome decl).remarks =
      ⟨0, if (context.unit.typeIdentity context.id).toOption.isSome then
        leftOutBefore decl.supertypes else 0⟩ := by
  unfold typeOutcome at failed ⊢
  cases identified : context.unit.typeIdentity context.id with
  | error error => rfl
  | ok identity =>
      have counted := resolveBases_counts decl.supertypes
      simp only [identified] at failed ⊢
      rcases resolved : resolveBases decl.supertypes with ⟨remarks, error | bases⟩
      · rw [resolved] at counted
        exact counted
      · simp only [resolved] at counted failed ⊢
        rw [declared_remarks_of_error failed]
        exact counted

/-- A node that fails has remarked on the references that it has left out, and on nothing
else. -/
theorem outcome_counts_of_error (failed : context.outcome.result = .error failure) :
    Counts.ofRemarks context.outcome.remarks = ⟨0, context.leftOut⟩ := by
  cases kind : context.node.kind with
  | namedType decl =>
      simp only [outcome, leftOut, kind] at failed ⊢
      exact typeOutcome_counts_of_error failed
  | anonymousClass body =>
      simp only [outcome, leftOut, kind, anonymousClassOutcome] at failed ⊢
      cases identified : context.unit.typeIdentity context.id with
      | error error => rfl
      | ok identity =>
          rw [identified] at failed
          cases failed
  | enumConstant decl =>
      simp only [outcome, leftOut, kind, enumConstantOutcome] at failed ⊢
      cases identified : context.unit.enumConstantIdentity context.id decl.name with
      | error error => rfl
      | ok identity =>
          simp only [identified] at failed ⊢
          rw [declared_remarks_of_error failed]
          rfl
  | invocation call =>
      have nothing : context.leftOut = 0 := by simp only [leftOut, kind]
      rw [nothing]
      cases wanted : context.config.emitUsages with
      | false =>
          rw [outcome_invocation_unwanted kind wanted] at failed
          cases failed
      | true =>
          cases resolved : call.target with
          | none =>
              rw [outcome_invocation_unresolved kind wanted resolved] at failed
              cases failed
          | some target =>
              rw [(outcome_invocation_resolved kind wanted resolved).1]
              rfl
  | other =>
      rw [outcome_other kind] at failed
      cases failed
  | _ =>
      simp only [outcome, leftOut, kind] at failed ⊢
      exact typedOutcome_counts_of_error failed

end NodeContext

/-- A node that fails leaves the rows, the failures, the known hashes, the waiting memberships
and the number of placeholders as they were, and the build reports that failure. What it has
left out before stays counted: the state is as it was exactly when that is nothing. -/
theorem failed_visit {context : NodeContext} {state after : Progress} {failure : Failure}
    (failed : context.visit.run state = .error failure after) :
    context.outcome.result = .error failure ∧
      after = { state with
        counts.skippedReferences := state.counts.skippedReferences + context.leftOut } ∧
      (after = state ↔ context.leftOut = 0) := by
  rw [visit_run] at failed
  unfold Progress.after at failed
  cases result : context.outcome.result with
  | ok contribution =>
      rw [result] at failed
      cases failed
  | error reason =>
      rw [result] at failed
      have counted : state.remark context.outcome.remarks = { state with
          counts.skippedReferences := state.counts.skippedReferences + context.leftOut } := by
        unfold Progress.remark
        rw [NodeContext.outcome_counts_of_error result]
        rfl
      obtain ⟨rfl, rfl⟩ := EStateM.Result.error.inj failed
      refine ⟨rfl, counted, ?_⟩
      rw [counted]
      constructor
      · intro same
        have count := congrArg (·.counts.skippedReferences) same
        simp only at count
        omega
      · intro none
        rw [none, Nat.add_zero]

/-- A class with a superclass that was not resolved and an end behind that of the text, one with
such a superclass and an interface without a name, and in it a field without a name. -/
def droppedTypes : SourceUnit where
  fileId := ⟨1⟩
  source := "class A class B int"
  nodes := #[
    { start := 0, stop := 99,
      kind := .namedType {
        name := "A", binding := some ⟨"A", []⟩, superclass := some ⟨"Missing", none⟩ } },
    { start := 8, stop := 19,
      kind := .namedType {
        name := "B", binding := some ⟨"B", []⟩, superclass := some ⟨"Missing", none⟩
        interfaces := [⟨"I", some ⟨"", []⟩⟩] } },
    { parent := some 1, start := 16, stop := 19,
      kind := .field { name := "", fieldType := ⟨"int", some ⟨"int", []⟩⟩ } }]

/-- The field of `droppedTypes` fails and leaves no trace. -/
theorem failed_field_leaves_no_trace :
    ∃ failure after,
      (droppedTypes.context {} 2 droppedTypes.nodes[2]).visit.run {} = .error failure after ∧
        after = {} := by
  have failed : (droppedTypes.context {} 2 droppedTypes.nodes[2]).visit.run {} =
      .error ⟨.node 2, .identity, "empty field name"⟩ {} := rfl
  exact ⟨_, _, failed, (failed_visit failed).2.2.mpr rfl⟩

/-- Both classes of `droppedTypes` fail, one after the other, and each of them leaves its count
behind. -/
theorem failed_types_leave_counts :
    ∃ first second failure failure',
      (droppedTypes.context {} 0 droppedTypes.nodes[0]).visit.run {} = .error failure first ∧
      first.counts.skippedReferences = 1 ∧
      (droppedTypes.context {} 1 droppedTypes.nodes[1]).visit.run
        (Progress.next {} (droppedTypes.context {} 0 droppedTypes.nodes[0])) =
          .error failure' second ∧
      second.counts.skippedReferences = 2 ∧
      (droppedTypes.build {}).records = {} ∧
      (droppedTypes.build {}).counts = { skippedReferences := 2 } :=
  ⟨_, _, _, _, rfl, rfl, rfl, rfl, by decide, by decide⟩

end CodeIndex

import CodeIndex.Proofs.Accounting
import CodeIndex.Proofs.Identified

/-!
# Calls and the methods they call

A call names its method by the binding of the method's type and by the signature. Read from the
declaration, that binding has the key of the declaration, with one exception: the key of a
method whose innermost scope is a lambda begins with the offset of the lambda, and a binding
knows of no lambda. Bodies of anonymous classes are no scopes, so this is how methods of
anonymous classes inside lambdas are declared.

* `bindingKey_of_methodIdentity` compares the two keys.
* `call_meets_declaration_iff`: a call and the declaration it names agree exactly outside of
  lambdas, and then so do the usage row and the entity, of any two units.
* `call_misses_method_in_lambda`: inside a lambda they do not.
-/

namespace CodeIndex

/-- What a call names a method by, when the type around the method has this binding. -/
def MethodDecl.bindingIn (declaringType : TypeBinding) (decl : MethodDecl) : MethodBinding where
  declaringType := declaringType
  name := decl.name
  returnType := (decl.returnType.getD .void).name
  parameterTypes := decl.parameters.map (·.name)

/-! ## Two ways to one key -/

theorem bindingKey_eq_ok_iff {target : MethodBinding} {key : Key} :
    target.key = .ok key ↔
      ∃ owner, Key.ofType target.declaringType.qualifiedName
          target.declaringType.typeParameters = .ok owner ∧
        Key.ofMethod owner target.returnType target.name target.parameterTypes none = .ok key :=
  bind_eq_ok_iff

section Methods

variable {unit : SourceUnit} {id outer : NodeId} {node outerNode : SyntaxNode}
  {decl : MethodDecl} {declaringType : TypeBinding} {identity : NodeIdentity}

/-- A method that has an identity has a key by its binding. It is the same key, or the identity
has the offset of a lambda in front. -/
theorem bindingKey_of_methodIdentity (present : unit.node? id = some node)
    (kind : node.kind = .method decl) (enclosing : unit.enclosingType? id = some outer)
    (outerPresent : unit.node? outer = some outerNode)
    (bound : outerNode.kind.typeBinding = some declaringType)
    (identified : unit.methodIdentity id = .ok identity) :
    ∃ key, (decl.bindingIn declaringType).key = .ok key ∧
      ((∀ offset, ¬ unit.InLambda id offset) → identity.key = key) ∧
      ∀ offset, unit.InLambda id offset →
        identity.key = ⟨toString offset ++ " " ++ key.canonical⟩ := by
  obtain ⟨found, signature, owner, foundPresent, signed, enclosed, formed⟩ :=
    SourceUnit.methodIdentity_key identified
  obtain rfl : found = node := Option.some.inj (foundPresent.symm.trans present)
  obtain rfl : signature = ⟨decl.name, decl.returnType.getD .void, decl.parameters⟩ := by
    rw [kind] at signed
    exact (Option.some.inj signed).symm
  have ownerKey : Key.ofType declaringType.qualifiedName declaringType.typeParameters =
      .ok owner.key := by
    obtain ⟨other, around, ownerIdentified⟩ :=
      SourceUnit.enclosingTypeIdentity_eq_ok_iff.mp enclosed
    obtain rfl : other = outer := Option.some.inj (around.symm.trans enclosing)
    exact SourceUnit.typeIdentity_of_bound outerPresent bound ownerIdentified
  have noLambda : found.kind.scopeKind ≠ some .lambda := by
    rw [kind]
    simp [NodeKind.scopeKind]
  cases offset : unit.lambdaOffset? id with
  | none =>
      rw [offset] at formed
      refine ⟨identity.key, bindingKey_eq_ok_iff.mpr ⟨owner.key, ownerKey, formed⟩,
        fun _ => rfl, ?_⟩
      intro start inside
      rw [(SourceUnit.lambdaOffset?_eq_some_iff present noLambda).mpr inside] at offset
      cases offset
  | some start =>
      have inside := (SourceUnit.lambdaOffset?_eq_some_iff present noLambda).mp offset
      rw [offset] at formed
      obtain ⟨key, outside, prefixed⟩ := Key.ofMethod_lambda.mp formed
      refine ⟨key, bindingKey_eq_ok_iff.mpr ⟨owner.key, ownerKey, outside⟩,
        fun never => absurd inside (never start), ?_⟩
      intro other insideOther
      have same : start = other := Option.some.inj (offset.symm.trans
        ((SourceUnit.lambdaOffset?_eq_some_iff present noLambda).mpr insideOther))
      rw [prefixed, same]

end Methods

/-- A usage row carries the hash of the key by which its call names the method. -/
theorem usage_entityHash {caller : SourceUnit} {config : Config} {callId : NodeId}
    {callNode : SyntaxNode} {call : Invocation} {target : MethodBinding} {key : Key}
    (kind : callNode.kind = .invocation call) (resolved : call.target = some target)
    (keyed : target.key = .ok key) :
    ∀ astNode ∈ (caller.share config callId callNode).records.astNodes,
      astNode.astKind = .usage ∧ astNode.entityHash = key.hash := by
  intro astNode member
  have isCall : (caller.context config callId callNode).node.kind = .invocation call := kind
  cases wanted : config.emitUsages with
  | false =>
      rw [SourceUnit.share, NodeContext.outcome_invocation_unwanted isCall wanted] at member
      simp [Outcome.share, Contribution.records] at member
  | true =>
      rcases (NodeContext.outcome_invocation_resolved isCall wanted resolved).2 with
        ⟨found, used, foundKey, result, _, hash, usage⟩ | ⟨failure, failed, _⟩
      · rw [SourceUnit.share, Outcome.share_of_ok result] at member
        obtain rfl : astNode = used := List.mem_singleton.mp member
        obtain rfl : found = key := Except.ok.inj (foundKey.symm.trans keyed)
        exact ⟨usage, hash⟩
      · rw [SourceUnit.share, Outcome.share_of_error failed] at member
        simp at member

/-- A declared method has an entity with the hash of its identity. -/
theorem declared_method_hash {unit : SourceUnit} {config : Config} {id : NodeId}
    {node : SyntaxNode} {decl : MethodDecl} {identity : NodeIdentity} {rows : Declaration}
    (present : unit.node? id = some node) (kind : node.kind = .method decl)
    (identified : unit.methodIdentity id = .ok identity)
    (declared : (id, rows) ∈ unit.declared config) : rows.entity.hash = identity.key.hash := by
  have found : unit.identity? id node.kind = some (.ok identity) := by
    rw [kind, ← identified]
    rfl
  obtain ⟨_, same, hash⟩ := SourceUnit.identity_of_mem_declared present found declared
  obtain rfl := Except.ok.inj same
  exact hash

/-- A method that has an identity and stands in a type with a binding has a key by its binding.
It has the canonical string of the identity exactly when the innermost scope around the method
is no lambda; then, in whichever units the method is declared and called, the usage row of the
call and the entity of the method carry one hash. -/
theorem call_meets_declaration_iff {unit : SourceUnit} {id outer : NodeId}
    {node outerNode : SyntaxNode} {decl : MethodDecl} {declaringType : TypeBinding}
    {identity : NodeIdentity} (present : unit.node? id = some node)
    (kind : node.kind = .method decl) (enclosing : unit.enclosingType? id = some outer)
    (outerPresent : unit.node? outer = some outerNode)
    (bound : outerNode.kind.typeBinding = some declaringType)
    (identified : unit.methodIdentity id = .ok identity) :
    ∃ key, (decl.bindingIn declaringType).key = .ok key ∧
      (key.canonical = identity.key.canonical ↔ ∀ offset, ¬ unit.InLambda id offset) ∧
      ((∀ offset, ¬ unit.InLambda id offset) →
        ∀ (config callerConfig : Config) (rows : Declaration) (caller : SourceUnit)
          (callId : NodeId) (callNode : SyntaxNode) (call : Invocation),
          (id, rows) ∈ unit.declared config →
          caller.node? callId = some callNode → callNode.kind = .invocation call →
          call.target = some (decl.bindingIn declaringType) →
          ∀ astNode ∈ (caller.share callerConfig callId callNode).records.astNodes,
            astNode.astKind = .usage ∧ astNode.entityHash = rows.entity.hash) := by
  obtain ⟨key, keyed, outside, inside⟩ :=
    bindingKey_of_methodIdentity present kind enclosing outerPresent bound identified
  refine ⟨key, keyed, ⟨?_, ?_⟩, ?_⟩
  · intro same offset inLambda
    -- the offset and the blank make the string of the identity the longer one
    rw [inside offset inLambda] at same
    have lengths := congrArg String.length same
    simp only [String.length_append] at lengths
    have blank : " ".length = 1 := rfl
    omega
  · intro never
    rw [outside never]
  · intro never config callerConfig rows caller callId callNode call declared _ isCall resolved
      astNode member
    rw [declared_method_hash present kind identified declared, outside never]
    exact usage_entityHash isCall resolved keyed astNode member

/-- A class with a method that calls itself. -/
def selfCall : SourceUnit where
  fileId := ⟨10⟩
  source := "class Base\n  void again()\n    again()"
  nodes := #[
    { start := 0, stop := 37,
      kind := .namedType { name := "Base", binding := some ⟨"p.Base", []⟩ } },
    { parent := some 0, start := 13, stop := 37,
      kind := .method { name := "again", returnType := some .void, hasBody := true } },
    { parent := some 1, start := 30, stop := 37,
      kind := .invocation
        { name := "again", target := some ⟨⟨"p.Base", []⟩, "again", "void", []⟩ } }]

theorem not_inLambda_selfCall : ∀ offset, ¬ selfCall.InLambda 1 offset := by
  rintro offset ⟨lambda, node, decl, found, kind, _⟩
  have inClass : (selfCall.ancestors 1).find? (fun entry => entry.2.kind.scopeKind.isSome) =
      some (0, selfCall.nodes[0]) := by decide
  rw [inClass] at found
  cases found
  cases kind

/-- The call in `selfCall` and the method around it carry one hash. -/
theorem selfCall_meets_declaration :
    ∃ key, (MethodDecl.bindingIn ⟨"p.Base", []⟩
        { name := "again", returnType := some .void, hasBody := true }).key = .ok key ∧
      key.canonical = "p.Base void again []" ∧
      ∀ rows, (1, rows) ∈ selfCall.declared {} →
        ∀ astNode ∈ (selfCall.share {} 2 selfCall.nodes[2]).records.astNodes,
          astNode.astKind = .usage ∧ astNode.entityHash = rows.entity.hash := by
  have present : selfCall.node? 1 = some selfCall.nodes[1] := rfl
  have outerPresent : selfCall.node? 0 = some selfCall.nodes[0] := rfl
  have identified : selfCall.methodIdentity 1 =
      .ok ⟨⟨"p.Base void again []"⟩, "p.Base.again", false⟩ := rfl
  obtain ⟨key, keyed, same, meets⟩ :=
    call_meets_declaration_iff present rfl (by decide) outerPresent rfl identified
  refine ⟨key, keyed, same.mpr not_inLambda_selfCall, ?_⟩
  intro rows declared
  exact meets not_inLambda_selfCall {} {} rows selfCall 2 selfCall.nodes[2]
    { name := "again", target := some ⟨⟨"p.Base", []⟩, "again", "void", []⟩ } declared rfl rfl rfl

/-- A lambda that gives out an anonymous class, with a call of a method of that class in the
method itself. -/
def lambdaTask : SourceUnit where
  fileId := ⟨5⟩
  source := "class Runner\n  void run()\n    go(() -> new Task\n      void exec() exec())"
  nodes := #[
    { start := 0, stop := 69,
      kind := .namedType { name := "Runner", binding := some ⟨"jobs.Runner", []⟩ } },
    { parent := some 0, start := 15, stop := 69,
      kind := .method { name := "run", returnType := some .void, hasBody := true } },
    { parent := some 1, start := 33, stop := 68, kind := .lambda {} },
    { parent := some 2, start := 39, stop := 68,
      kind := .anonymousClass ⟨some ⟨"jobs.Runner$1", []⟩⟩ },
    { parent := some 3, start := 54, stop := 68,
      kind := .method { name := "exec", returnType := some .void, hasBody := true } },
    { parent := some 4, start := 66, stop := 68,
      kind := .invocation
        { name := "exec", target := some ⟨⟨"jobs.Runner$1", []⟩, "exec", "void", []⟩ } }]

/-- In `lambdaTask` the call and the method it calls have different keys, though the method has
an identity and its class a binding. -/
theorem call_misses_method_in_lambda :
    ∃ identity key, lambdaTask.methodIdentity 4 = .ok identity ∧
      lambdaTask.enclosingType? 4 = some 3 ∧
      (lambdaTask.node? 3).bind (·.kind.typeBinding) = some ⟨"jobs.Runner$1", []⟩ ∧
      (MethodDecl.bindingIn ⟨"jobs.Runner$1", []⟩
        { name := "exec", returnType := some .void, hasBody := true }).key = .ok key ∧
      key.canonical ≠ identity.key.canonical :=
  ⟨⟨⟨"33 jobs.Runner$1 void exec []"⟩, "jobs.Runner$1.exec", false⟩,
    ⟨"jobs.Runner$1 void exec []"⟩, rfl, rfl, rfl, rfl, by decide⟩

end CodeIndex

import CodeIndex.Proofs.Key

/-!
# What identities are made of

For each kind of declaration, what there is when it has an identity: the identity of what it
stands in, and the key that is formed from it.

* `typeIdentity_of_bound`: a type with a binding is keyed by its binding, and any other one by the
  name that is made up for it (`typeIdentity_eq_of_unbound`).
* `methodIdentity_key`: the key of a method is that of its type with the signature behind it,
  with the offset of the lambda in front if the innermost scope is one
  (`lambdaOffset?_eq_some_iff`).
* `fieldIdentity_key` and `variableIdentity_key`: the key that the name and its type stand
  behind; `enumConstantIdentity_key`: the name that the constant stands behind.
-/

namespace CodeIndex

namespace SourceUnit

variable {unit : SourceUnit} {id : NodeId} {identity : NodeIdentity}

/-! ## Scopes -/

/-- The innermost scope around the node is that of the lambda with the given start. -/
def InLambda (unit : SourceUnit) (id : NodeId) (offset : Nat) : Prop :=
  ∃ lambda node decl,
    (unit.ancestors id).find? (fun entry => entry.2.kind.scopeKind.isSome) =
      some (lambda, node) ∧ node.kind = .lambda decl ∧ node.start = offset

/-- What is no lambda has the offset of the lambda that is the innermost scope around it. -/
theorem lambdaOffset?_eq_some_iff {node : SyntaxNode} {offset : Nat}
    (present : unit.node? id = some node) (outside : node.kind.scopeKind ≠ some .lambda) :
    unit.lambdaOffset? id = some offset ↔ unit.InLambda id offset := by
  unfold lambdaOffset? declaringScope? InLambda
  simp only [present, outside, if_false]
  rw [nearest?_eq_find?_ancestors]
  cases (unit.ancestors id).find? (fun entry => entry.2.kind.scopeKind.isSome) with
  | none => simp
  | some entry =>
      obtain ⟨scope, opener⟩ := entry
      cases kind : opener.kind <;> simp [openedScope?, NodeKind.scopeKind, kind]

/-! ## Types -/

theorem typeNode_eq_ok_iff {node : SyntaxNode} :
    unit.typeNode id = .ok node ↔ unit.node? id = some node ∧ node.kind.isTypeLike = true := by
  unfold typeNode
  cases unit.node? id with
  | none => simp
  | some found =>
      cases typeLike : found.kind.isTypeLike with
      | true =>
          simp only [typeLike, if_true, Except.ok.injEq, Option.some.injEq]
          constructor
          · rintro rfl
            exact ⟨rfl, typeLike⟩
          · exact fun same => same.1
      | false =>
          simp only [typeLike, Bool.false_eq_true, if_false, reduceCtorEq, Option.some.injEq,
            false_iff, not_and]
          rintro rfl
          simp [typeLike]

theorem isTypeLike_of_typeBinding {kind : NodeKind} {binding : TypeBinding}
    (bound : kind.typeBinding = some binding) : kind.isTypeLike = true := by
  cases kind <;> simp_all [NodeKind.typeBinding, NodeKind.isTypeLike]

/-- A type with a binding is named and keyed by its binding, whatever else stands in its unit. -/
theorem typeIdentity_eq_of_bound {node : SyntaxNode} {binding : TypeBinding}
    (present : unit.node? id = some node) (bound : node.kind.typeBinding = some binding) :
    unit.typeIdentity id = (fun key => ⟨key, binding.qualifiedName, false⟩) <$>
      Key.ofType binding.qualifiedName binding.typeParameters := by
  have found := typeNode_eq_ok_iff.mpr ⟨present, isTypeLike_of_typeBinding bound⟩
  unfold typeIdentity
  simp only [found, bound, bind, Except.bind]
  cases Key.ofType binding.qualifiedName binding.typeParameters <;> rfl

/-- A type without a binding is keyed by the name that is made up for it and its type parameters. -/
theorem typeIdentity_eq_of_unbound {node : SyntaxNode} (present : unit.node? id = some node)
    (typeLike : node.kind.isTypeLike = true) (unbound : node.kind.typeBinding = none) :
    unit.typeIdentity id = do
      let name ← unit.placeholderName id
      let key ← Key.ofType name node.kind.typeParameters
      return ⟨key, name, true⟩ := by
  unfold typeIdentity
  rw [typeNode_eq_ok_iff.mpr ⟨present, typeLike⟩]
  simp only [bind, Except.bind, unbound]

/-- A type with a binding is keyed by its binding. -/
theorem typeIdentity_of_bound {node : SyntaxNode} {binding : TypeBinding}
    (present : unit.node? id = some node) (bound : node.kind.typeBinding = some binding)
    (identified : unit.typeIdentity id = .ok identity) :
    Key.ofType binding.qualifiedName binding.typeParameters = .ok identity.key := by
  rw [typeIdentity_eq_of_bound present bound] at identified
  obtain ⟨key, formed, rfl⟩ := map_eq_ok_iff.mp identified
  exact formed

theorem enclosingTypeIdentity_eq_ok_iff :
    unit.enclosingTypeIdentity id = .ok identity ↔
      ∃ outer, unit.enclosingType? id = some outer ∧ unit.typeIdentity outer = .ok identity := by
  unfold enclosingTypeIdentity
  cases unit.enclosingType? id with
  | none => simp
  | some outer => simp

/-! ## Methods, fields and variables -/

/-- A method or lambda with an identity has a signature and stands in a type with an identity. -/
theorem methodIdentity_key (identified : unit.methodIdentity id = .ok identity) :
    ∃ node signature owner, unit.node? id = some node ∧ node.kind.signature? = some signature ∧
      unit.enclosingTypeIdentity id = .ok owner ∧
      Key.ofMethod owner.key signature.returnType.name signature.name
        (signature.parameters.map (·.name)) (unit.lambdaOffset? id) = .ok identity.key := by
  unfold methodIdentity at identified
  cases present : unit.node? id with
  | none => simp [present] at identified
  | some node =>
      simp only [present] at identified
      obtain ⟨owner, enclosed, identified⟩ := bind_eq_ok_iff.mp identified
      cases signed : node.kind.signature? with
      | none => simp [signed] at identified
      | some signature =>
          simp only [signed] at identified
          obtain ⟨key, formed, made⟩ := bind_eq_ok_iff.mp identified
          obtain rfl := Except.ok.inj made
          exact ⟨node, signature, owner, rfl, signed, enclosed, formed⟩

/-- A field with an identity stands in a type with an identity. -/
theorem fieldIdentity_key {name : String} {fieldType : TypeRef}
    (identified : unit.fieldIdentity id name fieldType = .ok identity) :
    ∃ owner, unit.enclosingTypeIdentity id = .ok owner ∧
      Key.ofField owner.key fieldType.name name = .ok identity.key := by
  unfold fieldIdentity at identified
  obtain ⟨owner, enclosed, identified⟩ := bind_eq_ok_iff.mp identified
  obtain ⟨key, formed, made⟩ := bind_eq_ok_iff.mp identified
  obtain rfl := Except.ok.inj made
  exact ⟨owner, enclosed, formed⟩

/-- An enum constant with an identity stands in a type with an identity. -/
theorem enumConstantIdentity_key {name : String}
    (identified : unit.enumConstantIdentity id name = .ok identity) :
    ∃ owner, unit.enclosingTypeIdentity id = .ok owner ∧
      Key.ofEnumConstant owner.qualifiedName name = .ok identity.key := by
  unfold enumConstantIdentity at identified
  obtain ⟨owner, enclosed, identified⟩ := bind_eq_ok_iff.mp identified
  obtain ⟨key, formed, made⟩ := bind_eq_ok_iff.mp identified
  obtain rfl := Except.ok.inj made
  exact ⟨owner, enclosed, formed⟩

/-- A variable with an identity stands in a method, or else in a type, with an identity. -/
theorem variableIdentity_key {name : String} {variableType : TypeRef}
    (identified : unit.variableIdentity id name variableType = .ok identity) :
    ∃ enclosing, unit.enclosingMethodKey id = .ok enclosing ∧
      Key.ofVariable enclosing variableType.name name = .ok identity.key := by
  unfold variableIdentity at identified
  obtain ⟨enclosing, enclosed, identified⟩ := bind_eq_ok_iff.mp identified
  obtain ⟨key, formed, made⟩ := bind_eq_ok_iff.mp identified
  obtain rfl := Except.ok.inj made
  exact ⟨enclosing, enclosed, formed⟩

end SourceUnit

end CodeIndex

import CodeIndex.Command.Key
import CodeIndex.Proofs.Embedding
import CodeIndex.Proofs.Identified

/-!
# Keys by hand and keys of nodes

Whoever asks for a key by hand gives the name and the type parameters of a type, and the words of
a declaration in it. The key of the type is then formed from these anew, where an extraction takes
it from the node of the type. Both ways lead to the same key, or to the same error.

* `NodeKind.keyParameters` are the type parameters that belong to the name of a type.
* `typeIdentity_key`: the name of a type and these parameters give back its key.
* `asked_by_hand`: the requests about a type, and about what stands in it or in a method of it.
-/

namespace CodeIndex

/-! ## Words of a request -/

/-- The type parameters that the key of a type is made with: those of its binding, or those that
it is declared with if it has none. An anonymous class declares none. -/
def NodeKind.keyParameters (kind : NodeKind) : List String :=
  match kind.typeBinding with
  | some binding => binding.typeParameters
  | none => kind.typeParameters

/-- The word for what a method returns. -/
def returnWord (returnType : Option TypeRef) : String :=
  match returnType with
  | some reference => reference.name
  | none => "void"

theorem name_getD_void (returnType : Option TypeRef) :
    (returnType.getD .void).name = returnWord returnType := by
  cases returnType <;> rfl

/-- The key command gives the keys that an extraction gives, for a type and what stands in it.

* `type`: from its name and its type parameters comes its key.
* `method`, `lambda`, `field`, `enumConstant`: where the type is the nearest around a node, the
  request about the node gives its key, or the error that it fails with.
* `localVariable`: so does the request about a variable, from the canonical string of what the
  variable stands in. -/
structure AskedByHand (unit : SourceUnit) (outer : NodeId) (name : String)
    (parameters : List String) (key : Key) : Prop where
  type : (KeyRequest.type name parameters).compute = .ok key
  method : ∀ id node decl, unit.node? id = some node → node.kind = .method decl →
    unit.enclosingType? id = some outer →
    (KeyRequest.method name (returnWord decl.returnType) decl.name
        (decl.parameters.map (·.name)) parameters (unit.lambdaOffset? id)).compute =
      (·.key) <$> unit.methodIdentity id
  lambda : ∀ id node decl, unit.node? id = some node → node.kind = .lambda decl →
    unit.enclosingType? id = some outer →
    (KeyRequest.method name (returnWord decl.returnType) (decl.name.getD "lambda")
        (decl.parameters.map (·.name)) parameters (unit.lambdaOffset? id)).compute =
      (·.key) <$> unit.methodIdentity id
  field : ∀ id fieldName (fieldType : TypeRef), unit.enclosingType? id = some outer →
    (KeyRequest.field name fieldType.name fieldName parameters).compute =
      (·.key) <$> unit.fieldIdentity id fieldName fieldType
  enumConstant : ∀ id constantName, unit.enclosingType? id = some outer →
    (KeyRequest.enumConstant name constantName).compute =
      (·.key) <$> unit.enumConstantIdentity id constantName
  localVariable : ∀ id variableName (variableType : TypeRef) enclosing,
    unit.enclosingMethodKey id = .ok enclosing →
    (KeyRequest.localVariable enclosing.canonical variableType.name variableName).compute =
      (·.key) <$> unit.variableIdentity id variableName variableType

/-! ## Keys from names -/

namespace SourceUnit

variable {unit : SourceUnit} {id outer : NodeId} {node : SyntaxNode} {identity : NodeIdentity}

/-- The key of a type is the key of its name with its type parameters, whether the name is that of
a binding or was made up. -/
theorem typeIdentity_key (present : unit.node? outer = some node)
    (identified : unit.typeIdentity outer = .ok identity) :
    Key.ofType identity.qualifiedName node.kind.keyParameters = .ok identity.key := by
  unfold NodeKind.keyParameters
  cases bound : node.kind.typeBinding with
  | some binding =>
      rw [typeIdentity_eq_of_bound present bound] at identified
      obtain ⟨key, formed, rfl⟩ := map_eq_ok_iff.mp identified
      exact formed
  | none =>
      -- the name was made up, but the key is made from it as from that of a binding
      unfold typeIdentity at identified
      obtain ⟨found, isType, identified⟩ := bind_eq_ok_iff.mp identified
      obtain rfl : found = node :=
        Option.some.inj ((typeNode_eq_ok_iff.mp isType).1.symm.trans present)
      simp only [bound] at identified
      obtain ⟨name, named, identified⟩ := bind_eq_ok_iff.mp identified
      obtain ⟨key, formed, made⟩ := bind_eq_ok_iff.mp identified
      obtain rfl := Except.ok.inj made
      exact formed

theorem enclosingTypeIdentity_of_enclosingType? (enclosed : unit.enclosingType? id = some outer) :
    unit.enclosingTypeIdentity id = unit.typeIdentity outer := by
  unfold enclosingTypeIdentity
  rw [enclosed]

/-- An identity that is made from a key has that key. -/
theorem map_key_bind (formed : Except IdentityError Key) (name : String) (isPlaceholder : Bool) :
    (·.key) <$> (formed >>= fun key => return (⟨key, name, isPlaceholder⟩ : NodeIdentity)) =
      formed := by
  cases formed <;> rfl

/-- The key of a method or lambda is made from its signature and the key of the type around it. -/
theorem methodIdentity_eq {signature : Signature} (present : unit.node? id = some node)
    (signed : node.kind.signature? = some signature)
    (enclosed : unit.enclosingType? id = some outer)
    (identified : unit.typeIdentity outer = .ok identity) :
    (·.key) <$> unit.methodIdentity id =
      Key.ofMethod identity.key signature.returnType.name signature.name
        (signature.parameters.map (·.name)) (unit.lambdaOffset? id) := by
  unfold methodIdentity
  simp only [present, enclosingTypeIdentity_of_enclosingType? enclosed, identified, signed]
  exact map_key_bind ..

theorem fieldIdentity_eq (enclosed : unit.enclosingType? id = some outer)
    (identified : unit.typeIdentity outer = .ok identity) (name : String) (fieldType : TypeRef) :
    (·.key) <$> unit.fieldIdentity id name fieldType =
      Key.ofField identity.key fieldType.name name := by
  unfold fieldIdentity
  rw [enclosingTypeIdentity_of_enclosingType? enclosed, identified]
  exact map_key_bind ..

theorem enumConstantIdentity_eq (enclosed : unit.enclosingType? id = some outer)
    (identified : unit.typeIdentity outer = .ok identity) (name : String) :
    (·.key) <$> unit.enumConstantIdentity id name =
      Key.ofEnumConstant identity.qualifiedName name := by
  unfold enumConstantIdentity
  rw [enclosingTypeIdentity_of_enclosingType? enclosed, identified]
  exact map_key_bind ..

theorem variableIdentity_eq {enclosing : Key}
    (enclosed : unit.enclosingMethodKey id = .ok enclosing) (name : String) (variableType : TypeRef) :
    (·.key) <$> unit.variableIdentity id name variableType =
      Key.ofVariable enclosing variableType.name name := by
  unfold variableIdentity
  rw [enclosed]
  exact map_key_bind ..

end SourceUnit

/-! ## Both ways to a key -/

/-- The request about a method or lambda makes the key of the type around it anew, and with it the
key of the node. -/
theorem compute_method {unit : SourceUnit} {id outer : NodeId} {node : SyntaxNode}
    {identity : NodeIdentity} {parameters : List String} {signature : Signature}
    (owner : Key.ofType identity.qualifiedName parameters = .ok identity.key)
    (identified : unit.typeIdentity outer = .ok identity) (present : unit.node? id = some node)
    (enclosed : unit.enclosingType? id = some outer)
    (signed : node.kind.signature? = some signature) :
    (KeyRequest.method identity.qualifiedName signature.returnType.name signature.name
        (signature.parameters.map (·.name)) parameters (unit.lambdaOffset? id)).compute =
      (·.key) <$> unit.methodIdentity id := by
  rw [SourceUnit.methodIdentity_eq present signed enclosed identified, KeyRequest.compute, owner]
  rfl

/-- A type with an identity can be asked for by hand, and so can what stands in it: its name and
its type parameters lead to the keys that an extraction has, and to its errors. -/
theorem asked_by_hand {unit : SourceUnit} {outer : NodeId} {node : SyntaxNode}
    {identity : NodeIdentity} (present : unit.node? outer = some node)
    (identified : unit.typeIdentity outer = .ok identity) :
    AskedByHand unit outer identity.qualifiedName node.kind.keyParameters identity.key := by
  have owner := SourceUnit.typeIdentity_key present identified
  exact {
    type := owner
    method := by
      intro id method decl stands kind enclosed
      have signed : method.kind.signature? =
          some ⟨decl.name, decl.returnType.getD .void, decl.parameters⟩ := by rw [kind]; rfl
      have asked := compute_method owner identified stands enclosed signed
      simpa only [name_getD_void] using asked
    lambda := by
      intro id lambda decl stands kind enclosed
      have signed : lambda.kind.signature? =
          some ⟨decl.name.getD "lambda", decl.returnType.getD .void, decl.parameters⟩ := by
        rw [kind]; rfl
      have asked := compute_method owner identified stands enclosed signed
      simpa only [name_getD_void] using asked
    field := by
      intro id name fieldType enclosed
      rw [SourceUnit.fieldIdentity_eq enclosed identified, KeyRequest.compute, owner]
      rfl
    enumConstant := by
      intro id name enclosed
      rw [SourceUnit.enumConstantIdentity_eq enclosed identified]
      rfl
    localVariable := by
      intro id name variableType enclosing enclosed
      rw [SourceUnit.variableIdentity_eq enclosed]
      rfl }

/-- A generic class without a binding, and in a method of it a generic local class with a lambda, a
variable in that, and a field without a name. -/
def localCell : SourceUnit where
  fileId := ⟨1⟩
  package := some "p"
  source := "class Box<T> { void run() { class Cell<U> { u -> { int i; } } } }"
  nodes := #[
    { start := 0, stop := 65, kind := .namedType { name := "Box", typeParameters := ["T"] } },
    { parent := some 0, start := 15, stop := 63,
      kind := .method { name := "run", hasBody := true } },
    { parent := some 1, start := 28, stop := 61,
      kind := .namedType { name := "Cell", typeParameters := ["U"] } },
    { parent := some 2, start := 44, stop := 59, kind := .lambda { parameters := [⟨"U", none⟩] } },
    { parent := some 3, start := 51, stop := 57,
      kind := .localVariable { name := "i", variableType := ⟨"int", some ⟨"int", []⟩⟩ } },
    { parent := some 2, start := 58, stop := 58,
      kind := .field { name := "", fieldType := ⟨"int", some ⟨"int", []⟩⟩ } }]

/-- The name that is made up for the local class leads to its key, to those of the lambda and of the
variable, and to the error of the field. -/
theorem localCell_asked_by_hand :
    localCell.typeIdentity 2 = .ok ⟨⟨"p.Box$28Cell<U>"⟩, "p.Box$28Cell", true⟩ ∧
      (KeyRequest.type "p.Box$28Cell" ["U"]).compute = .ok ⟨"p.Box$28Cell<U>"⟩ ∧
      (KeyRequest.method "p.Box$28Cell" "void" "lambda" ["U"] ["U"] (some 44)).compute =
        (·.key) <$> localCell.methodIdentity 3 ∧
      (KeyRequest.field "p.Box$28Cell" "int" "" ["U"]).compute =
        (·.key) <$> localCell.fieldIdentity 5 "" ⟨"int", some ⟨"int", []⟩⟩ ∧
      (KeyRequest.localVariable "44 p.Box$28Cell<U> void lambda [U]" "int" "i").compute =
        (·.key) <$> localCell.variableIdentity 4 "i" ⟨"int", some ⟨"int", []⟩⟩ := by
  have outward : localCell.placeholderName 2 = localCell.outwardName [2] 0 "$28Cell" :=
    (localCell.outwardName_eq [] 2 "").trans rfl
  have outermost : localCell.outwardName [2] 0 "$28Cell" = .ok "p.Box$28Cell" :=
    (localCell.outwardName_eq [2] 0 "$28Cell").trans rfl
  have identified : localCell.typeIdentity 2 =
      .ok ⟨⟨"p.Box$28Cell<U>"⟩, "p.Box$28Cell", true⟩ := by
    unfold SourceUnit.typeIdentity
    rw [outward, outermost]
    rfl
  have present : localCell.node? 2 = some localCell.nodes[2] := rfl
  have keys := asked_by_hand present identified
  have lambda := keys.lambda 3 localCell.nodes[3] _ rfl rfl (by decide)
  have enclosing : localCell.enclosingMethodKey 4 =
      .ok ⟨"44 p.Box$28Cell<U> void lambda [U]"⟩ := by
    have method : localCell.enclosingMethod? 4 = some 3 := by decide
    unfold SourceUnit.enclosingMethodKey
    rw [method]
    exact lambda.symm
  exact ⟨identified, keys.type, lambda,
    keys.field 5 "" ⟨"int", some ⟨"int", []⟩⟩ (by decide),
    keys.localVariable 4 "i" ⟨"int", some ⟨"int", []⟩⟩ _ enclosing⟩

end CodeIndex

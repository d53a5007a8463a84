import CodeIndex.Proofs.Embedding

/-!
# Identities that stay

A unit whose types all have bindings and that has no lambda can be edited without a change to any
identity in it, as long as its nodes stay what they are.

* `SourceUnit.shape` is what stays: which node stands in which, and what each node is.
* `SourceUnit.identities_eq_of_shape`: it settles every identity. Offsets, the package, the text
  and the file have no part in them.
-/

namespace CodeIndex

namespace SourceUnit

/-- The parents and kinds of the nodes: a unit without its file, its package, its text, and the
places and comments of its nodes. -/
def shape (unit : SourceUnit) : List (Option NodeId × NodeKind) :=
  unit.nodes.toList.map fun node => (node.parent, node.kind)

section Stability

variable {unit unit' : SourceUnit}

theorem node?_of_shape (same : unit'.shape = unit.shape) (id : NodeId) :
    (unit'.node? id).map (fun node => (node.parent, node.kind)) =
      (unit.node? id).map fun node => (node.parent, node.kind) := by
  have entry := congrArg (·[id]?) same
  simp only [shape, List.getElem?_map, Array.getElem?_toList] at entry
  exact entry

/-- Of a node of such a unit, no identity reads where it starts. -/
theorem not_readsStart (bound : ∀ node ∈ unit.nodes, node.kind.isTypeLike = true →
      node.kind.typeBinding.isSome = true)
    (noLambda : ∀ node ∈ unit.nodes, ∀ decl, node.kind ≠ .lambda decl) {node : SyntaxNode}
    (member : node ∈ unit.nodes) : node.kind.readsStart = false := by
  have resolved := bound node member
  have written := noLambda node member
  cases kind : node.kind with
  | namedType decl => simp_all [NodeKind.readsStart, NodeKind.isUnbound, NodeKind.scopeKind]
  | anonymousClass body => simp_all [NodeKind.readsStart, NodeKind.isUnbound, NodeKind.scopeKind]
  | lambda decl => exact absurd kind (written decl)
  | _ => rfl

/-- Units of one shape stand in each other, node by node, if no identity reads where a node
starts. -/
theorem embeds_of_shape (same : unit'.shape = unit.shape)
    (blind : ∀ node ∈ unit.nodes, node.kind.readsStart = false) :
    Embeds id (fun _ => True) unit unit' where
  injective := fun _ _ _ _ equal => equal
  absent := by
    intro place _ missing
    have entry := node?_of_shape same place
    rw [missing] at entry
    exact Option.map_eq_none_iff.mp entry
  present := by
    intro place node _ present
    have entry := node?_of_shape same place
    rw [present] at entry
    obtain ⟨node', present', equal⟩ := Option.map_eq_some_iff.mp entry
    obtain ⟨parent, kind⟩ := Prod.mk.inj equal
    refine ⟨node', present', ⟨?_, kind, ?_⟩⟩
    · rw [parent, Option.map_id, id_eq]
    · intro reads
      rw [blind node (Array.mem_of_getElem? present)] at reads
      cases reads
  closed := fun _ _ _ _ _ _ => trivial
  package := by
    intro place node _ present unbound
    have reads := blind node (Array.mem_of_getElem? present)
    rw [NodeKind.readsStart, unbound] at reads
    cases reads

end Stability

/-- With every type bound and no lambda, the shape of a unit settles the identities of all its
nodes, whether they are there or fail. -/
theorem identities_eq_of_shape {unit unit' : SourceUnit} (same : unit'.shape = unit.shape)
    (bound : ∀ node ∈ unit.nodes, node.kind.isTypeLike = true →
      node.kind.typeBinding.isSome = true)
    (noLambda : ∀ node ∈ unit.nodes, ∀ decl, node.kind ≠ .lambda decl) (id : NodeId) :
    unit'.typeIdentity id = unit.typeIdentity id ∧
      unit'.methodIdentity id = unit.methodIdentity id ∧
      (∀ name fieldType,
        unit'.fieldIdentity id name fieldType = unit.fieldIdentity id name fieldType) ∧
      (∀ name variableType,
        unit'.variableIdentity id name variableType =
          unit.variableIdentity id name variableType) ∧
      ∀ name, unit'.enumConstantIdentity id name = unit.enumConstantIdentity id name := by
  have embeds := embeds_of_shape same fun _ => not_readsStart bound noLambda
  exact ⟨(embeds.typeIdentity trivial).eq_of_id, (embeds.methodIdentity trivial).eq_of_id,
    fun name fieldType => (embeds.fieldIdentity trivial name fieldType).eq_of_id,
    fun name variableType => (embeds.variableIdentity trivial name variableType).eq_of_id,
    fun name => (embeds.enumConstantIdentity trivial name).eq_of_id⟩

/-- A class whose method makes an anonymous class with a field, and beside it a method that stands
in itself. -/
def boundClass : SourceUnit where
  fileId := ⟨1⟩
  package := some "p"
  source := "class A void run() new B() int x"
  nodes := #[
    { start := 0, stop := 32,
      kind := .namedType { name := "A", binding := some ⟨"p.A", []⟩ } },
    { parent := some 0, start := 8, stop := 32,
      kind := .method { name := "run", returnType := some .void, hasBody := true } },
    { parent := some 1, start := 19, stop := 32,
      kind := .anonymousClass ⟨some ⟨"p.A$1", []⟩⟩ },
    { parent := some 2, start := 27, stop := 32,
      kind := .field { name := "x", fieldType := ⟨"int", some ⟨"int", []⟩⟩ } },
    { parent := some 4, start := 8, stop := 12, kind := .method { name := "lost" } }]

/-- The nodes of `boundClass` at other places of another file. -/
def movedClass : SourceUnit where
  fileId := ⟨2⟩
  label := "Moved"
  package := some "q"
  source := "// the class has moved\nclass A void run() new B() int x"
  problems := #[{ message := "unused", start := 0, stop := 22 }]
  nodes := #[
    { start := 23, stop := 55, isImplicit := true,
      kind := .namedType { name := "A", binding := some ⟨"p.A", []⟩ } },
    { parent := some 0, start := 31, stop := 55, docComment := some "Runs.",
      kind := .method { name := "run", returnType := some .void, hasBody := true } },
    { parent := some 1, start := 42, stop := 55,
      kind := .anonymousClass ⟨some ⟨"p.A$1", []⟩⟩ },
    { parent := some 2, start := 50, stop := 55,
      kind := .field { name := "x", fieldType := ⟨"int", some ⟨"int", []⟩⟩ } },
    { parent := some 4, start := 99, stop := 3, kind := .method { name := "lost" } }]

/-- The method, the class in it and the field keep their identities when `boundClass` moves, and
the method that stands in itself keeps its error. -/
theorem movedClass_identities :
    movedClass.shape = boundClass.shape ∧
      movedClass.methodIdentity 1 = .ok ⟨⟨"p.A void run []"⟩, "p.A.run", false⟩ ∧
      movedClass.typeIdentity 2 = .ok ⟨⟨"p.A$1"⟩, "p.A$1", false⟩ ∧
      movedClass.fieldIdentity 3 "x" ⟨"int", some ⟨"int", []⟩⟩ =
        .ok ⟨⟨"p.A$1 int x"⟩, "p.A$1.x", false⟩ ∧
      movedClass.methodIdentity 4 = .error (.empty .enclosingType) := by
  have same : movedClass.shape = boundClass.shape := by decide
  have bound : ∀ node ∈ boundClass.nodes, node.kind.isTypeLike = true →
      node.kind.typeBinding.isSome = true := by decide
  have scopes : ∀ node ∈ boundClass.nodes, node.kind.scopeKind ≠ some .lambda := by decide
  have noLambda : ∀ node ∈ boundClass.nodes, ∀ decl, node.kind ≠ .lambda decl :=
    fun node member decl kind => scopes node member (kind ▸ rfl)
  have stays := identities_eq_of_shape same bound noLambda
  exact ⟨same, (stays 1).2.1, (stays 2).1, (stays 3).2.2.1 "x" ⟨"int", some ⟨"int", []⟩⟩,
    (stays 4).2.1⟩

end SourceUnit

end CodeIndex

import CodeIndex.Proofs.Accounting
import CodeIndex.Proofs.Identified
import Mathlib.Data.List.Forall2

/-!
# Edges between types

The edges of a build are those that its declared types call for, and no others.

* `TypeDecl.resolvedSupertypes` are the types that a declaration specializes, as far as they were
  resolved; `IsEdge` says which edge each of them calls for.
* `bases_of_declaration?`: the bases of a declaration are those of its resolved references, in
  their order, however far the first pass had come when it found them.
* `build_edges`: the edges of a build, type by type and reference by reference. An edge ends at the
  hash that every declaration with the binding of its base has, in any unit.
-/

namespace CodeIndex

/-! ## What a declaration calls for -/

/-- The resolved references among some references. -/
def resolvedOf (references : List (TypeRef × RelationKind)) : List (TypeBinding × RelationKind) :=
  references.filterMap fun (reference, kind) => reference.binding.map (·, kind)

/-- The types that a declaration specializes, as far as they were resolved, with the kind of the
edge to each: the superclass first, then the interfaces in order. What an interface extends it
inherits from, and what any other type lists it implements. -/
def TypeDecl.resolvedSupertypes (decl : TypeDecl) : List (TypeBinding × RelationKind) :=
  (decl.superclass.bind (·.binding)).toList.map (·, .inheritance) ++
    (decl.interfaces.filterMap (·.binding)).map
      (·, if decl.typeKind = .interfaceType then .inheritance else .implements)

/-- The declaration of a named type. -/
def NodeKind.typeDecl? : NodeKind → Option TypeDecl
  | .namedType decl => some decl
  | _ => none

/-- The references to the types that a node specializes. Only named types have any. -/
def NodeKind.supertypes : NodeKind → List (TypeRef × RelationKind)
  | .namedType decl => decl.supertypes
  | _ => []

/-- The edge leads from a type to one that it specializes.

* `derived`, `kind`: it starts at that type and is of the kind that the reference calls for.
* `base`: it ends at the hash of the key that the binding of the base has.
* `identified`, `declared`: a type with that binding has an identity with that hash, and if it is
  declared its entity has that hash, whichever unit it stands in and however that is built. -/
structure IsEdge (derived : EntityHash) (supertype : TypeBinding × RelationKind)
    (edge : Relation) : Prop where
  derived : edge.derived = derived
  kind : edge.kind = supertype.2
  base : ∃ key, Key.ofType supertype.1.qualifiedName supertype.1.typeParameters = .ok key ∧
    edge.base = key.hash
  identified : ∀ (unit : SourceUnit) id node, unit.node? id = some node →
    node.kind.typeBinding = some supertype.1 →
    ∃ identity, unit.typeIdentity id = .ok identity ∧ identity.key.hash = edge.base
  declared : ∀ (unit : SourceUnit) config id node rows, unit.node? id = some node →
    node.kind.typeBinding = some supertype.1 → (id, rows) ∈ unit.declared config →
    rows.entity.hash = edge.base

theorem typeDecl?_eq_some_iff {kind : NodeKind} {decl : TypeDecl} :
    kind.typeDecl? = some decl ↔ kind = .namedType decl := by
  cases kind <;> simp [NodeKind.typeDecl?]

theorem resolvedOf_supertypes (decl : TypeDecl) :
    resolvedOf decl.supertypes = decl.resolvedSupertypes := by
  unfold resolvedOf TypeDecl.supertypes TypeDecl.resolvedSupertypes
  rw [List.filterMap_append, List.filterMap_map, List.filterMap_map, List.map_filterMap]
  congr 1
  cases decl.superclass with
  | none => rfl
  | some reference => cases binding : reference.binding <;> simp [binding]

/-- An edge to a superclass or an interface is of one of the two kinds for these. -/
theorem kind_ne_other_of_mem {decl : TypeDecl} {supertype : TypeBinding × RelationKind}
    (member : supertype ∈ decl.resolvedSupertypes) : supertype.2 ≠ .other := by
  unfold TypeDecl.resolvedSupertypes at member
  rcases List.mem_append.mp member with superclass | interface
  · obtain ⟨binding, _, rfl⟩ := List.mem_map.mp superclass
    exact fun same => by cases same
  · obtain ⟨binding, _, rfl⟩ := List.mem_map.mp interface
    by_cases extending : decl.typeKind = .interfaceType <;> simp [extending]

/-! ## Bases of a declaration -/

/-- The base that a resolved reference leads to. -/
def IsBase (supertype : TypeBinding × RelationKind) (base : Base) : Prop :=
  base.kind = supertype.2 ∧
    ∃ key, Key.ofType supertype.1.qualifiedName supertype.1.typeParameters = .ok key ∧
      base.hash = key.hash

/-- Where no resolved reference lacks a key, the bases are those of the resolved references. -/
theorem resolveBases_forall₂ {references : List (TypeRef × RelationKind)} {bases : List Base}
    (succeeds : (resolveBases references).2 = .ok bases) :
    List.Forall₂ IsBase (resolvedOf references) bases := by
  induction references generalizing bases with
  | nil =>
      obtain rfl := Except.ok.inj succeeds
      exact .nil
  | cons reference rest ih =>
      obtain ⟨⟨written, binding⟩, kind⟩ := reference
      unfold resolveBases at succeeds
      cases binding with
      | none => exact ih succeeds
      | some binding =>
          cases keyed : Key.ofType binding.qualifiedName binding.typeParameters with
          | error error => simp [TypeRef.isResolved, TypeRef.key, keyed] at succeeds
          | ok key =>
              simp only [TypeRef.isResolved, TypeRef.key, Option.isSome_some, if_true, keyed]
                at succeeds
              obtain ⟨others, found, rfl⟩ := map_eq_ok_iff.mp succeeds
              exact .cons ⟨rfl, key, keyed, rfl⟩ (ih found)

namespace NodeContext

variable {context : NodeContext} {rows : Declaration}

theorem declared_bases {earlier : List Remark} {identity : NodeIdentity} {shape : DeclarationShape}
    (given : (context.declared earlier identity shape).declaration? = some rows) :
    rows.bases = shape.bases := by
  simp only [declared, declare] at given
  cases placed : context.astNode identity.key.hash shape.symbolKind shape.astKind with
  | error failure =>
      rw [placed] at given
      cases given
  | ok astNode =>
      rw [placed] at given
      obtain rfl := Option.some.inj given
      rfl

theorem typedOutcome_bases {identity : Except IdentityError NodeIdentity} {declaredType : TypeRef}
    {isFinal isStatic : Bool} {shape : EntityDetail → DeclarationShape}
    (none : ∀ detail, (shape detail).bases = [])
    (given : (context.typedOutcome identity declaredType isFinal isStatic shape).declaration? =
      some rows) : rows.bases = [] := by
  unfold typedOutcome at given
  cases identity with
  | error error => cases given
  | ok identity =>
      cases typed : typedDetail context.id isFinal isStatic declaredType with
      | error failure =>
          rw [typed] at given
          cases given
      | ok detail =>
          rw [typed] at given
          exact (declared_bases given).trans (none detail)

theorem typeOutcome_bases {decl : TypeDecl}
    (given : (context.typeOutcome decl).declaration? = some rows) :
    (resolveBases decl.supertypes).2 = .ok rows.bases := by
  unfold typeOutcome at given
  cases identified : context.unit.typeIdentity context.id with
  | error error =>
      rw [identified] at given
      cases given
  | ok identity =>
      rw [identified] at given
      rcases resolved : resolveBases decl.supertypes with ⟨remarks, error | bases⟩
      · rw [resolved] at given
        cases given
      · rw [resolved] at given
        rw [declared_bases given]

theorem enumConstantOutcome_bases {decl : EnumConstantDecl}
    (given : (context.enumConstantOutcome decl).declaration? = some rows) : rows.bases = [] := by
  unfold enumConstantOutcome at given
  cases identified : context.unit.enumConstantIdentity context.id decl.name with
  | error error =>
      rw [identified] at given
      cases given
  | ok identity =>
      rw [identified] at given
      exact declared_bases given

/-- The bases of a declaration are those of the resolved references of its node. -/
theorem bases_of_declaration? (given : context.outcome.declaration? = some rows) :
    List.Forall₂ IsBase (resolvedOf context.node.kind.supertypes) rows.bases := by
  refine resolveBases_forall₂ ?_
  have declares := declares_of_declaration? given
  have nothing : resolveBases [] = ([], .ok []) := rfl
  unfold outcome at given
  cases kind : context.node.kind with
  | namedType decl =>
      rw [kind] at given
      exact typeOutcome_bases given
  | enumConstant decl =>
      rw [kind] at given
      rw [enumConstantOutcome_bases given]
      rfl
  | anonymousClass body => simp [kind, NodeKind.declares] at declares
  | invocation call => simp [kind, NodeKind.declares] at declares
  | other => simp [kind, NodeKind.declares] at declares
  | _ =>
      rw [kind] at given
      rw [typedOutcome_bases (fun _ => rfl) given]
      rfl

end NodeContext

/-! ## Edges of a build -/

namespace SourceUnit

section Edges

variable (config : Config) (unit : SourceUnit)

/-- The node is a named type with this declaration, and has this entity in the build. -/
structure DeclaresType (id : NodeId) (decl : TypeDecl) (entity : Entity) : Prop where
  kind : ∃ node, unit.node? id = some node ∧ node.kind = .namedType decl
  entity : ∃ rows, (id, rows) ∈ unit.declared config ∧ rows.entity = entity

/-- The named types of a unit that have an entity in the build, in the order of the nodes. -/
def declaredTypes : List (NodeId × TypeDecl × Entity) :=
  (unit.declared config).filterMap fun entry =>
    ((unit.node? entry.1).bind (·.kind.typeDecl?)).map (entry.1, ·, entry.2.entity)

theorem mem_declaredTypes {config : Config} {unit : SourceUnit} {id : NodeId} {decl : TypeDecl}
    {entity : Entity} :
    (id, decl, entity) ∈ unit.declaredTypes config ↔ unit.DeclaresType config id decl entity := by
  unfold declaredTypes
  rw [List.mem_filterMap]
  constructor
  · rintro ⟨⟨other, rows⟩, declared, given⟩
    obtain ⟨found, named, same⟩ := Option.map_eq_some_iff.mp given
    cases same
    obtain ⟨node, present, kind⟩ := Option.bind_eq_some_iff.mp named
    exact ⟨⟨node, present, typeDecl?_eq_some_iff.mp kind⟩, rows, declared, rfl⟩
  · rintro ⟨⟨node, present, kind⟩, rows, declared, rfl⟩
    exact ⟨(id, rows), declared, by simp [present, typeDecl?_eq_some_iff.mpr kind]⟩

theorem declaredTypes_pairwise :
    (unit.declaredTypes config).Pairwise fun first second => first.1 < second.1 := by
  unfold declaredTypes
  refine (unit.declared_pairwise config).filterMap _ ?_
  intro first second before found given found' given'
  obtain ⟨decl, _, rfl⟩ := Option.map_eq_some_iff.mp given
  obtain ⟨decl', _, rfl⟩ := Option.map_eq_some_iff.mp given'
  exact before

/-- The entities of the named types are entities of the build, in the same order. -/
theorem declaredTypes_sublist :
    ((unit.declaredTypes config).map (·.2.2)).Sublist (unit.build config).records.entities := by
  rw [unit.build_entities config, declaredTypes]
  induction unit.declared config with
  | nil => exact .slnil
  | cons entry rest ih =>
      rw [List.filterMap_cons, List.map_cons]
      cases named : (unit.node? entry.1).bind (·.kind.typeDecl?) with
      | none => exact ih.cons entry.2.entity
      | some decl => exact ih.cons_cons entry.2.entity

/-- The edges of a build, declaration by declaration. -/
theorem build_relations :
    (unit.build config).records.relations = (unit.declared config).flatMap fun entry =>
      entry.2.bases.map fun base => ⟨base.kind, entry.2.entity.hash, base.hash⟩ :=
  unit.view_eq_declared config (·.relations)
    (fun rows => rows.bases.map fun base => ⟨base.kind, rows.entity.hash, base.hash⟩) rfl
    (fun _ _ => rfl) (fun _ _ => rfl) fun _ _ => rfl

/-- The two lists of edges run side by side. -/
theorem build_inheritances :
    (unit.build config).records.inheritances =
      (unit.build config).records.relations.map fun edge => ⟨edge.base, edge.derived⟩ := by
  unfold Build.records
  simp only [List.map_map]
  rfl

/-- What the declared types call for is what the declarations call for, since nothing else has
supertypes. -/
theorem flatMap_declaredTypes :
    ((unit.declaredTypes config).flatMap fun (_, decl, entity) =>
        decl.resolvedSupertypes.map (entity.hash, ·)) =
      (unit.declared config).flatMap fun entry =>
        (unit.node? entry.1).toList.flatMap fun node =>
          (resolvedOf node.kind.supertypes).map (entry.2.entity.hash, ·) := by
  rw [declaredTypes, List.filterMap_eq_flatMap_toList, List.flatMap_assoc]
  refine List.flatMap_congr fun entry _ => ?_
  cases unit.node? entry.1 with
  | none => rfl
  | some node =>
      rw [Option.bind_some, Option.toList_some, List.flatMap_singleton]
      cases node.kind with
      | namedType decl =>
          show decl.resolvedSupertypes.map _ ++ [] = (resolvedOf decl.supertypes).map _
          rw [List.append_nil, resolvedOf_supertypes]
      | _ => rfl

end Edges

end SourceUnit

/-- A base gives the edge that its reference calls for, and every declaration with the binding of
the base is met by that edge. -/
theorem isEdge_of_isBase {derived : EntityHash} {supertype : TypeBinding × RelationKind}
    {base : Base} (leads : IsBase supertype base) :
    IsEdge derived supertype ⟨base.kind, derived, base.hash⟩ := by
  obtain ⟨kind, key, keyed, hash⟩ := leads
  have named : ∀ (unit : SourceUnit) id node, unit.node? id = some node →
      node.kind.typeBinding = some supertype.1 →
      unit.typeIdentity id = .ok ⟨key, supertype.1.qualifiedName, false⟩ := by
    intro unit id node present bound
    rw [SourceUnit.typeIdentity_eq_of_bound present bound, keyed]
    rfl
  exact {
    derived := rfl
    kind := kind
    base := ⟨key, keyed, hash⟩
    identified := fun unit id node present bound =>
      ⟨_, named unit id node present bound, hash.symm⟩
    declared := by
      intro unit config id node rows present bound member
      have identified : unit.identity? id node.kind =
          some (.ok ⟨key, supertype.1.qualifiedName, false⟩) := by
        rw [← named unit id node present bound]
        cases kind : node.kind <;> simp_all [NodeKind.typeBinding, SourceUnit.identity?]
      obtain ⟨_, same, entityHash⟩ :=
        SourceUnit.identity_of_mem_declared present identified member
      obtain rfl := Except.ok.inj same
      rw [entityHash, hash] }

theorem exists_of_mem_right {α β : Type} {R : α → β → Prop} {first : List α} {second : List β}
    (related : List.Forall₂ R first second) {value : β} (member : value ∈ second) :
    ∃ other ∈ first, R other value := by
  induction related with
  | nil => cases member
  | cons head _ ih =>
      rcases List.mem_cons.mp member with rfl | inTail
      · exact ⟨_, List.mem_cons_self, head⟩
      · obtain ⟨other, found, holds⟩ := ih inTail
        exact ⟨other, List.mem_cons_of_mem _ found, holds⟩

theorem forall₂_edges (config : Config) (unit : SourceUnit) :
    List.Forall₂ (fun start edge => IsEdge start.1 start.2 edge)
      ((unit.declaredTypes config).flatMap fun (_, decl, entity) =>
        decl.resolvedSupertypes.map (entity.hash, ·))
      (unit.build config).records.relations := by
  rw [unit.flatMap_declaredTypes config, unit.build_relations config]
  refine List.rel_flatMap (R := fun first second => first = second ∧
    first ∈ unit.declared config) (List.forall₂_same.mpr fun _ member => ⟨rfl, member⟩) ?_
  rintro ⟨id, rows⟩ _ ⟨rfl, declared⟩
  obtain ⟨node, present, given⟩ := SourceUnit.mem_declared.mp declared
  have bases : List.Forall₂ IsBase (resolvedOf node.kind.supertypes) rows.bases :=
    NodeContext.bases_of_declaration? given
  simp only [present, Option.toList_some, List.flatMap_singleton]
  rw [List.forall₂_map_left_iff, List.forall₂_map_right_iff]
  exact bases.imp fun _ _ leads => isEdge_of_isBase leads

/-- The edges of a build are those that its declared types call for.

Some list holds the named types that have an entity in the build, in the order of the nodes; a
type that failed is not among them. The relations are, one after the other, the edges from these
types to the types that they specialize and that were resolved: the superclass first, then the
interfaces. The inheritances are the same edges at the same places. -/
theorem build_edges (config : Config) (unit : SourceUnit) :
    ∃ types : List (NodeId × TypeDecl × Entity),
      (types.Pairwise fun first second => first.1 < second.1) ∧
      (∀ id decl entity,
        (id, decl, entity) ∈ types ↔ unit.DeclaresType config id decl entity) ∧
      (types.map (·.2.2)).Sublist (unit.build config).records.entities ∧
      (∀ id decl entity, (id, decl, entity) ∈ types →
        ∀ failure ∈ (unit.build config).failures, failure.subject ≠ .node id) ∧
      List.Forall₂ (fun start edge => IsEdge start.1 start.2 edge)
        (types.flatMap fun (_, decl, entity) =>
          decl.resolvedSupertypes.map (entity.hash, ·))
        (unit.build config).records.relations ∧
      (unit.build config).records.inheritances =
        (unit.build config).records.relations.map (fun edge => ⟨edge.base, edge.derived⟩) ∧
      ∀ edge ∈ (unit.build config).records.relations, edge.kind ≠ .other := by
  have edges := forall₂_edges config unit
  refine ⟨unit.declaredTypes config, unit.declaredTypes_pairwise config,
    fun _ _ _ => SourceUnit.mem_declaredTypes, unit.declaredTypes_sublist config, ?_, edges,
    unit.build_inheritances config, ?_⟩
  · intro id decl entity member
    obtain ⟨⟨node, present, kind⟩, rows, declared, _⟩ := SourceUnit.mem_declaredTypes.mp member
    have declares : node.kind.declares = true := by rw [kind]; rfl
    exact SourceUnit.not_mem_failedNodes.mp
      ((SourceUnit.mem_declared_iff_not_failed present declares).mp ⟨rows, declared⟩)
  · intro edge member
    obtain ⟨start, called, isEdge⟩ := exists_of_mem_right edges member
    obtain ⟨⟨id, decl, entity⟩, _, called⟩ := List.mem_flatMap.mp called
    obtain ⟨supertype, listed, rfl⟩ := List.mem_map.mp called
    rw [isEdge.kind]
    exact kind_ne_other_of_mem listed

end CodeIndex

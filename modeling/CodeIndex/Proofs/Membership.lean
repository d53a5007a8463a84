import CodeIndex.Proofs.Accounting

/-!
# Memberships

The membership rows of a build are the memberships that hold, and no other rows.

* `IsMembership` says when a membership holds, with no mention of the two passes: the member is
  declared, it stands directly in a named type, and that type has an entity in the same build.
* `memberRow?_eq_some_iff` is the second pass and `pendingMember_eq_some_iff` is the first.
* `build_memberships` puts them together: each membership that holds has its row, in the order
  of the members and once, and both ends of every row are there.
-/

namespace CodeIndex

namespace SourceUnit

/-- The node stands directly in the named type: of the ancestors that have members or open a
scope, that type is the nearest. -/
def StandsIn (unit : SourceUnit) (id owner : NodeId) : Prop :=
  ∃ node decl, (unit.ancestors id).find? (fun entry => entry.2.kind.isOwner) = some (owner, node) ∧
    node.kind = .namedType decl

/-- The row is that of a membership that holds for the node.

* `member`: nodes of this kind can be members, of the kind and visibility that the row names.
* `declared`: the node was declared, with the entity that the row names.
* `owner`: the node stands directly in a named type, that type has an identity, and an entity
  of the build has the hash of that identity. -/
structure IsMembership (config : Config) (unit : SourceUnit) (id : NodeId) (row : MemberType) :
    Prop where
  member : ∃ node modifiers, unit.node? id = some node ∧
    node.kind.membership? = some (row.kind, modifiers) ∧ row.visibility = modifiers.visibility
  declared : ∃ rows, (id, rows) ∈ unit.declared config ∧ row.memberHash = rows.entity.hash ∧
    row.astNodeId = rows.entity.astNodeId
  owner : ∃ owner identity, unit.StandsIn id owner ∧ unit.typeIdentity owner = .ok identity ∧
    row.typeHash = identity.key.hash ∧
    ∃ entity ∈ (unit.build config).records.entities, entity.hash = row.typeHash

/-! ## Both passes -/

section Passes

variable {config : Config} {unit : SourceUnit} {id : NodeId} {pending : PendingMember}

/-- The second pass knows a hash exactly when an entity of the build has it. -/
theorem emitted_contains_iff {hash : EntityHash} :
    (unit.emitted config).contains hash = true ↔
      ∃ entity ∈ (unit.build config).records.entities, entity.hash = hash := by
  have entities : (unit.build config).records.entities =
      (declarations (unit.outcomes config)).map (·.entity) := rfl
  unfold emitted
  rw [Std.HashSet.contains_ofList, List.contains_iff_mem, entities, List.mem_map]
  simp only [List.mem_map, exists_exists_and_eq_and]

/-- The second pass gives a row to the memberships whose owner has an identity and an entity. -/
theorem memberRow?_eq_some_iff {row : MemberType} :
    unit.memberRow? config pending = some row ↔
      ∃ identity, unit.typeIdentity pending.owner = .ok identity ∧
        (∃ entity ∈ (unit.build config).records.entities, entity.hash = identity.key.hash) ∧
        row = ⟨identity.key.hash, pending.memberHash, pending.kind, pending.visibility,
          pending.astNodeId⟩ := by
  unfold memberRow? link
  cases identified : unit.typeIdentity pending.owner with
  | error error => simp [Link.row?]
  | ok identity =>
      by_cases known : (unit.emitted config).contains identity.key.hash = true
      · simp only [known, if_true, Link.row?, Option.some.injEq]
        constructor
        · intro same
          exact ⟨identity, rfl, emitted_contains_iff.mp known, same.symm⟩
        · rintro ⟨owner, ⟨⟩, _, same⟩
          exact same.symm
      · simp only [known, Link.row?]
        constructor
        · intro absent
          cases absent
        · rintro ⟨owner, ⟨⟩, entity, _⟩
          exact absurd (emitted_contains_iff.mpr entity) known

/-- The first pass leaves a membership pending for what stands directly in a named type. -/
theorem pendingMember_eq_some_iff {context : NodeContext} {hash : EntityHash}
    {astNodeId : AstNodeId} {member : MemberKind × Modifiers} :
    context.pendingMember hash astNodeId member = some pending ↔
      ∃ owner, context.unit.StandsIn context.id owner ∧
        pending = ⟨owner, hash, member.1, member.2.visibility, astNodeId⟩ := by
  unfold NodeContext.pendingMember StandsIn owner?
  rw [nearest?_eq_find?_ancestors]
  cases found : (context.unit.ancestors context.id).find? (fun entry => entry.2.kind.isOwner) with
  | none => simp
  | some entry =>
      obtain ⟨owner, node⟩ := entry
      obtain ⟨parent, start, stop, isImplicit, docComment, kind⟩ := node
      cases kind with
      | namedType decl => simp [eq_comm (a := pending)]
      | _ => simp

end Passes

/-! ## Memberships of a build -/

section Memberships

variable (config : Config) (unit : SourceUnit)

/-- The membership rows of a build, each with its member. -/
def members : List (NodeId × MemberType) :=
  (unit.declared config).filterMap fun (id, rows) =>
    (rows.member.bind (unit.memberRow? config)).map (id, ·)

theorem members_pairwise :
    (unit.members config).Pairwise fun first second => first.1 < second.1 := by
  unfold members
  refine (unit.declared_pairwise config).filterMap _ ?_
  intro first second before found given found' given'
  obtain ⟨row, _, rfl⟩ := Option.map_eq_some_iff.mp given
  obtain ⟨row', _, rfl⟩ := Option.map_eq_some_iff.mp given'
  exact before

theorem build_memberTypes :
    (unit.build config).records.memberTypes = (unit.members config).map (·.2) := by
  have collected := unit.view_eq_declared config (·.memberTypes)
    (fun rows => rows.member.toList.filterMap (unit.memberRow? config)) rfl (fun _ _ => rfl)
    (fun _ _ => rfl) fun _ _ => rfl
  rw [collected, members, List.map_filterMap, List.filterMap_eq_flatMap_toList]
  refine List.flatMap_congr ?_
  rintro ⟨id, rows⟩ _
  cases member : rows.member with
  | none => simp [member]
  | some pending => cases row : unit.memberRow? config pending <;> simp [member, row]

theorem mem_members {config : Config} {unit : SourceUnit} {id : NodeId} {row : MemberType} :
    (id, row) ∈ unit.members config ↔
      ∃ rows pending, (id, rows) ∈ unit.declared config ∧ rows.member = some pending ∧
        unit.memberRow? config pending = some row := by
  unfold members
  rw [List.mem_filterMap]
  constructor
  · rintro ⟨⟨other, rows⟩, declared, given⟩
    obtain ⟨found, linked, same⟩ := Option.map_eq_some_iff.mp given
    cases same
    obtain ⟨pending, member, row⟩ := Option.bind_eq_some_iff.mp linked
    exact ⟨rows, pending, declared, member, row⟩
  · rintro ⟨rows, pending, declared, member, linked⟩
    exact ⟨(id, rows), declared, by simp [member, linked]⟩

/-- A node has a membership row exactly when the membership holds. -/
theorem mem_members_iff {config : Config} {unit : SourceUnit} {id : NodeId} {row : MemberType} :
    (id, row) ∈ unit.members config ↔ unit.IsMembership config id row := by
  rw [mem_members]
  constructor
  · rintro ⟨rows, pending, declared, waits, linked⟩
    obtain ⟨node, present, given⟩ := mem_declared.mp declared
    rw [(NodeContext.isOf_of_declaration? given).member] at waits
    obtain ⟨⟨kind, modifiers⟩, member, pends⟩ := Option.bind_eq_some_iff.mp waits
    obtain ⟨owner, stands, rfl⟩ := pendingMember_eq_some_iff.mp pends
    obtain ⟨identity, identified, entity, rfl⟩ := memberRow?_eq_some_iff.mp linked
    exact {
      member := ⟨node, modifiers, present, member, rfl⟩
      declared := ⟨rows, declared, rfl, rfl⟩
      owner := ⟨owner, identity, stands, identified, rfl, entity⟩ }
  · rintro ⟨⟨node, modifiers, present, member, visibility⟩, ⟨rows, declared, hash, astNodeId⟩,
      owner, identity, stands, identified, typeHash, entity⟩
    obtain ⟨found, sameNode, given⟩ := mem_declared.mp declared
    obtain rfl : found = node := Option.some.inj (sameNode.symm.trans present)
    refine ⟨rows, ⟨owner, rows.entity.hash, row.kind, modifiers.visibility, rows.entity.astNodeId⟩,
      declared, ?_, ?_⟩
    · rw [(NodeContext.isOf_of_declaration? given).member]
      exact Option.bind_eq_some_iff.mpr
        ⟨_, member, pendingMember_eq_some_iff.mpr ⟨owner, stands, rfl⟩⟩
    · refine memberRow?_eq_some_iff.mpr ⟨identity, identified, typeHash ▸ entity, ?_⟩
      obtain ⟨ownerHash, memberHash, kind, seen, place⟩ := row
      simp_all

end Memberships

end SourceUnit

/-- The membership rows of a build are the memberships that hold, in the order of the members
and once each. Both ends of a row have entities in the same build. -/
theorem build_memberships (config : Config) (unit : SourceUnit) :
    ∃ members : List (NodeId × MemberType),
      (members.Pairwise fun first second => first.1 < second.1) ∧
      (unit.build config).records.memberTypes = members.map (·.2) ∧
      (∀ id row, (id, row) ∈ members ↔ unit.IsMembership config id row) ∧
      ∀ row ∈ (unit.build config).records.memberTypes,
        (∃ entity ∈ (unit.build config).records.entities, entity.hash = row.typeHash) ∧
        ∃ entity ∈ (unit.build config).records.entities,
          entity.hash = row.memberHash ∧ entity.astNodeId = row.astNodeId := by
  refine ⟨unit.members config, unit.members_pairwise config, unit.build_memberTypes config,
    fun _ _ => SourceUnit.mem_members_iff, ?_⟩
  intro row linked
  rw [unit.build_memberTypes config] at linked
  obtain ⟨⟨id, _⟩, member, rfl⟩ := List.mem_map.mp linked
  obtain ⟨_, ⟨rows, declared, hash, astNodeId⟩, _, _, _, _, _, owner⟩ :=
    SourceUnit.mem_members_iff.mp member
  refine ⟨owner, rows.entity, ?_, hash.symm, astNodeId.symm⟩
  rw [unit.build_entities config]
  exact List.mem_map.mpr ⟨(id, rows), declared, rfl⟩

end CodeIndex

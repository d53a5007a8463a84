import CodeIndex.Proofs.Correspondence
import CodeIndex.Proofs.Membership
import Mathlib.Data.List.Perm.Subperm
import Mathlib.Data.List.Sort

/-!
# Units that grow

A node that is added at the end of a unit changes nothing that the nodes before it give, as long as
none of them names a parent that is still to come. Only a membership may appear late: when the new
node gives the entity that an earlier member was waiting for.

* `SourceUnit.embeds_push`: the unit stands in the grown one. The walks over parents may be longer
  there, and come to the same ends, also in a circle.
* `share_push` and `build_share_push`: the nodes give what they gave before, and the new node adds
  its own share behind.
* `mem_members_push` and `mem_members_of_push`: no membership is lost, and those that come late were
  waiting for the entity of the new node.
* `build_push` puts this together for one node; `build_pushAll` for node after node.
-/

namespace CodeIndex

namespace SourceUnit

/-- Every parent that is named is a node of the unit. -/
def ParentsInRange (unit : SourceUnit) : Prop :=
  ∀ node ∈ unit.nodes, ∀ parent ∈ node.parent, parent < unit.nodes.size

instance (unit : SourceUnit) : Decidable unit.ParentsInRange :=
  inferInstanceAs (Decidable (∀ node ∈ unit.nodes, ∀ parent ∈ node.parent, _))

/-- What a node gives when it is added at the end of a unit. -/
def pushedShare (config : Config) (unit : SourceUnit) (added : SyntaxNode) : Share :=
  (unit.push added).share config unit.nodes.size added

section Push

variable {config : Config} {unit : SourceUnit} {added : SyntaxNode}

/-! ## The nodes of a grown unit -/

theorem node?_push (id : NodeId) :
    (unit.push added).node? id = if id = unit.nodes.size then some added else unit.node? id :=
  Array.getElem?_push

theorem entries_push :
    (unit.push added).entries = unit.entries ++ [(unit.nodes.size, added)] := by
  unfold entries push
  rw [Array.toList_push, List.zipIdx_append, List.map_append, Nat.zero_add, Array.length_toList]
  rfl

/-- The unit stands in the grown one, with all its ids. -/
theorem embeds_push (inRange : unit.ParentsInRange) :
    Embeds id (· < unit.nodes.size) unit (unit.push added) where
  injective := fun _ _ _ _ same => same
  absent := by
    intro place inside missing
    rw [id_eq, node?_push, if_neg (Nat.ne_of_lt inside), missing]
  present := by
    intro place node inside present
    refine ⟨node, ?_, .of_id node⟩
    rw [id_eq, node?_push, if_neg (Nat.ne_of_lt inside), present]
  closed := fun _ node parent _ present named =>
    inRange node (Array.mem_of_getElem? present) parent named
  package := fun _ _ _ _ _ => rfl

/-! ## What the earlier nodes give -/

theorem outcome_push (inRange : unit.ParentsInRange) {id : NodeId} {node : SyntaxNode}
    (present : unit.node? id = some node) :
    ((unit.push added).context config id node).outcome =
      (unit.context config id node).outcome :=
  (unit.context config id node).outcome_eq_of_embeds (embeds_push inRange)
    (lt_size_of_node? present) rfl

/-- What an earlier node gives is the same before and after. -/
theorem share_push (inRange : unit.ParentsInRange) {id : NodeId} {node : SyntaxNode}
    (present : unit.node? id = some node) :
    ((unit.push added).share config id node).withoutMembers =
      (unit.share config id node).withoutMembers := by
  unfold share
  rw [outcome_push inRange present]
  exact Outcome.share_withoutMembers _ _ _

theorem shares_push (inRange : unit.ParentsInRange) :
    ((unit.push added).shares config).map (·.withoutMembers) =
      (unit.shares config).map (·.withoutMembers) ++
        [(unit.pushedShare config added).withoutMembers] := by
  unfold shares
  rw [entries_push, List.map_append, List.map_append]
  refine congrArg (· ++ _) ?_
  rw [List.map_map, List.map_map]
  refine List.map_congr_left ?_
  rintro ⟨id, node⟩ member
  exact share_push inRange (mem_entries.mp member)

/-- Memberships apart, the grown unit gives what the unit gave, and behind that the share of the
new node. -/
theorem build_share_push (inRange : unit.ParentsInRange) :
    ((unit.push added).build config).share.withoutMembers =
      (unit.build config).share.withoutMembers ++
        (unit.pushedShare config added).withoutMembers := by
  rw [build_share, build_share, Share.sum_withoutMembers, Share.sum_withoutMembers,
    shares_push inRange, Share.sum_append, Share.sum, Share.sum, Share.append_nil]

theorem entities_push (inRange : unit.ParentsInRange) :
    ((unit.push added).build config).records.entities =
      (unit.build config).records.entities ++ (unit.pushedShare config added).records.entities :=
  congrArg (·.records.entities) (build_share_push inRange)

/-! ## Memberships -/

theorem mem_declared_push_iff (inRange : unit.ParentsInRange) {id : NodeId} {rows : Declaration}
    (earlier : id ≠ unit.nodes.size) :
    (id, rows) ∈ (unit.push added).declared config ↔ (id, rows) ∈ unit.declared config := by
  rw [mem_declared, mem_declared, node?_push, if_neg earlier]
  refine exists_congr fun node => and_congr_right fun present => ?_
  rw [outcome_push inRange present]

/-- A member waits for a node of its unit. -/
theorem owner_lt_size {id : NodeId} {rows : Declaration} {pending : PendingMember}
    (declared : (id, rows) ∈ unit.declared config) (waits : rows.member = some pending) :
    pending.owner < unit.nodes.size := by
  obtain ⟨node, _, given⟩ := mem_declared.mp declared
  rw [(NodeContext.isOf_of_declaration? given).member] at waits
  obtain ⟨member, _, pends⟩ := Option.bind_eq_some_iff.mp waits
  obtain ⟨owner, ⟨type, decl, found, _⟩, rfl⟩ := pendingMember_eq_some_iff.mp pends
  exact lt_size_of_node? (node?_of_mem_walk (List.mem_of_find?_eq_some found))

/-- The second pass over the grown unit gives a member its row if the row was there before, or if
the new node gives the entity of its type. -/
theorem memberRow?_push_iff (inRange : unit.ParentsInRange) {pending : PendingMember}
    (inside : pending.owner < unit.nodes.size) {row : MemberType} :
    (unit.push added).memberRow? config pending = some row ↔
      unit.memberRow? config pending = some row ∨
        ∃ identity, unit.typeIdentity pending.owner = .ok identity ∧
          (∃ entity ∈ (unit.pushedShare config added).records.entities,
            entity.hash = identity.key.hash) ∧
          row = ⟨identity.key.hash, pending.memberHash, pending.kind, pending.visibility,
            pending.astNodeId⟩ := by
  have owner : (unit.push added).typeIdentity pending.owner = unit.typeIdentity pending.owner :=
    ((embeds_push inRange).typeIdentity inside).eq_of_id
  rw [memberRow?_eq_some_iff, memberRow?_eq_some_iff, owner, entities_push inRange, ← exists_or]
  refine exists_congr fun identity => ?_
  simp only [List.mem_append, or_and_right, exists_or, and_or_left]

/-- A membership is kept. -/
theorem mem_members_push (inRange : unit.ParentsInRange) {id : NodeId} {row : MemberType}
    (member : (id, row) ∈ unit.members config) :
    (id, row) ∈ (unit.push added).members config := by
  obtain ⟨rows, pending, declared, waits, linked⟩ := mem_members.mp member
  obtain ⟨node, present, _⟩ := mem_declared.mp declared
  have earlier : id ≠ unit.nodes.size := Nat.ne_of_lt (lt_size_of_node? present)
  exact mem_members.mpr ⟨rows, pending, (mem_declared_push_iff inRange earlier).mpr declared, waits,
    (memberRow?_push_iff inRange (owner_lt_size declared waits)).mpr (.inl linked)⟩

/-- A membership of an earlier node that was not there before is in the type whose entity came with
the new node. -/
theorem mem_members_of_push (inRange : unit.ParentsInRange) {id : NodeId} {row : MemberType}
    (earlier : id ≠ unit.nodes.size) (member : (id, row) ∈ (unit.push added).members config) :
    (id, row) ∈ unit.members config ∨
      ∃ entity ∈ (unit.pushedShare config added).records.entities,
        entity.hash = row.typeHash := by
  obtain ⟨rows, pending, declared, waits, linked⟩ := mem_members.mp member
  have before := (mem_declared_push_iff inRange earlier).mp declared
  rcases (memberRow?_push_iff inRange (owner_lt_size before waits)).mp linked with
    known | ⟨identity, _, entity, rfl⟩
  · exact .inl (mem_members.mpr ⟨rows, pending, before, waits, known⟩)
  · exact .inr entity

theorem members_push_sublist (inRange : unit.ParentsInRange) :
    (unit.members config).Sublist ((unit.push added).members config) := by
  -- both lists run through the nodes in order, so it is enough that no membership is missing
  have once : (unit.members config).Nodup :=
    (unit.members_pairwise config).imp fun before => ne_of_apply_ne _ (Nat.ne_of_lt before)
  have kept : unit.members config ⊆ (unit.push added).members config :=
    fun _ member => mem_members_push inRange member
  have _ : Std.Antisymm fun first second : NodeId × MemberType => first.1 < second.1 :=
    ⟨fun _ _ before behind => absurd before (Nat.lt_asymm behind)⟩
  exact List.sublist_of_subperm_of_pairwise (List.Nodup.subperm once kept)
    (unit.members_pairwise config) ((unit.push added).members_pairwise config)

theorem memberTypes_push_sublist (inRange : unit.ParentsInRange) :
    (unit.build config).records.memberTypes.Sublist
      ((unit.push added).build config).records.memberTypes := by
  rw [build_memberTypes, build_memberTypes]
  exact (members_push_sublist inRange).map _

end Push

end SourceUnit

/-! ## One more node -/

/-- The build of a unit before and after one node is added at the end.

* `astNodes` to `counts`: what was there stands in front, unchanged, and behind it is the share of
  the new node and nothing else.
* `memberTypes`: no membership row is lost, and those that were there keep their order; `late`:
  what is there in addition belongs to the new node, or to an earlier member of a type whose entity
  came with the new node. -/
structure Grown (config : Config) (unit : SourceUnit) (added : SyntaxNode) : Prop where
  astNodes : ((unit.push added).build config).records.astNodes =
    (unit.build config).records.astNodes ++ (unit.pushedShare config added).records.astNodes
  entities : ((unit.push added).build config).records.entities =
    (unit.build config).records.entities ++ (unit.pushedShare config added).records.entities
  relations : ((unit.push added).build config).records.relations =
    (unit.build config).records.relations ++ (unit.pushedShare config added).records.relations
  inheritances : ((unit.push added).build config).records.inheritances =
    (unit.build config).records.inheritances ++
      (unit.pushedShare config added).records.inheritances
  docComments : ((unit.push added).build config).records.docComments =
    (unit.build config).records.docComments ++
      (unit.pushedShare config added).records.docComments
  failures : ((unit.push added).build config).failures =
    (unit.build config).failures ++ (unit.pushedShare config added).failures
  counts : ((unit.push added).build config).counts =
    (unit.build config).counts + (unit.pushedShare config added).counts
  memberTypes : (unit.build config).records.memberTypes.Sublist
    ((unit.push added).build config).records.memberTypes
  late : ∀ id row, (id, row) ∈ (unit.push added).members config →
    (id, row) ∈ unit.members config ∨ id = unit.nodes.size ∨
      ∃ entity ∈ (unit.pushedShare config added).records.entities, entity.hash = row.typeHash

/-- A node that is added at the end leaves what the unit gave as it was, if the parents that the
nodes of the unit name are there; they may run in a circle. -/
theorem build_push (config : Config) (unit : SourceUnit) (added : SyntaxNode)
    (inRange : unit.ParentsInRange) : Grown config unit added := by
  have whole : ((unit.push added).build config).share.withoutMembers =
      (unit.build config).share.withoutMembers ++
        (unit.pushedShare config added).withoutMembers := SourceUnit.build_share_push inRange
  exact {
    astNodes := congrArg (·.records.astNodes) whole
    entities := congrArg (·.records.entities) whole
    relations := congrArg (·.records.relations) whole
    inheritances := congrArg (·.records.inheritances) whole
    docComments := congrArg (·.records.docComments) whole
    failures := congrArg (·.failures) whole
    counts := congrArg (·.counts) whole
    memberTypes := SourceUnit.memberTypes_push_sublist inRange
    late := by
      intro id row member
      by_cases own : id = unit.nodes.size
      · exact .inr (.inl own)
      · exact (SourceUnit.mem_members_of_push inRange own member).imp_right .inr }

/-- A field of a class that cannot be placed, and a block; the class stands in the block and the
block in the class. -/
def unplacedOwner : SourceUnit where
  fileId := ⟨1⟩
  source := "class A int x"
  nodes := #[
    { parent := some 2, start := 0, stop := 99,
      kind := .namedType { name := "A", binding := some ⟨"p.A", []⟩ } },
    { parent := some 0, start := 8, stop := 13,
      kind := .field { name := "x", fieldType := ⟨"int", some ⟨"int", []⟩⟩ } },
    { parent := some 0, start := 8, stop := 13, kind := .other }]

/-- The class of `unplacedOwner` once more, where it can be placed. -/
def placedOwner : SyntaxNode where
  start := 0
  stop := 7
  kind := .namedType { name := "A", binding := some ⟨"p.A", []⟩ }

/-- The row of a pending membership, with the entity of the owner looked up in the list of rows.
This can be computed for a given unit. -/
theorem SourceUnit.memberRow?_eq (config : Config) (unit : SourceUnit) (pending : PendingMember) :
    unit.memberRow? config pending =
      (unit.typeIdentity pending.owner).toOption.bind fun identity =>
        if ∃ entity ∈ (unit.build config).records.entities, entity.hash = identity.key.hash then
          some ⟨identity.key.hash, pending.memberHash, pending.kind, pending.visibility,
            pending.astNodeId⟩
        else none := by
  refine Option.ext fun row => ?_
  rw [memberRow?_eq_some_iff]
  cases unit.typeIdentity pending.owner with
  | error error => simp [Except.toOption]
  | ok identity => simp [Except.toOption, eq_comm (a := row)]

/-- The field of `unplacedOwner` has no membership row until the class is added where it can be
placed. Everything else is kept, the failure of the first class too. -/
theorem placedOwner_grown :
    unplacedOwner.ParentsInRange ∧ Grown {} unplacedOwner placedOwner ∧
      (unplacedOwner.build {}).failures.map (·.subject) = [.node 0] ∧
      unplacedOwner.members {} = [] ∧
      ((unplacedOwner.push placedOwner).members {}).map (·.1) = [1] := by
  have inRange : unplacedOwner.ParentsInRange := by decide
  refine ⟨inRange, build_push {} unplacedOwner placedOwner inRange, by decide +kernel, ?_, ?_⟩ <;>
    · unfold SourceUnit.members
      simp only [funext (SourceUnit.memberRow?_eq _ _)]
      decide +kernel

/-- A field that is added before its class. -/
def earlyField : SourceUnit where
  fileId := ⟨1⟩
  source := "class A int x"
  nodes := #[
    { parent := some 1, start := 8, stop := 13,
      kind := .field { name := "x", fieldType := ⟨"int", some ⟨"int", []⟩⟩ } }]

-- a parent that is out of range may be filled in later, and then nothing is kept
example : ¬ earlyField.ParentsInRange ∧
    (earlyField.build {}).failures.map (·.subject) = [.node 0] ∧
    ((earlyField.push placedOwner).build {}).failures = [] := by
  decide +kernel

/-! ## Node after node -/

namespace SourceUnit

/-- The unit with several nodes added at the end, one after another. -/
def pushAll (unit : SourceUnit) (added : List SyntaxNode) : SourceUnit :=
  added.foldl push unit

/-- Every added node names a parent that is there already, or itself, or none. -/
def ContinuedBy (unit : SourceUnit) : List SyntaxNode → Prop
  | [] => True
  | node :: rest =>
    (∀ parent ∈ node.parent, parent ≤ unit.nodes.size) ∧ (unit.push node).ContinuedBy rest

/-- What the added nodes give, each one when it has just been added. -/
def pushedShares (config : Config) (unit : SourceUnit) : List SyntaxNode → List Share
  | [] => []
  | node :: rest => unit.pushedShare config node :: (unit.push node).pushedShares config rest

theorem ParentsInRange.push {unit : SourceUnit} (inRange : unit.ParentsInRange)
    {added : SyntaxNode} (known : ∀ parent ∈ added.parent, parent ≤ unit.nodes.size) :
    (unit.push added).ParentsInRange := by
  intro node member parent named
  have size : (unit.push added).nodes.size = unit.nodes.size + 1 := Array.size_push ..
  rw [size]
  rcases Array.mem_push.mp member with old | rfl
  · exact Nat.lt_succ_of_lt (inRange node old parent named)
  · exact Nat.lt_succ_of_le (known parent named)

/-- If parents are added before what stands in them, every node gives in the end what it gave when
it was added, and no membership row is lost on the way. -/
theorem build_pushAll (config : Config) {unit : SourceUnit} (inRange : unit.ParentsInRange)
    {added : List SyntaxNode} (first : unit.ContinuedBy added) :
    ((unit.pushAll added).build config).share.withoutMembers =
        (unit.build config).share.withoutMembers ++
          (Share.sum (unit.pushedShares config added)).withoutMembers ∧
      (unit.build config).records.memberTypes.Sublist
        ((unit.pushAll added).build config).records.memberTypes := by
  induction added generalizing unit with
  | nil => exact ⟨(Share.append_nil _).symm, List.Sublist.refl _⟩
  | cons node rest ih =>
      obtain ⟨known, others⟩ := first
      obtain ⟨shares, rows⟩ := ih (inRange.push known) others
      refine ⟨?_, (memberTypes_push_sublist inRange).trans rows⟩
      calc ((unit.pushAll (node :: rest)).build config).share.withoutMembers
          = ((unit.push node).build config).share.withoutMembers ++
              (Share.sum ((unit.push node).pushedShares config rest)).withoutMembers := shares
        _ = (unit.build config).share.withoutMembers ++
              ((unit.pushedShare config node).withoutMembers ++
                (Share.sum ((unit.push node).pushedShares config rest)).withoutMembers) := by
            rw [build_share_push inRange, Share.append_assoc]
        _ = _ := rfl

end SourceUnit

end CodeIndex

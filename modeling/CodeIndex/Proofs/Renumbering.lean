import CodeIndex.Proofs.Correspondence
import CodeIndex.Proofs.Membership
import Mathlib.Data.Fin.Rev
import Mathlib.Data.List.Nodup
import Mathlib.Logic.Equiv.Basic

/-!
# The order of the nodes

Ids are places in the list of nodes, so nodes in another order have other ids. Nothing that a
build gives depends on them, wherever parents stand and also where they run in a circle.

* `SourceUnit.renumber` puts the nodes in another order and renames the parents.
* `node?_renumber` and `embeds_renumber`: the whole unit stands in the renumbered one.
* `SameShare` relates what a node gives before and after; it needs the second pass to know the
  same hashes, which the first pass settles (`emitted_renumber`).
* `build_renumber`: the rows are the same, each as often, and so are the counters; the same nodes
  fail, in the same way.
-/

namespace CodeIndex

namespace SourceUnit

/-- The permutation of ids that belongs to an order of the nodes. An id of no node is kept. -/
def newId (unit : SourceUnit) (order : Equiv.Perm (Fin unit.nodes.size)) :
    Equiv.Perm NodeId :=
  order.extendDomain Fin.equivSubtype

/-- The unit with its nodes in another order: each node has the id that the order gives it, and
parents are renamed accordingly. -/
def renumber (unit : SourceUnit) (order : Equiv.Perm (Fin unit.nodes.size)) : SourceUnit :=
  { unit with
    nodes := Array.ofFn fun place => unit.nodes[order.symm place].rename (unit.newId order) }

section Renumbering

variable {unit : SourceUnit} (order : Equiv.Perm (Fin unit.nodes.size))

theorem newId_of_lt {id : NodeId} (inRange : id < unit.nodes.size) :
    unit.newId order id = order ⟨id, inRange⟩ :=
  Equiv.Perm.extendDomain_apply_subtype order Fin.equivSubtype inRange

theorem newId_of_le {id : NodeId} (outOfRange : unit.nodes.size ≤ id) :
    unit.newId order id = id :=
  Equiv.Perm.extendDomain_apply_not_subtype order Fin.equivSubtype (Nat.not_lt.mpr outOfRange)

/-- A node is found under its new id, with its parent renamed. -/
theorem node?_renumber (id : NodeId) :
    (unit.renumber order).node? (unit.newId order id) =
      (unit.node? id).map (·.rename (unit.newId order)) := by
  unfold node? renumber
  rw [Array.getElem?_ofFn]
  rcases Nat.lt_or_ge id unit.nodes.size with inRange | outOfRange
  · rw [newId_of_lt order inRange, dif_pos (order ⟨id, inRange⟩).isLt]
    simp only [Fin.eta, Equiv.symm_apply_apply, Array.getElem?_eq_getElem inRange]
    rfl
  · rw [newId_of_le order outOfRange, dif_neg (Nat.not_lt.mpr outOfRange),
      Array.getElem?_eq_none outOfRange]
    rfl

/-- Two nodes that stand in each other, and one whose parent is no node of the unit. -/
def circle : SourceUnit where
  fileId := ⟨1⟩
  source := ""
  nodes := #[
    { parent := some 1, start := 0, stop := 0, kind := .other },
    { parent := some 0, start := 0, stop := 0, kind := .other },
    { parent := some 7, start := 0, stop := 0, kind := .other }]

example : (circle.renumber Fin.revPerm).nodes.toList.map (·.parent) = [some 7, some 2, some 1] := by
  decide

/-- The whole unit stands in the renumbered one. -/
theorem embeds_renumber :
    Embeds (unit.newId order) (fun _ => True) unit (unit.renumber order) where
  injective := fun _ _ _ _ same => (unit.newId order).injective same
  absent := by
    intro id _ missing
    rw [node?_renumber, missing, Option.map_none]
  present := by
    intro id node _ present
    refine ⟨node.rename (unit.newId order), ?_, rfl, rfl, fun _ => rfl⟩
    rw [node?_renumber, present, Option.map_some]
  closed := fun _ _ _ _ _ _ => trivial
  package := fun _ _ _ _ _ => rfl

/-- The nodes with their ids are the same up to renaming, in some order. -/
theorem entries_renumber :
    (unit.renumber order).entries.Perm
      (unit.entries.map fun (id, node) =>
        (unit.newId order id, node.rename (unit.newId order))) := by
  -- neither list has an id twice, so it is enough that they have the same members
  have nodup : ∀ other : SourceUnit, (other.entries.map (·.1)).Nodup := fun other => by
    rw [entries_ids]
    exact List.nodup_range
  refine (List.perm_ext_iff_of_nodup (nodup _).of_map (List.Nodup.of_map (·.1) ?_)).mpr ?_
  · have ids := (nodup unit).map (unit.newId order).injective
    rw [List.map_map] at ids ⊢
    exact ids
  · rintro ⟨id', node'⟩
    obtain ⟨id, rfl⟩ := (unit.newId order).surjective id'
    rw [mem_entries, node?_renumber, List.mem_map, Option.map_eq_some_iff]
    constructor
    · rintro ⟨node, present, rfl⟩
      exact ⟨(id, node), mem_entries.mpr present, rfl⟩
    · rintro ⟨⟨other, node⟩, member, same⟩
      obtain ⟨renamed, rfl⟩ := Prod.mk.inj same
      obtain rfl := (unit.newId order).injective renamed
      exact ⟨node, mem_entries.mp member, rfl⟩

/-- A node of the unit corresponds to the one with its new id. -/
theorem corresponds_renumber (config : Config) (id : NodeId) (node : SyntaxNode) :
    NodeContext.Corresponds (unit.newId order) (fun _ => True) (unit.context config id node)
      ((unit.renumber order).context config (unit.newId order id)
        (node.rename (unit.newId order))) where
  embeds := embeds_renumber order
  inside := trivial
  id := rfl
  node := rfl
  config := rfl
  lines := rfl
  fileId := rfl

end Renumbering

end SourceUnit

/-! ## Shares of renamed nodes -/

theorem SameOutcome.declaration? {rename : NodeId → NodeId} {outcome outcome' : Outcome}
    (same : SameOutcome rename outcome outcome') :
    outcome'.declaration? = outcome.declaration?.map (·.rename rename) := by
  rcases same.result.ok_or_error with
    ⟨rows, _, given, given', rfl⟩ | ⟨failure, failure', failed, failed', _⟩
  · rw [Outcome.declaration?_of_ok given, Outcome.declaration?_of_ok given']
    cases rows <;> rfl
  · rw [Outcome.declaration?_of_error failed, Outcome.declaration?_of_error failed']
    rfl

/-- The shares have the same rows and counts, and the same failures up to ids. -/
structure SameShare (rename : NodeId → NodeId) (share share' : Share) : Prop where
  records : share'.records = share.records
  failures : List.Forall₂ (SameFailure rename) share.failures share'.failures
  counts : share'.counts = share.counts

section Shares

variable {rename : NodeId → NodeId} {memberRow? memberRow?' : PendingMember → Option MemberType}

theorem Contribution.records_rename
    (linked : ∀ pending, memberRow?' (pending.rename rename) = memberRow? pending)
    (rows : Contribution) : (rows.rename rename).records memberRow?' = rows.records memberRow? := by
  cases rows with
  | declaration rows =>
      have members : (rows.member.map (·.rename rename)).toList.filterMap memberRow?' =
          rows.member.toList.filterMap memberRow? := by
        cases rows.member with
        | none => rfl
        | some pending => simp [List.filterMap_cons, linked]
      simp only [Contribution.rename, Declaration.rename, records, members]
  | _ => rfl

theorem SameFailure.subjects_and_kinds {failures failures' : List Failure}
    (same : List.Forall₂ (SameFailure rename) failures failures') :
    failures'.map (fun failure => (failure.subject, failure.kind)) =
      failures.map fun failure => (failure.subject.rename rename, failure.kind) := by
  induction same with
  | nil => rfl
  | cons head _ ih => rw [List.map_cons, List.map_cons, ih, head.subject, head.kind]

/-- Outcomes that are the same give shares that are, if the second pass treats the renamed
members as it treats the members. -/
theorem SameOutcome.share {outcome outcome' : Outcome}
    (same : SameOutcome rename outcome outcome')
    (linked : ∀ pending, memberRow?' (pending.rename rename) = memberRow? pending) :
    SameShare rename (outcome.share memberRow?) (outcome'.share memberRow?') := by
  rcases same.result.ok_or_error with
    ⟨rows, _, given, given', rfl⟩ | ⟨failure, failure', failed, failed', failures⟩
  · rw [Outcome.share_of_ok given, Outcome.share_of_ok given', same.remarks,
      Contribution.records_rename linked]
    exact ⟨rfl, .nil, rfl⟩
  · rw [Outcome.share_of_error failed, Outcome.share_of_error failed', same.remarks]
    exact ⟨rfl, .cons failures .nil, rfl⟩

end Shares

namespace SourceUnit

section Renumbering

variable (config : Config) {unit : SourceUnit} (order : Equiv.Perm (Fin unit.nodes.size))

/-! ## Both passes over the renumbered unit -/

theorem entities_renumber :
    ((unit.renumber order).build config).records.entities.Perm
      (unit.build config).records.entities := by
  rw [build_entities, build_entities, SourceUnit.declared, SourceUnit.declared,
    List.map_filterMap, List.map_filterMap]
  refine ((entries_renumber order).filterMap _).trans (List.Perm.of_eq ?_)
  rw [List.filterMap_map]
  refine List.filterMap_congr ?_
  rintro ⟨id, node⟩ _
  have declared := (corresponds_renumber order config id node).outcome.declaration?
  simp only [Function.comp_apply, declared, Option.map_map]
  rfl

/-- The second pass knows the same hashes. -/
theorem emitted_renumber (hash : EntityHash) :
    ((unit.renumber order).emitted config).contains hash =
      (unit.emitted config).contains hash := by
  rw [Bool.eq_iff_iff, emitted_contains_iff, emitted_contains_iff]
  constructor
  · rintro ⟨entity, member, same⟩
    exact ⟨entity, (entities_renumber config order).mem_iff.mp member, same⟩
  · rintro ⟨entity, member, same⟩
    exact ⟨entity, (entities_renumber config order).mem_iff.mpr member, same⟩

/-- The second pass gives the renamed members the rows of the members. -/
theorem memberRow?_renumber (pending : PendingMember) :
    (unit.renumber order).memberRow? config (pending.rename (unit.newId order)) =
      unit.memberRow? config pending := by
  have owner : Agrees (SameError (unit.newId order)) Eq (unit.typeIdentity pending.owner)
      ((unit.renumber order).typeIdentity (unit.newId order pending.owner)) :=
    (embeds_renumber order).typeIdentity trivial
  unfold memberRow? link PendingMember.rename
  rcases owner.ok_or_error with
    ⟨identity, _, identified, identified', rfl⟩ | ⟨error, error', failed, failed', _⟩
  · -- the owner has the same hash, and one is known where the other is
    simp only [identified, identified', emitted_renumber]
    cases (unit.emitted config).contains identity.key.hash <;> rfl
  · simp only [failed, failed']

/-- What the nodes give is the same up to ids, in some order. -/
theorem shares_renumber {β : Type} {view view' : Share → β}
    (same : ∀ share share', SameShare (unit.newId order) share share' →
      view' share' = view share) :
    (((unit.renumber order).shares config).map view').Perm ((unit.shares config).map view) := by
  unfold shares
  rw [List.map_map, List.map_map]
  refine ((entries_renumber order).map _).trans (List.Perm.of_eq ?_)
  rw [List.map_map]
  refine List.map_congr_left ?_
  rintro ⟨id, node⟩ _
  exact same _ _ ((corresponds_renumber order config id node).outcome.share
    (memberRow?_renumber config order))

/-- Every list of rows that adds up is the same, in some order. -/
theorem rows_renumber {α : Type} (rows : RecordSet → List α) (empty : rows {} = [])
    (append : ∀ first second : RecordSet, rows (first ++ second) = rows first ++ rows second) :
    (rows ((unit.renumber order).build config).records).Perm
      (rows (unit.build config).records) := by
  rw [build_records, build_records, RecordSet.concat_rows rows empty append,
    RecordSet.concat_rows rows empty append]
  exact (shares_renumber config order fun _ _ same => same.records).flatMap_right rows

theorem failures_renumber :
    (((unit.renumber order).build config).failures.map fun failure =>
        (failure.subject, failure.kind)).Perm
      ((unit.build config).failures.map fun failure =>
        (failure.subject.rename (unit.newId order), failure.kind)) := by
  rw [build_failures, build_failures, List.map_flatMap, List.map_flatMap, List.flatMap_def,
    List.flatMap_def]
  refine (shares_renumber config order ?_).flatten
  exact fun _ _ same => SameFailure.subjects_and_kinds same.failures

end Renumbering

end SourceUnit

/-! ## Builds of renumbered units -/

/-- The lists of both sets hold the same rows, each as often. -/
structure RecordSet.Perm (first second : RecordSet) : Prop where
  astNodes : first.astNodes.Perm second.astNodes
  entities : first.entities.Perm second.entities
  relations : first.relations.Perm second.relations
  inheritances : first.inheritances.Perm second.inheritances
  memberTypes : first.memberTypes.Perm second.memberTypes
  docComments : first.docComments.Perm second.docComments

theorem Counts.total_perm {first second : List Counts} (perm : first.Perm second) :
    total first = total second := by
  induction perm with
  | nil => rfl
  | cons head _ ih => rw [total, total, ih]
  | swap head next tail =>
      simp only [total, add_eq, Counts.mk.injEq]
      omega
  | trans _ _ ih ih' => exact ih.trans ih'

/-- A build does not depend on the order of the nodes: it gives the same rows, each as often, and
the same counters, and the same nodes fail over the same. -/
theorem build_renumber (config : Config) (unit : SourceUnit)
    (order : Equiv.Perm (Fin unit.nodes.size)) :
    ((unit.renumber order).build config).records.Perm (unit.build config).records ∧
      ((unit.renumber order).build config).counts = (unit.build config).counts ∧
      (((unit.renumber order).build config).failures.map fun failure =>
          (failure.subject, failure.kind)).Perm
        ((unit.build config).failures.map fun failure =>
          (failure.subject.rename (unit.newId order), failure.kind)) := by
  refine ⟨?_, ?_, SourceUnit.failures_renumber config order⟩
  · exact {
      astNodes := SourceUnit.rows_renumber config order (·.astNodes) rfl fun _ _ => rfl
      entities := SourceUnit.rows_renumber config order (·.entities) rfl fun _ _ => rfl
      relations := SourceUnit.rows_renumber config order (·.relations) rfl fun _ _ => rfl
      inheritances := SourceUnit.rows_renumber config order (·.inheritances) rfl fun _ _ => rfl
      memberTypes := SourceUnit.rows_renumber config order (·.memberTypes) rfl fun _ _ => rfl
      docComments := SourceUnit.rows_renumber config order (·.docComments) rfl fun _ _ => rfl }
  · rw [SourceUnit.build_counts, SourceUnit.build_counts]
    exact Counts.total_perm (SourceUnit.shares_renumber config order fun _ _ same => same.counts)

end CodeIndex

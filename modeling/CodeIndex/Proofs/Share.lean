import CodeIndex.Build

/-!
# What a node gives to a build

A build is collected from its nodes, one after another. The share of a node is what it adds to
each list of rows, to the failures and to the counters; a build holds the shares of all nodes in
the order of the nodes, and nothing else.

* `SourceUnit.share` is the share of one node, `SourceUnit.shares` are those of all nodes.
* `build_records`, `build_failures` and `build_counts`: a build is the sum of its shares, list by
  list; `build_share` says the same in one piece.
-/

namespace CodeIndex

/-! ## Sums of rows and counters -/

instance : Append RecordSet where
  append first second := {
    astNodes := first.astNodes ++ second.astNodes
    entities := first.entities ++ second.entities
    relations := first.relations ++ second.relations
    inheritances := first.inheritances ++ second.inheritances
    memberTypes := first.memberTypes ++ second.memberTypes
    docComments := first.docComments ++ second.docComments }

instance : Add Counts where
  add first second := {
    placeholders := first.placeholders + second.placeholders
    skippedReferences := first.skippedReferences + second.skippedReferences }

/-- The rows of several record sets, each list in their order. -/
def RecordSet.concat : List RecordSet → RecordSet
  | [] => {}
  | head :: tail => head ++ concat tail

/-- The sum of several counters. -/
def Counts.total : List Counts → Counts
  | [] => {}
  | head :: tail => head + total tail

/-- A list of rows that adds up under `++` is collected set by set. -/
theorem RecordSet.concat_rows {α : Type} (rows : RecordSet → List α) (empty : rows {} = [])
    (append : ∀ first second : RecordSet, rows (first ++ second) = rows first ++ rows second)
    (sets : List RecordSet) : rows (concat sets) = sets.flatMap rows := by
  induction sets with
  | nil => exact empty
  | cons head tail ih => rw [concat, append, ih, List.flatMap_cons]

/-! ## Shares -/

/-- What one node adds to a build. -/
structure Share where
  records : RecordSet := {}
  failures : List Failure := []
  counts : Counts := {}
deriving DecidableEq, Repr

/-- The rows of a contribution. A pending membership becomes the row that the second pass gives
it, if any. -/
def Contribution.records (memberRow? : PendingMember → Option MemberType) :
    Contribution → RecordSet
  | .nothing => {}
  | .usage astNode => { astNodes := [astNode] }
  | .declaration rows => {
      astNodes := [rows.astNode]
      entities := [rows.entity]
      relations := rows.bases.map fun base => ⟨base.kind, rows.entity.hash, base.hash⟩
      inheritances := rows.bases.map fun base => ⟨base.hash, rows.entity.hash⟩
      memberTypes := rows.member.toList.filterMap memberRow?
      docComments := rows.docComment.toList }

/-- How many of some remarks are on placeholders and on references left out. -/
def Counts.ofRemarks (remarks : List Remark) : Counts where
  placeholders := remarks.countP fun
    | .placeholder _ => true
    | _ => false
  skippedReferences := remarks.countP fun
    | .skippedReference _ => true
    | _ => false

/-- What an outcome adds to a build: rows or a failure, and what it counts either way. -/
def Outcome.share (memberRow? : PendingMember → Option MemberType) (outcome : Outcome) : Share :=
  match outcome.result with
  | .ok contribution => ⟨contribution.records memberRow?, [], .ofRemarks outcome.remarks⟩
  | .error failure => ⟨{}, [failure], .ofRemarks outcome.remarks⟩

/-- A build whose second pass is given. -/
def Build.ofOutcomes (link : PendingMember → Link) (outcomes : List (NodeId × Outcome)) : Build :=
  ⟨outcomes, ((declarations outcomes).filterMap (·.member)).map link⟩

namespace SourceUnit

/-- A node with all that its outcome depends on. -/
def context (config : Config) (unit : SourceUnit) (id : NodeId) (node : SyntaxNode) :
    NodeContext :=
  ⟨config, unit, LineMap.ofText unit.source, id, node⟩

/-- The hashes that have an entity after the first pass. -/
def emitted (config : Config) (unit : SourceUnit) : Std.HashSet EntityHash :=
  .ofList ((declarations (unit.outcomes config)).map (·.entity.hash))

/-- The row that the second pass gives to a pending membership, if any. -/
def memberRow? (config : Config) (unit : SourceUnit) (pending : PendingMember) :
    Option MemberType :=
  (unit.link (unit.emitted config) pending).row?

/-- What a node adds to the build of its unit. -/
def share (config : Config) (unit : SourceUnit) (id : NodeId) (node : SyntaxNode) : Share :=
  (unit.context config id node).outcome.share (unit.memberRow? config)

/-- What the nodes of a unit add to its build, in the order of the nodes. -/
def shares (config : Config) (unit : SourceUnit) : List Share :=
  unit.entries.map fun (id, node) => unit.share config id node

end SourceUnit

/-! ## A build is the sum of its shares -/

theorem RecordSet.append_eq (first second : RecordSet) :
    first ++ second =
      ⟨first.astNodes ++ second.astNodes, first.entities ++ second.entities,
        first.relations ++ second.relations, first.inheritances ++ second.inheritances,
        first.memberTypes ++ second.memberTypes, first.docComments ++ second.docComments⟩ := rfl

theorem Counts.add_eq (first second : Counts) :
    first + second = ⟨first.placeholders + second.placeholders,
      first.skippedReferences + second.skippedReferences⟩ := rfl

namespace Build

variable (link : PendingMember → Link)

/-- One more node in front adds its rows in front of the others. -/
theorem records_cons (entry : NodeId × Outcome) (rest : List (NodeId × Outcome)) :
    (ofOutcomes link (entry :: rest)).records =
      (entry.2.share fun pending => (link pending).row?).records ++
        (ofOutcomes link rest).records := by
  obtain ⟨id, remarks, result⟩ := entry
  cases result with
  | error failure => rfl
  | ok contribution =>
      cases contribution with
      | nothing => rfl
      | usage astNode => rfl
      | declaration rows =>
          have declared : declarations ((id, ⟨remarks, .ok (.declaration rows)⟩) :: rest) =
              rows :: declarations rest := rfl
          rw [RecordSet.append_eq]
          simp only [records, bases, ofOutcomes, declared, RecordSet.mk.injEq]
          refine ⟨rfl, rfl, ?_, ?_, ?_, ?_⟩
          · simp [Outcome.share, Contribution.records]
          · simp [Outcome.share, Contribution.records]
          · cases member : rows.member <;>
              simp [Outcome.share, Contribution.records, List.filterMap_cons, member]
            split <;> simp [*]
          · cases comment : rows.docComment <;>
              simp [Outcome.share, Contribution.records, comment]

theorem records_ofOutcomes (outcomes : List (NodeId × Outcome)) :
    (ofOutcomes link outcomes).records =
      .concat (outcomes.map fun entry =>
        (entry.2.share fun pending => (link pending).row?).records) := by
  induction outcomes with
  | nil => rfl
  | cons entry rest ih => rw [records_cons, ih, List.map_cons, RecordSet.concat]

theorem failures_ofOutcomes (outcomes : List (NodeId × Outcome)) :
    (ofOutcomes link outcomes).failures =
      outcomes.flatMap fun entry =>
        (entry.2.share fun pending => (link pending).row?).failures := by
  induction outcomes with
  | nil => rfl
  | cons entry rest ih =>
      rw [List.flatMap_cons, ← ih]
      obtain ⟨id, remarks, result⟩ := entry
      cases result <;> rfl

theorem counts_cons (entry : NodeId × Outcome) (rest : List (NodeId × Outcome)) :
    (ofOutcomes link (entry :: rest)).counts =
      .ofRemarks entry.2.remarks + (ofOutcomes link rest).counts := by
  have remarks : (ofOutcomes link (entry :: rest)).remarks =
      entry.2.remarks ++ (ofOutcomes link rest).remarks := rfl
  unfold counts
  rw [remarks, List.countP_append, List.countP_append]
  rfl

theorem counts_ofOutcomes (outcomes : List (NodeId × Outcome)) :
    (ofOutcomes link outcomes).counts =
      .total (outcomes.map fun entry =>
        (entry.2.share fun pending => (link pending).row?).counts) := by
  induction outcomes with
  | nil => rfl
  | cons entry rest ih =>
      rw [counts_cons, ih, List.map_cons, Counts.total]
      obtain ⟨id, remarks, result⟩ := entry
      cases result <;> rfl

end Build

namespace SourceUnit

variable (config : Config) (unit : SourceUnit)

theorem build_eq_ofOutcomes :
    unit.build config =
      .ofOutcomes (unit.link (unit.emitted config)) (unit.outcomes config) := rfl

theorem outcomes_eq :
    unit.outcomes config =
      unit.entries.map fun (id, node) => (id, (unit.context config id node).outcome) := by
  unfold outcomes contexts
  rw [List.map_map]
  rfl

/-- The rows of a build are those of its shares, list by list and in the order of the nodes. -/
theorem build_records :
    (unit.build config).records = .concat ((unit.shares config).map (·.records)) := by
  rw [build_eq_ofOutcomes, Build.records_ofOutcomes, outcomes_eq, shares, List.map_map,
    List.map_map]
  rfl

theorem build_failures :
    (unit.build config).failures = (unit.shares config).flatMap (·.failures) := by
  rw [build_eq_ofOutcomes, Build.failures_ofOutcomes, outcomes_eq, shares, List.flatMap_map,
    List.flatMap_map]
  rfl

theorem build_counts :
    (unit.build config).counts = .total ((unit.shares config).map (·.counts)) := by
  rw [build_eq_ofOutcomes, Build.counts_ofOutcomes, outcomes_eq, shares, List.map_map,
    List.map_map]
  rfl

/-! ## Builds as shares -/

end SourceUnit

instance : Append Share where
  append first second := {
    records := first.records ++ second.records
    failures := first.failures ++ second.failures
    counts := first.counts + second.counts }

namespace Share

/-- The sum of several shares, in their order. -/
def sum : List Share → Share
  | [] => {}
  | head :: tail => head ++ sum tail

/-- The share without its memberships, which depend on other nodes as well. -/
def withoutMembers (share : Share) : Share :=
  { share with records := { share.records with memberTypes := [] } }

theorem append_eq (first second : Share) :
    first ++ second = ⟨first.records ++ second.records, first.failures ++ second.failures,
      first.counts + second.counts⟩ := rfl

theorem nil_append (share : Share) : {} ++ share = share := by
  rw [append_eq, RecordSet.append_eq, Counts.add_eq]
  simp only [List.nil_append, Nat.zero_add]

theorem append_nil (share : Share) : share ++ {} = share := by
  rw [append_eq, RecordSet.append_eq, Counts.add_eq]
  simp only [List.append_nil, Nat.add_zero]

theorem append_assoc (first second third : Share) :
    first ++ second ++ third = first ++ (second ++ third) := by
  simp only [append_eq, RecordSet.append_eq, Counts.add_eq, List.append_assoc, Nat.add_assoc]

theorem sum_append (first second : List Share) :
    sum (first ++ second) = sum first ++ sum second := by
  induction first with
  | nil => exact (nil_append _).symm
  | cons head tail ih => rw [List.cons_append, sum, sum, ih, append_assoc]

theorem sum_withoutMembers (shares : List Share) :
    (sum shares).withoutMembers = sum (shares.map (·.withoutMembers)) := by
  induction shares with
  | nil => rfl
  | cons head tail ih =>
      rw [List.map_cons, sum, sum, ← ih]
      rfl

theorem sum_eq (shares : List Share) :
    sum shares = ⟨.concat (shares.map (·.records)), shares.flatMap (·.failures),
      .total (shares.map (·.counts))⟩ := by
  induction shares with
  | nil => rfl
  | cons head tail ih =>
      rw [sum, ih]
      rfl

end Share

/-- What all nodes together give to a build. -/
def Build.share (build : Build) : Share := ⟨build.records, build.failures, build.counts⟩

theorem Build.share_ofOutcomes (link : PendingMember → Link) (outcomes : List (NodeId × Outcome)) :
    (ofOutcomes link outcomes).share =
      .sum (outcomes.map fun entry => entry.2.share fun pending => (link pending).row?) := by
  unfold share
  rw [records_ofOutcomes, failures_ofOutcomes, counts_ofOutcomes, Share.sum_eq, List.map_map,
    List.map_map, List.flatMap_map]
  rfl

/-- A build is the sum of what its nodes give. -/
theorem SourceUnit.build_share (config : Config) (unit : SourceUnit) :
    (unit.build config).share = .sum (unit.shares config) := by
  rw [build_eq_ofOutcomes, Build.share_ofOutcomes, outcomes_eq, shares, List.map_map]
  rfl

/-- Without its memberships, the share of an outcome does not depend on the second pass. -/
theorem Outcome.share_withoutMembers (memberRow? memberRow?' : PendingMember → Option MemberType)
    (outcome : Outcome) :
    (outcome.share memberRow?).withoutMembers = (outcome.share memberRow?').withoutMembers := by
  obtain ⟨remarks, result⟩ := outcome
  cases result with
  | error failure => rfl
  | ok contribution => cases contribution <;> rfl

namespace SourceUnit

variable (config : Config) (unit : SourceUnit)

/-! ## Nodes in order -/

theorem mem_entries {unit : SourceUnit} {id : NodeId} {node : SyntaxNode} :
    (id, node) ∈ unit.entries ↔ unit.node? id = some node := by
  unfold entries node?
  rw [← Array.getElem?_toList, ← List.mk_mem_zipIdx_iff_getElem?]
  constructor
  · intro member
    obtain ⟨⟨found, place⟩, inZip, same⟩ := List.mem_map.mp member
    cases same
    exact inZip
  · exact fun inZip => List.mem_map.mpr ⟨(node, id), inZip, rfl⟩

/-- The ids of the nodes are the places of the nodes, in order. -/
theorem entries_ids : unit.entries.map (·.1) = List.range unit.nodes.size := by
  unfold entries
  rw [List.map_map, List.range_eq_range', ← Array.length_toList]
  exact List.zipIdx_map_snd 0 unit.nodes.toList

theorem length_shares : (unit.shares config).length = unit.nodes.size := by
  simp [shares, entries]

theorem getElem?_shares (id : NodeId) :
    (unit.shares config)[id]? = (unit.node? id).map (unit.share config id) := by
  unfold shares entries node?
  rw [List.getElem?_map, List.getElem?_map, List.getElem?_zipIdx, Array.getElem?_toList]
  cases unit.nodes[id]? <;> simp

theorem entries_pairwise : unit.entries.Pairwise fun first second => first.1 < second.1 := by
  rw [← List.pairwise_map (f := Prod.fst) (R := (· < ·)), entries_ids]
  exact List.pairwise_lt_range

end SourceUnit

end CodeIndex

import CodeIndex.Outcome
import Std.Data.HashSet

/-!
# Building the rows of a unit

Building takes two passes. The first gives every node's outcome, in the order of the nodes; the
second confirms the pending memberships. A membership holds if its owner can be named and gave
an entity in the same build; a member of a type without rows is dropped.

`Build` keeps what the passes found. The rows (`Build.records`), the failures
(`Build.failures`) and the counters (`Build.counts`) are read off from it.
-/

namespace CodeIndex

/-- What became of a pending membership: a row, nothing because the owner gave no rows, or
nothing because the owner cannot be named. -/
inductive Link where
  | linked (row : MemberType)
  | dropped (owner : NodeId) (member : EntityHash)
  | unnamed
deriving DecidableEq, Repr

/-- The row of a confirmed membership. -/
def Link.row? : Link → Option MemberType
  | .linked row => some row
  | _ => none

/-- What the two passes over a unit found. -/
structure Build where
  outcomes : List (NodeId × Outcome)
  links : List Link
deriving Repr

namespace SourceUnit

/-- Every node of the unit with what its outcome depends on. -/
def contexts (config : Config) (unit : SourceUnit) : List NodeContext :=
  let lines := LineMap.ofText unit.source
  unit.entries.map fun (id, node) => ⟨config, unit, lines, id, node⟩

/-- The outcomes of the nodes, in their order. -/
def outcomes (config : Config) (unit : SourceUnit) : List (NodeId × Outcome) :=
  (unit.contexts config).map fun context => (context.id, context.outcome)

/-- What becomes of a pending membership, given the hashes that have an entity. -/
def link (unit : SourceUnit) (emitted : Std.HashSet EntityHash) (pending : PendingMember) :
    Link :=
  match unit.typeIdentity pending.owner with
  | .error _ => .unnamed
  | .ok owner =>
    if emitted.contains owner.key.hash then
      .linked ⟨owner.key.hash, pending.memberHash, pending.kind, pending.visibility,
        pending.astNodeId⟩
    else .dropped pending.owner pending.memberHash

end SourceUnit

/-! ## Views of the first pass -/

/-- The rows of the nodes that did not fail, in the order of the nodes. -/
def contributions (outcomes : List (NodeId × Outcome)) : List Contribution :=
  outcomes.filterMap fun (_, outcome) => outcome.result.toOption

/-- The declarations among the outcomes. -/
def declarations (outcomes : List (NodeId × Outcome)) : List Declaration :=
  (contributions outcomes).filterMap (·.declaration?)

namespace SourceUnit

/-- The second pass: what becomes of the memberships that wait after the first one. -/
def links (unit : SourceUnit) (outcomes : List (NodeId × Outcome)) : List Link :=
  let declared := declarations outcomes
  let emitted := Std.HashSet.ofList (declared.map (·.entity.hash))
  (declared.filterMap (·.member)).map (unit.link emitted)

/-- Both passes over a unit. -/
def build (config : Config) (unit : SourceUnit) : Build :=
  let outcomes := unit.outcomes config
  ⟨outcomes, unit.links outcomes⟩

end SourceUnit

namespace Build

/-- The failures of the nodes, in their order. -/
def failures (build : Build) : List Failure :=
  build.outcomes.filterMap fun (_, outcome) =>
    match outcome.result with
    | .error failure => some failure
    | .ok _ => none

/-- The remarks on all nodes, in their order. -/
def remarks (build : Build) : List Remark :=
  build.outcomes.flatMap fun (_, outcome) => outcome.remarks

/-- The edges of the declared types, with the hash of the type that each one starts from. -/
def bases (build : Build) : List (EntityHash × Base) :=
  (declarations build.outcomes).flatMap fun rows => rows.bases.map (rows.entity.hash, ·)

/-- The rows of the unit. -/
def records (build : Build) : RecordSet where
  astNodes := (contributions build.outcomes).filterMap (·.astNode?)
  entities := (declarations build.outcomes).map (·.entity)
  relations := build.bases.map fun (derived, base) => ⟨base.kind, derived, base.hash⟩
  inheritances := build.bases.map fun (derived, base) => ⟨base.hash, derived⟩
  memberTypes := build.links.filterMap (·.row?)
  docComments := (declarations build.outcomes).filterMap (·.docComment)

/-- How many placeholders were used and references left out. Each has its remark, also where
the node failed later on. -/
def counts (build : Build) : Counts where
  placeholders := build.remarks.countP fun
    | .placeholder _ => true
    | _ => false
  skippedReferences := build.remarks.countP fun
    | .skippedReference _ => true
    | _ => false

end Build

end CodeIndex

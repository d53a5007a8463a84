import CodeIndex.Proofs.Outcome
import CodeIndex.Proofs.Share
import Mathlib.Data.List.Basic

/-!
# A build accounts for every node

No node is lost and none counts twice: what a build holds is what its nodes gave, and what a
node gives is settled by its kind.

* `Share.Suits` lists what a node of each kind may give; `share_suits` says that every node
  keeps to it.
* `SourceUnit.declared` are the declarations of a build with their nodes; entities, declaring
  places and documentation are three views of that one list.
* `build_accounted` puts the two together for every build.
-/

namespace CodeIndex

/-! ## What a node may give -/

/-- What the node of a context may give to a build.

* `declared`, `failed`: a node that declares an entity gives one entity with the place that
  declares it, and documentation where there is some and it is wanted; or it gives one failure
  and no row at all.
* `anonymousClass`, `failedClass`: an anonymous class gives no row and at most one failure.
* `used`, `skipped`, `failedCall`: a call that is wanted gives one usage of its target, or is
  counted as left out because it has none, or fails; `unwanted`: otherwise it gives nothing.
* `other`: any other node gives nothing. -/
inductive Share.Suits (context : NodeContext) (share : Share) : Prop
  | declared (rows : Declaration) (kind : context.node.kind.declares = true)
      (isOf : rows.IsOf context) (entities : share.records.entities = [rows.entity])
      (astNodes : share.records.astNodes = [rows.astNode])
      (docComments : share.records.docComments = rows.docComment.toList)
      (failures : share.failures = [])
  | failed (failure : Failure) (kind : context.node.kind.declares = true)
      (records : share.records = {}) (failures : share.failures = [failure])
      (subject : failure.subject = .node context.id)
  | anonymousClass (body : AnonymousClass) (kind : context.node.kind = .anonymousClass body)
      (records : share.records = {}) (failures : share.failures = [])
  | failedClass (body : AnonymousClass) (failure : Failure)
      (kind : context.node.kind = .anonymousClass body) (records : share.records = {})
      (failures : share.failures = [failure]) (subject : failure.subject = .node context.id)
  | used (call : Invocation) (target : MethodBinding) (key : Key) (astNode : AstNode)
      (kind : context.node.kind = .invocation call) (wanted : context.config.emitUsages = true)
      (resolved : call.target = some target) (keyed : target.key = .ok key)
      (place : astNode.IsPlaceOf context) (usage : astNode.astKind = .usage)
      (hash : astNode.entityHash = key.hash)
      (share_eq : share = ⟨{ astNodes := [astNode] }, [], {}⟩)
  | skipped (call : Invocation) (kind : context.node.kind = .invocation call)
      (wanted : context.config.emitUsages = true) (unresolved : call.target = none)
      (share_eq : share = ⟨{}, [], { skippedReferences := 1 }⟩)
  | failedCall (call : Invocation) (failure : Failure)
      (kind : context.node.kind = .invocation call) (wanted : context.config.emitUsages = true)
      (subject : failure.subject = .node context.id) (share_eq : share = ⟨{}, [failure], {}⟩)
  | unwanted (call : Invocation) (kind : context.node.kind = .invocation call)
      (unwanted : context.config.emitUsages = false) (share_eq : share = {})
  | other (kind : context.node.kind = .other) (share_eq : share = {})

namespace Outcome

variable {memberRow? : PendingMember → Option MemberType} {outcome : Outcome}

theorem share_of_ok {contribution : Contribution} (result : outcome.result = .ok contribution) :
    outcome.share memberRow? =
      ⟨contribution.records memberRow?, [], .ofRemarks outcome.remarks⟩ := by
  unfold share
  rw [result]

theorem share_of_error {failure : Failure} (result : outcome.result = .error failure) :
    outcome.share memberRow? = ⟨{}, [failure], .ofRemarks outcome.remarks⟩ := by
  unfold share
  rw [result]

end Outcome

/-- The share of an outcome suits the kind of its node. -/
theorem share_suits (memberRow? : PendingMember → Option MemberType) (context : NodeContext) :
    (context.outcome.share memberRow?).Suits context := by
  by_cases declares : context.node.kind.declares = true
  · rcases context.outcome_declares declares with ⟨rows, result, isOf⟩ | ⟨failure, failed, about⟩
    · rw [Outcome.share_of_ok result]
      exact .declared rows declares isOf rfl rfl rfl rfl
    · rw [Outcome.share_of_error failed]
      exact .failed failure declares rfl rfl about
  · cases kind : context.node.kind with
    | anonymousClass body =>
        rcases context.outcome_anonymousClass kind with result | ⟨failure, failed, about⟩
        · rw [Outcome.share_of_ok result]
          exact .anonymousClass body kind rfl rfl
        · rw [Outcome.share_of_error failed]
          exact .failedClass body failure kind rfl rfl about
    | invocation call =>
        cases wanted : context.config.emitUsages with
        | false =>
            rw [context.outcome_invocation_unwanted kind wanted]
            exact .unwanted call kind wanted rfl
        | true =>
            cases resolved : call.target with
            | none =>
                rw [context.outcome_invocation_unresolved kind wanted resolved]
                exact .skipped call kind wanted resolved rfl
            | some target =>
                obtain ⟨quiet, ⟨key, astNode, keyed, result, place, hash, usage⟩ |
                    ⟨failure, failed, about⟩⟩ :=
                  context.outcome_invocation_resolved kind wanted resolved
                · rw [Outcome.share_of_ok result, quiet]
                  exact .used call target key astNode kind wanted resolved keyed place usage hash
                    rfl
                · rw [Outcome.share_of_error failed, quiet]
                  exact .failedCall call failure kind wanted about rfl
    | other =>
        rw [context.outcome_other kind]
        exact .other kind rfl
    | _ => simp [kind, NodeKind.declares] at declares

/-- A node gives at most one row for a place, and that is its own place. -/
theorem share_astNodes (config : Config) (unit : SourceUnit) (id : NodeId) (node : SyntaxNode) :
    (unit.share config id node).records.astNodes = [] ∨
      ∃ astNode, (unit.share config id node).records.astNodes = [astNode] ∧
        astNode.IsPlaceOf (unit.context config id node) := by
  have suits : (unit.share config id node).Suits (unit.context config id node) := share_suits _ _
  cases suits with
  | declared rows kind isOf entities astNodes => exact .inr ⟨rows.astNode, astNodes, isOf.place⟩
  | failed failure kind records => exact .inl (congrArg RecordSet.astNodes records)
  | anonymousClass body kind records => exact .inl (congrArg RecordSet.astNodes records)
  | failedClass body failure kind records => exact .inl (congrArg RecordSet.astNodes records)
  | used call target key astNode kind wanted resolved keyed place usage hash share_eq =>
      exact .inr ⟨astNode, congrArg (·.records.astNodes) share_eq, place⟩
  | skipped call kind wanted unresolved share_eq =>
      exact .inl (congrArg (·.records.astNodes) share_eq)
  | failedCall call failure kind wanted subject share_eq =>
      exact .inl (congrArg (·.records.astNodes) share_eq)
  | unwanted call kind unwanted share_eq => exact .inl (congrArg (·.records.astNodes) share_eq)
  | other kind share_eq => exact .inl (congrArg (·.records.astNodes) share_eq)

/-! ## Three views of the declarations -/

/-- The declarations of a build, each with the node that gave it, in the order of the nodes. -/
def SourceUnit.declared (config : Config) (unit : SourceUnit) : List (NodeId × Declaration) :=
  unit.entries.filterMap fun (id, node) =>
    (unit.context config id node).outcome.declaration?.map (id, ·)

/-- The row declares an entity; usages only refer to one. -/
def AstNode.isDeclaring (astNode : AstNode) : Bool := astNode.astKind != .usage

section Views

variable (memberRow? : PendingMember → Option MemberType) (context : NodeContext)

/-- A list of rows that usages add nothing to is, in every share, what the declaration of the
share adds to it. -/
theorem share_view {α : Type} (view : RecordSet → List α) (pick : Declaration → List α)
    (empty : view {} = [])
    (usage : ∀ astNode, context.outcome.result = .ok (.usage astNode) →
      view { astNodes := [astNode] } = [])
    (declaration : ∀ rows, context.outcome.declaration? = some rows →
      view ((Contribution.declaration rows).records memberRow?) = pick rows) :
    view (context.outcome.share memberRow?).records =
      context.outcome.declaration?.toList.flatMap pick := by
  cases result : context.outcome.result with
  | error failure =>
      rw [Outcome.share_of_error result, Outcome.declaration?_of_error result]
      exact empty
  | ok contribution =>
      have given := Outcome.declaration?_of_ok result
      rw [Outcome.share_of_ok result, given]
      cases contribution with
      | nothing => exact empty
      | usage astNode => exact usage astNode result
      | declaration rows => exact (declaration rows given).trans (List.flatMap_singleton ..).symm

/-- A usage row comes out of a call. -/
theorem used_of_result {astNode : AstNode}
    (result : context.outcome.result = .ok (.usage astNode)) :
    (∃ call, context.node.kind = .invocation call) ∧ astNode.astKind = .usage := by
  have suits := share_suits (fun _ => none) context
  rw [Outcome.share_of_ok result] at suits
  cases suits with
  | declared rows kind isOf entities => cases entities
  | failed failure kind records failures => cases failures
  | anonymousClass body kind records => cases records
  | failedClass body failure kind records failures => cases failures
  | used call target key found kind wanted resolved keyed place usage hash share_eq =>
      have same : [astNode] = [found] := congrArg (·.records.astNodes) share_eq
      cases same
      exact ⟨⟨call, kind⟩, usage⟩
  | skipped call kind wanted unresolved share_eq => cases congrArg (·.records) share_eq
  | failedCall call failure kind wanted subject share_eq => cases congrArg (·.records) share_eq
  | unwanted call kind unwanted share_eq => cases congrArg (·.records) share_eq
  | other kind share_eq => cases congrArg (·.records) share_eq

/-- A node fails at most once, and over itself. -/
theorem share_failures :
    (context.outcome.share memberRow?).failures = [] ∨
      ∃ failure, (context.outcome.share memberRow?).failures = [failure] ∧
        failure.subject = .node context.id := by
  cases share_suits memberRow? context with
  | declared rows kind isOf entities astNodes docComments failures => exact .inl failures
  | failed failure kind records failures subject => exact .inr ⟨failure, failures, subject⟩
  | anonymousClass body kind records failures => exact .inl failures
  | failedClass body failure kind records failures subject =>
      exact .inr ⟨failure, failures, subject⟩
  | used call target key astNode kind wanted resolved keyed place usage hash share_eq =>
      exact .inl (share_eq ▸ rfl)
  | skipped call kind wanted unresolved share_eq => exact .inl (share_eq ▸ rfl)
  | failedCall call failure kind wanted subject share_eq =>
      exact .inr ⟨failure, share_eq ▸ rfl, subject⟩
  | unwanted call kind unwanted share_eq => exact .inl (share_eq ▸ rfl)
  | other kind share_eq => exact .inl (share_eq ▸ rfl)

end Views

namespace SourceUnit

variable (config : Config) (unit : SourceUnit)

theorem declared_pairwise :
    (unit.declared config).Pairwise fun first second => first.1 < second.1 := by
  unfold declared
  refine unit.entries_pairwise.filterMap _ ?_
  intro first second before found given found' given'
  obtain ⟨rows, _, rfl⟩ := Option.map_eq_some_iff.mp given
  obtain ⟨rows', _, rfl⟩ := Option.map_eq_some_iff.mp given'
  exact before

theorem mem_declared {config : Config} {unit : SourceUnit} {id : NodeId} {rows : Declaration} :
    (id, rows) ∈ unit.declared config ↔
      ∃ node, unit.node? id = some node ∧
        (unit.context config id node).outcome.declaration? = some rows := by
  unfold declared
  rw [List.mem_filterMap]
  constructor
  · rintro ⟨⟨other, node⟩, present, given⟩
    obtain ⟨found, declares, same⟩ := Option.map_eq_some_iff.mp given
    cases same
    exact ⟨node, mem_entries.mp present, declares⟩
  · rintro ⟨node, present, declares⟩
    exact ⟨(id, node), mem_entries.mpr present, Option.map_eq_some_iff.mpr ⟨rows, declares, rfl⟩⟩

/-- The entity of a declared node has the hash of the identity of that node. -/
theorem identity_of_mem_declared {config : Config} {unit : SourceUnit} {id : NodeId}
    {node : SyntaxNode} {rows : Declaration} {result : Except IdentityError NodeIdentity}
    (present : unit.node? id = some node) (identified : unit.identity? id node.kind = some result)
    (member : (id, rows) ∈ unit.declared config) :
    ∃ identity, result = .ok identity ∧ rows.entity.hash = identity.key.hash := by
  obtain ⟨found, foundPresent, given⟩ := mem_declared.mp member
  obtain rfl : found = node := Option.some.inj (foundPresent.symm.trans present)
  obtain ⟨identity, same, hash, _⟩ := (NodeContext.isOf_of_declaration? given).identity
  exact ⟨identity, Option.some.inj (identified.symm.trans same), hash⟩

/-- A list of rows that usages add nothing to is collected from the declarations of a build. -/
theorem view_eq_declared {α : Type} (view : RecordSet → List α) (pick : Declaration → List α)
    (empty : view {} = [])
    (append : ∀ first second : RecordSet, view (first ++ second) = view first ++ view second)
    (usage : ∀ astNode : AstNode, astNode.astKind = .usage → view { astNodes := [astNode] } = [])
    (declaration : ∀ rows : Declaration, rows.astNode.astKind ≠ .usage →
      view ((Contribution.declaration rows).records (unit.memberRow? config)) = pick rows) :
    view (unit.build config).records =
      (unit.declared config).flatMap fun entry => pick entry.2 := by
  rw [build_records, RecordSet.concat_rows view empty append, shares, List.map_map,
    List.flatMap_map, declared, List.filterMap_eq_flatMap_toList, List.flatMap_assoc]
  refine List.flatMap_congr ?_
  rintro ⟨id, node⟩ _
  have shown := share_view (unit.memberRow? config) (unit.context config id node) view pick empty
    (fun astNode result => usage astNode (used_of_result _ result).2)
    fun rows given => declaration rows (NodeContext.isOf_of_declaration? given).astKind
  show view (unit.share config id node).records = _
  rw [share, shown]
  cases given : (unit.context config id node).outcome.declaration? <;> simp [given]

theorem build_entities :
    (unit.build config).records.entities = (unit.declared config).map (·.2.entity) := by
  rw [List.map_eq_flatMap]
  exact unit.view_eq_declared config (·.entities) (fun rows => [rows.entity]) rfl
    (fun _ _ => rfl) (fun _ _ => rfl) fun _ _ => rfl

/-- The declaring places of a build are those of its declarations: a usage declares nothing, and
a declaration is no usage. -/
theorem build_declaring :
    (unit.build config).records.astNodes.filter (·.isDeclaring) =
      (unit.declared config).map (·.2.astNode) := by
  rw [List.map_eq_flatMap]
  refine unit.view_eq_declared config (·.astNodes.filter (·.isDeclaring))
    (fun rows => [rows.astNode]) rfl (fun _ _ => List.filter_append ..) ?_ ?_
  · intro astNode usage
    simp [AstNode.isDeclaring, usage]
  · intro rows declaring
    simp [Contribution.records, AstNode.isDeclaring, declaring]

theorem build_docComments :
    (unit.build config).records.docComments =
      (unit.declared config).filterMap (·.2.docComment) := by
  rw [List.filterMap_eq_flatMap_toList]
  exact unit.view_eq_declared config (·.docComments) (·.docComment.toList) rfl
    (fun _ _ => rfl) (fun _ _ => rfl) fun _ _ => rfl

/-- The nodes that failed, in their order. -/
def failedNodes (config : Config) (unit : SourceUnit) : List NodeId :=
  (unit.entries.filter fun (id, node) => !(unit.share config id node).failures.isEmpty).map (·.1)

theorem failedNodes_pairwise : (unit.failedNodes config).Pairwise (· < ·) := by
  unfold failedNodes
  rw [List.pairwise_map]
  exact unit.entries_pairwise.filter _

theorem build_failures_subjects :
    (unit.build config).failures.map (·.subject) = (unit.failedNodes config).map .node := by
  rw [build_failures, shares, List.flatMap_map, failedNodes]
  -- node by node: the first one is listed as failed when its share has a failure, which is its own
  induction unit.entries with
  | nil => rfl
  | cons entry rest ih =>
      obtain ⟨id, node⟩ := entry
      rw [List.flatMap_cons, List.map_append, ih, List.filter_cons]
      rcases share_failures (unit.memberRow? config) (unit.context config id node) with
        none | ⟨failure, one, subject⟩
      · simp [share, none]
      · have same : failure.subject = .node id := subject
        simp [share, one, same]

theorem mem_failedNodes {config : Config} {unit : SourceUnit} {id : NodeId} {node : SyntaxNode}
    (present : unit.node? id = some node) :
    id ∈ unit.failedNodes config ↔ (unit.share config id node).failures ≠ [] := by
  unfold failedNodes
  simp only [List.mem_map, List.mem_filter, Prod.exists, exists_and_right, exists_eq_right]
  constructor
  · rintro ⟨other, found, failed⟩
    obtain rfl : other = node := Option.some.inj ((mem_entries.mp found).symm.trans present)
    simpa using failed
  · intro failed
    exact ⟨node, mem_entries.mpr present, by simpa using failed⟩

/-- A node is outside the nodes that failed when no failure of the build is about it. -/
theorem not_mem_failedNodes {config : Config} {unit : SourceUnit} {id : NodeId} :
    id ∉ unit.failedNodes config ↔
      ∀ failure ∈ (unit.build config).failures, failure.subject ≠ .node id := by
  have listed : id ∈ unit.failedNodes config ↔
      Subject.node id ∈ (unit.build config).failures.map (·.subject) := by
    rw [unit.build_failures_subjects config]
    exact (List.mem_map_of_injective fun _ _ same => Subject.node.inj same).symm
  rw [listed]
  simp

/-- A node that declares an entity is among the declarations exactly when it did not fail. -/
theorem mem_declared_iff_not_failed {config : Config} {unit : SourceUnit} {id : NodeId}
    {node : SyntaxNode} (present : unit.node? id = some node)
    (declares : node.kind.declares = true) :
    (∃ rows, (id, rows) ∈ unit.declared config) ↔ id ∉ unit.failedNodes config := by
  rw [mem_failedNodes present]
  rcases (unit.context config id node).outcome_declares declares with
    ⟨rows, result, _⟩ | ⟨failure, failed, _⟩
  · have spared : (unit.share config id node).failures = [] := by
      rw [share, Outcome.share_of_ok result]
    refine iff_of_true ⟨rows, mem_declared.mpr ⟨node, present, ?_⟩⟩ (fun some => some spared)
    exact Outcome.declaration?_of_ok result
  · have noted : (unit.share config id node).failures = [failure] := by
      rw [share, Outcome.share_of_error failed]
    refine iff_of_false ?_ (fun none => none (by rw [noted]; exact List.cons_ne_nil _ _))
    rintro ⟨rows, member⟩
    obtain ⟨other, found, given⟩ := mem_declared.mp member
    obtain rfl : other = node := Option.some.inj (found.symm.trans present)
    rw [Outcome.declaration?_of_error failed] at given
    cases given

end SourceUnit

/-! ## Every build is accounted for -/

/-- A build holds what its nodes gave, once each and in their order.

* `records`, `failures`, `counts`: every list and counter is collected from the shares of the
  nodes, and from nothing else; `suits`: every share is one that the kind of its node allows.
* `increasing`: `SourceUnit.declared` runs through the nodes in order, and `isOf` says what it
  has for each. The entities, the declaring places and the documentation are views of it, so
  that the rows at one place in two of these lists come from one node; `linked`: these rows
  belong together.
* `either`: a node that declares an entity is among the declarations or among the failures,
  and never among both.
* `subjects`: the failures are about nodes, each about a later one than the failure before. -/
structure Accounted (config : Config) (unit : SourceUnit) : Prop where
  records : (unit.build config).records = .concat ((unit.shares config).map (·.records))
  failures : (unit.build config).failures = (unit.shares config).flatMap (·.failures)
  counts : (unit.build config).counts = .total ((unit.shares config).map (·.counts))
  suits : ∀ id node, unit.node? id = some node →
    (unit.share config id node).Suits (unit.context config id node)
  increasing : (unit.declared config).Pairwise fun first second => first.1 < second.1
  isOf : ∀ id rows, (id, rows) ∈ unit.declared config → ∃ node, unit.node? id = some node ∧
    node.kind.declares = true ∧ rows.IsOf (unit.context config id node)
  entities : (unit.build config).records.entities = (unit.declared config).map (·.2.entity)
  declaring : (unit.build config).records.astNodes.filter (·.isDeclaring) =
    (unit.declared config).map (·.2.astNode)
  docComments : (unit.build config).records.docComments =
    (unit.declared config).filterMap fun (id, rows) =>
      if config.emitDocComments then
        ((unit.node? id).bind (·.docComment)).map fun content =>
          ⟨content, hashText content, rows.entity.hash⟩
      else none
  linked : ∀ id rows, (id, rows) ∈ unit.declared config →
    rows.entity.hash = rows.astNode.entityHash ∧ rows.entity.astNodeId = rows.astNode.id
  either : ∀ id node, unit.node? id = some node → node.kind.declares = true →
    ((∃ rows, (id, rows) ∈ unit.declared config) ↔
      ∀ failure ∈ (unit.build config).failures, failure.subject ≠ .node id)
  subjects : ∃ ids : List NodeId, ids.Pairwise (· < ·) ∧
    (unit.build config).failures.map (·.subject) = ids.map .node

/-- Every build of every unit is accounted for, whatever its nodes and their parents are. -/
theorem build_accounted (config : Config) (unit : SourceUnit) : Accounted config unit where
  records := unit.build_records config
  failures := unit.build_failures config
  counts := unit.build_counts config
  suits := fun _ _ _ => share_suits _ _
  increasing := unit.declared_pairwise config
  isOf := by
    intro id rows member
    obtain ⟨node, present, given⟩ := SourceUnit.mem_declared.mp member
    exact ⟨node, present, NodeContext.declares_of_declaration? given,
      NodeContext.isOf_of_declaration? given⟩
  entities := unit.build_entities config
  declaring := unit.build_declaring config
  docComments := by
    rw [unit.build_docComments config]
    refine List.filterMap_congr ?_
    rintro ⟨id, rows⟩ member
    obtain ⟨node, present, given⟩ := SourceUnit.mem_declared.mp member
    simp only [present]
    exact (NodeContext.isOf_of_declaration? given).docComment
  linked := by
    intro id rows member
    obtain ⟨node, _, given⟩ := SourceUnit.mem_declared.mp member
    have isOf := NodeContext.isOf_of_declaration? given
    exact ⟨isOf.hash, isOf.astNodeId⟩
  either := by
    intro id node present declares
    rw [SourceUnit.mem_declared_iff_not_failed present declares]
    exact SourceUnit.not_mem_failedNodes
  subjects :=
    ⟨unit.failedNodes config, unit.failedNodes_pairwise config,
      unit.build_failures_subjects config⟩

end CodeIndex

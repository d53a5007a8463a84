import CodeIndex.Extraction
import CodeIndex.Proofs.Accounting
import CodeIndex.Proofs.Problems

/-!
# What a configuration leaves out

A configuration has no say in what a unit is found to hold, only in how much of that is given.

* `UnitExtraction.project` takes from the full extraction, the one with the default
  configuration, what another configuration leaves of it.
* `NodeContext.outcome_eq_project`: the outcome of a node is the full one with the text cut and
  the documentation left out as the user chose, unless it is that of a call that is not wanted.
* `share_records_project`, `share_failures_project` and `share_counts_full` say what becomes of
  the share of a node, calls included.
* `extraction_eq_project` puts this together: every extraction is what its configuration leaves
  of the full one.
-/

namespace CodeIndex

/-! ## Projections -/

/-- The row with no more of its text than a limit allows. -/
def AstNode.cut (limit : Option Nat) (astNode : AstNode) : AstNode :=
  match limit with
  | some limit => { astNode with value := String.ofList (astNode.value.toList.take limit) }
  | none => astNode

/-- What a configuration leaves of some rows: texts are cut, and usages and documentation are
left out where they are not wanted. -/
def RecordSet.project (config : Config) (records : RecordSet) : RecordSet :=
  { records with
    astNodes := (records.astNodes.filter fun astNode =>
      config.emitUsages || astNode.isDeclaring).map (·.cut config.maxValueLength)
    docComments := if config.emitDocComments then records.docComments else [] }

/-- Nodes of this kind are calls. -/
def NodeKind.isCall : NodeKind → Bool
  | .invocation _ => true
  | _ => false

/-- A node of this kind is a call without a target. -/
def NodeKind.isUnresolvedCall : NodeKind → Bool
  | .invocation call => call.target.isNone
  | _ => false

/-- The subject is a call of the unit. -/
def SourceUnit.isCall (unit : SourceUnit) : Subject → Bool
  | .node id => (unit.node? id).any (·.kind.isCall)
  | .problem _ => false

/-- How many calls of a unit have no target. -/
def SourceUnit.unresolvedCalls (unit : SourceUnit) : Nat :=
  unit.entries.countP (·.2.kind.isUnresolvedCall)

/-- What a configuration leaves of some failures: all, or all that are not about calls. -/
def SourceUnit.keptFailures (config : Config) (unit : SourceUnit) (failures : List Failure) :
    List Failure :=
  failures.filter fun failure => config.emitUsages || !unit.isCall failure.subject

/-- How many calls of a unit a configuration takes out of the references that were left out. -/
def SourceUnit.uncounted (config : Config) (unit : SourceUnit) : Nat :=
  if config.emitUsages then 0 else unit.unresolvedCalls

/-- What a configuration leaves of the full extraction of a unit. -/
def UnitExtraction.project (config : Config) (unit : SourceUnit) (full : UnitExtraction) :
    UnitExtraction :=
  { full with
    records := full.records.project config
    failures := unit.keptFailures config full.failures
    counts := { full.counts with
      skippedReferences := full.counts.skippedReferences - unit.uncounted config } }

/-- What a configuration leaves of a declaration. -/
def Declaration.project (config : Config) (rows : Declaration) : Declaration :=
  { rows with
    astNode := rows.astNode.cut config.maxValueLength
    docComment := if config.emitDocComments then rows.docComment else none }

/-- What a configuration leaves of the rows of a node, if it leaves any. -/
def Contribution.project (config : Config) : Contribution → Contribution
  | .nothing => .nothing
  | .declaration rows => .declaration (rows.project config)
  | .usage astNode => .usage (astNode.cut config.maxValueLength)

/-- The outcome with its rows cut; remarks and failures stay as they are. -/
def Outcome.project (config : Config) (outcome : Outcome) : Outcome :=
  { outcome with result := (·.project config) <$> outcome.result }

/-! ## The outcome of a node -/

namespace NodeContext

/-- The node with everything wanted and no limit. -/
def full (context : NodeContext) : NodeContext := { context with config := {} }

section Outcome

variable (context : NodeContext)

@[simp]
theorem full_unit : context.full.unit = context.unit := rfl

@[simp]
theorem full_id : context.full.id = context.id := rfl

@[simp]
theorem full_node : context.full.node = context.node := rfl

theorem astNode_eq_cut (hash : EntityHash) (symbolKind : SymbolKind) (astKind : AstKind) :
    context.astNode hash symbolKind astKind =
      (·.cut context.config.maxValueLength) <$> context.full.astNode hash symbolKind astKind := by
  simp only [astNode, full]
  cases context.lines.span context.node.start context.node.stop with
  | error error => rfl
  | ok location =>
      cases context.lines.slice context.node.start context.node.stop with
      | error error => rfl
      | ok text =>
          unfold Config.clip AstNode.cut
          cases context.config.maxValueLength <;> rfl

theorem declare_eq_project (identity : NodeIdentity) (shape : DeclarationShape) :
    context.declare identity shape =
      (·.project context.config) <$> context.full.declare identity shape := by
  simp only [declare, context.astNode_eq_cut]
  cases context.full.astNode identity.key.hash shape.symbolKind shape.astKind with
  | error failure => rfl
  | ok astNode =>
      -- entity and membership keep the number of the place
      have place : (astNode.cut context.config.maxValueLength).id = astNode.id := by
        cases context.config.maxValueLength <;> rfl
      refine congrArg Except.ok ?_
      simp only [Declaration.project, place]
      rfl

theorem declared_eq_project (earlier : List Remark) (identity : NodeIdentity)
    (shape : DeclarationShape) :
    context.declared earlier identity shape =
      (context.full.declared earlier identity shape).project context.config := by
  unfold declared
  rw [context.declare_eq_project]
  cases context.full.declare identity shape <;> rfl

theorem unidentified_eq_project (earlier : List Remark) (error : IdentityError) :
    context.unidentified earlier error =
      (context.full.unidentified earlier error).project context.config := rfl

theorem typedOutcome_eq_project (identity : Except IdentityError NodeIdentity)
    (declaredType : TypeRef) (isFinal isStatic : Bool) (shape : EntityDetail → DeclarationShape) :
    context.typedOutcome identity declaredType isFinal isStatic shape =
      (context.full.typedOutcome identity declaredType isFinal isStatic shape).project
        context.config := by
  unfold typedOutcome
  rw [context.full_id]
  cases identity with
  | error error => exact context.unidentified_eq_project [] error
  | ok identity =>
      cases typedDetail context.id isFinal isStatic declaredType with
      | error failure => rfl
      | ok detail => exact context.declared_eq_project [] identity _

theorem typeOutcome_eq_project (decl : TypeDecl) :
    context.typeOutcome decl = (context.full.typeOutcome decl).project context.config := by
  unfold typeOutcome
  rw [context.full_unit, context.full_id]
  cases context.unit.typeIdentity context.id with
  | error error => exact context.unidentified_eq_project [] error
  | ok identity =>
      rcases resolveBases decl.supertypes with ⟨remarks, error | bases⟩
      · exact context.unidentified_eq_project remarks error
      · exact context.declared_eq_project remarks identity _

theorem anonymousClassOutcome_eq_project :
    context.anonymousClassOutcome =
      context.full.anonymousClassOutcome.project context.config := by
  unfold anonymousClassOutcome
  rw [context.full_unit, context.full_id, context.full_node]
  cases context.unit.typeIdentity context.id with
  | error error => exact context.unidentified_eq_project [] error
  | ok identity => rfl

theorem enumConstantOutcome_eq_project (decl : EnumConstantDecl) :
    context.enumConstantOutcome decl =
      (context.full.enumConstantOutcome decl).project context.config := by
  unfold enumConstantOutcome
  rw [context.full_unit, context.full_id]
  cases context.unit.enumConstantIdentity context.id decl.name with
  | error error => exact context.unidentified_eq_project [] error
  | ok identity => exact context.declared_eq_project [] identity _

theorem invocationOutcome_eq_project (call : Invocation)
    (wanted : context.config.emitUsages = true) :
    context.invocationOutcome call =
      (context.full.invocationOutcome call).project context.config := by
  have all : context.full.config.emitUsages = true := rfl
  unfold invocationOutcome
  rw [wanted, all]
  cases call.target with
  | none => rfl
  | some target =>
      simp only [Bool.not_true, Bool.false_eq_true, if_false]
      cases target.key with
      | error error => exact context.unidentified_eq_project [] error
      | ok key =>
          simp only [context.astNode_eq_cut]
          cases context.full.astNode key.hash .method .usage <;> rfl

/-- The outcome of a node is what the choices leave of the full one, but for calls that are not
wanted. -/
theorem outcome_eq_project
    (wanted : context.node.kind.isCall = true → context.config.emitUsages = true) :
    context.outcome = context.full.outcome.project context.config := by
  unfold outcome
  rw [context.full_node]
  cases kind : context.node.kind with
  | namedType decl => exact context.typeOutcome_eq_project decl
  | anonymousClass body => exact context.anonymousClassOutcome_eq_project
  | enumConstant decl => exact context.enumConstantOutcome_eq_project decl
  | invocation call => exact context.invocationOutcome_eq_project call (wanted (by rw [kind]; rfl))
  | other => rfl
  | _ => exact context.typedOutcome_eq_project _ _ _ _ _

end Outcome

end NodeContext

/-! ## What a node adds to a build -/

theorem RecordSet.project_empty (config : Config) : RecordSet.project config {} = {} := by
  unfold project
  cases config.emitDocComments <;> rfl

theorem RecordSet.project_append (config : Config) (first second : RecordSet) :
    (first ++ second).project config = first.project config ++ second.project config := by
  simp only [append_eq, project, List.filter_append, List.map_append]
  cases config.emitDocComments <;> rfl

theorem RecordSet.project_concat (config : Config) (sets : List RecordSet) :
    (concat sets).project config = concat (sets.map (·.project config)) := by
  induction sets with
  | nil => exact project_empty config
  | cons head tail ih => rw [concat, project_append, ih, List.map_cons, concat]

/-- Where the place of a contribution is kept, its projection has the projected rows. -/
theorem Contribution.records_project (config : Config)
    (memberRow? : PendingMember → Option MemberType) {contribution : Contribution}
    (kept : ∀ astNode, contribution.astNode? = some astNode →
      (config.emitUsages || astNode.isDeclaring) = true) :
    (contribution.project config).records memberRow? =
      (contribution.records memberRow?).project config := by
  cases contribution with
  | nothing => exact (RecordSet.project_empty config).symm
  | usage astNode =>
      simp only [project, records, RecordSet.project, List.filter_cons, kept astNode rfl, if_true]
      cases config.emitDocComments <;> rfl
  | declaration rows =>
      simp only [project, records, RecordSet.project, List.filter_cons, kept rows.astNode rfl,
        if_true, Declaration.project]
      cases config.emitDocComments <;> rfl

section Shares

variable (memberRow? : PendingMember → Option MemberType) (context : NodeContext)

/-- Either the node is a call that is not wanted, or its outcome is kept. -/
theorem unwanted_or_kept :
    (∃ call, context.node.kind = .invocation call ∧ context.config.emitUsages = false) ∨
      (context.node.kind.isCall = true → context.config.emitUsages = true) := by
  cases wanted : context.config.emitUsages with
  | true => exact .inr fun _ => rfl
  | false =>
      cases kind : context.node.kind with
      | invocation call => exact .inl ⟨call, rfl, rfl⟩
      | _ => exact .inr fun isCall => by cases isCall

/-- The places that a node gives are kept, unless the node is a call that is not wanted. -/
theorem kept_of_astNode? {contribution : Contribution} {astNode : AstNode}
    (wanted : context.node.kind.isCall = true → context.config.emitUsages = true)
    (result : context.full.outcome.result = .ok contribution)
    (given : contribution.astNode? = some astNode) :
    (context.config.emitUsages || astNode.isDeclaring) = true := by
  cases contribution with
  | nothing => cases given
  | usage found =>
      obtain ⟨⟨call, kind⟩, _⟩ := used_of_result _ result
      rw [wanted (by rw [← context.full_node, kind]; rfl), Bool.true_or]
  | declaration rows =>
      obtain rfl : rows.astNode = astNode := Option.some.inj given
      have declaring := NodeContext.isOf_of_declaration? (Outcome.declaration?_of_ok result)
      simp [AstNode.isDeclaring, declaring.astKind]

/-- An unwanted call would give no row but a usage. -/
theorem project_of_unwanted {call : Invocation} (kind : context.node.kind = .invocation call)
    (unwanted : context.config.emitUsages = false) :
    (context.full.outcome.share memberRow?).records.project context.config = {} := by
  cases result : context.full.outcome.result with
  | error failure =>
      rw [Outcome.share_of_error result]
      exact RecordSet.project_empty _
  | ok contribution =>
      rw [Outcome.share_of_ok result]
      cases contribution with
      | nothing => exact RecordSet.project_empty _
      | usage astNode =>
          obtain ⟨_, usage⟩ := used_of_result _ result
          simp [Contribution.records, RecordSet.project, AstNode.isDeclaring, usage, unwanted]
      | declaration rows =>
          have declares :=
            NodeContext.declares_of_declaration? (Outcome.declaration?_of_ok result)
          rw [context.full_node, kind] at declares
          cases declares

/-- The rows of a node are what the choices leave of its full rows. -/
theorem share_records_project :
    (context.outcome.share memberRow?).records =
      (context.full.outcome.share memberRow?).records.project context.config := by
  rcases unwanted_or_kept context with ⟨call, kind, unwanted⟩ | wanted
  · rw [context.outcome_invocation_unwanted kind unwanted,
      project_of_unwanted memberRow? context kind unwanted]
    rfl
  · rw [context.outcome_eq_project wanted]
    cases result : context.full.outcome.result with
    | error failure =>
        rw [Outcome.share_of_error result, RecordSet.project_empty, Outcome.share,
          Outcome.project, result]
        rfl
    | ok contribution =>
        rw [Outcome.share_of_ok result, ← Contribution.records_project _ memberRow?
          fun _ given => kept_of_astNode? context wanted result given]
        rw [Outcome.share, Outcome.project, result]
        rfl

theorem share_failures_of_project (config : Config) (outcome : Outcome) :
    ((outcome.project config).share memberRow?).failures = (outcome.share memberRow?).failures := by
  obtain ⟨remarks, result⟩ := outcome
  cases result <;> rfl

theorem share_counts_of_project (config : Config) (outcome : Outcome) :
    ((outcome.project config).share memberRow?).counts = (outcome.share memberRow?).counts := by
  obtain ⟨remarks, result⟩ := outcome
  cases result <;> rfl

/-- The failure of a node is kept unless the node is a call that is not wanted. -/
theorem share_failures_project (present : context.unit.node? context.id = some context.node) :
    (context.outcome.share memberRow?).failures =
      context.unit.keptFailures context.config
        (context.full.outcome.share memberRow?).failures := by
  have isCall : context.unit.isCall (.node context.id) = context.node.kind.isCall := by
    rw [SourceUnit.isCall, present, Option.any_some]
  rcases unwanted_or_kept context with ⟨call, kind, unwanted⟩ | wanted
  · rw [context.outcome_invocation_unwanted kind unwanted]
    rcases share_failures memberRow? context.full with none | ⟨failure, one, subject⟩
    · rw [none]
      rfl
    · rw [one, SourceUnit.keptFailures]
      rw [kind] at isCall
      simp [unwanted, subject, isCall, NodeKind.isCall, Outcome.share]
  · rw [context.outcome_eq_project wanted, share_failures_of_project]
    rcases share_failures memberRow? context.full with none | ⟨failure, one, subject⟩
    · rw [none]
      rfl
    · have kept : (context.config.emitUsages || !context.node.kind.isCall) = true := by
        cases call : context.node.kind.isCall with
        | false => simp
        | true => simp [wanted call]
      rw [one, SourceUnit.keptFailures]
      simp [subject, isCall, kept]

/-- What a node counts is what it would count with everything wanted, less one for a call without
a target that is not wanted. -/
theorem share_counts_full :
    (context.full.outcome.share memberRow?).counts =
      (context.outcome.share memberRow?).counts +
        { skippedReferences :=
            if !context.config.emitUsages && context.node.kind.isUnresolvedCall then 1
            else 0 } := by
  rcases unwanted_or_kept context with ⟨call, kind, unwanted⟩ | wanted
  · rw [context.outcome_invocation_unwanted kind unwanted, kind, unwanted]
    have all : context.full.config.emitUsages = true := rfl
    cases resolved : call.target with
    | none =>
        have unresolved : (NodeKind.invocation call).isUnresolvedCall = true := by
          rw [NodeKind.isUnresolvedCall, resolved, Option.isNone_none]
        rw [context.full.outcome_invocation_unresolved kind all resolved, unresolved]
        rfl
    | some target =>
        have met : (NodeKind.invocation call).isUnresolvedCall = false := by
          rw [NodeKind.isUnresolvedCall, resolved, Option.isNone_some]
        have quiet := (context.full.outcome_invocation_resolved kind all resolved).1
        rw [met, Outcome.share, quiet]
        cases context.full.outcome.result <;> rfl
  · have none : (!context.config.emitUsages && context.node.kind.isUnresolvedCall) = false := by
      cases kind : context.node.kind with
      | invocation call => simp [wanted (by rw [kind]; rfl)]
      | _ => simp [NodeKind.isUnresolvedCall]
    rw [context.outcome_eq_project wanted, share_counts_of_project, none]
    rfl

end Shares

/-! ## Extractions -/

namespace SourceUnit

variable (config : Config) (unit : SourceUnit)

/-- No choice touches the entities. -/
theorem build_entities_project :
    (unit.build config).records.entities = (unit.build {}).records.entities := by
  have collected (choices : Config) := RecordSet.concat_rows (·.entities) rfl (fun _ _ => rfl)
    ((unit.shares choices).map (·.records))
  rw [build_records, build_records, collected, collected, shares, shares, List.map_map,
    List.map_map, List.flatMap_map, List.flatMap_map]
  refine List.flatMap_congr ?_
  rintro ⟨id, node⟩ _
  -- the second pass reads the entities, so here it may still differ between the two builds
  calc (unit.share config id node).records.entities
    _ = (((unit.context config id node).full.outcome.share
          (unit.memberRow? config)).records.project config).entities :=
        congrArg (·.entities) (share_records_project _ (unit.context config id node))
    _ = (unit.share {} id node).records.entities :=
        congrArg (·.records.entities) (Outcome.share_withoutMembers _ _ _)

/-- No choice touches what becomes of a pending membership. -/
theorem memberRow?_project : unit.memberRow? config = unit.memberRow? {} := by
  have hashes (choices : Config) : unit.emitted choices =
      .ofList ((unit.build choices).records.entities.map (·.hash)) := by
    unfold emitted Build.records
    rw [List.map_map]
    rfl
  unfold memberRow?
  rw [hashes, hashes, build_entities_project]

/-- The share of a node, with the second pass of the full build. -/
theorem share_eq (id : NodeId) (node : SyntaxNode) :
    unit.share config id node =
      (unit.context config id node).outcome.share (unit.memberRow? {}) := by
  unfold share
  rw [unit.memberRow?_project config]

theorem build_records_project :
    (unit.build config).records = (unit.build {}).records.project config := by
  rw [build_records, build_records, RecordSet.project_concat, shares, shares, List.map_map,
    List.map_map, List.map_map]
  congr 1
  refine List.map_congr_left ?_
  rintro ⟨id, node⟩ _
  show (unit.share config id node).records = (unit.share {} id node).records.project config
  rw [unit.share_eq config]
  exact share_records_project _ (unit.context config id node)

theorem build_failures_project :
    (unit.build config).failures = unit.keptFailures config (unit.build {}).failures := by
  rw [build_failures, build_failures, keptFailures, List.filter_flatMap, shares, shares,
    List.flatMap_map, List.flatMap_map]
  refine List.flatMap_congr ?_
  rintro ⟨id, node⟩ member
  show (unit.share config id node).failures =
    unit.keptFailures config (unit.share {} id node).failures
  rw [unit.share_eq config]
  exact share_failures_project _ (unit.context config id node) (mem_entries.mp member)

theorem share_counts_uncounted (id : NodeId) (node : SyntaxNode) :
    (unit.share {} id node).counts = (unit.share config id node).counts +
      { skippedReferences :=
          if !config.emitUsages && node.kind.isUnresolvedCall then 1 else 0 } := by
  rw [unit.share_eq config]
  exact share_counts_full _ (unit.context config id node)

theorem build_counts_full :
    (unit.build {}).counts =
      (unit.build config).counts + { skippedReferences := unit.uncounted config } := by
  rw [build_counts, build_counts, shares, shares, uncounted, unresolvedCalls]
  -- node by node, for any list of nodes
  induction unit.entries with
  | nil => cases config.emitUsages <;> rfl
  | cons entry rest ih =>
      simp only [List.map_cons, Counts.total, unit.share_counts_uncounted config, ih,
        List.countP_cons, Counts.add_eq, Counts.mk.injEq]
      cases config.emitUsages <;> cases entry.2.kind.isUnresolvedCall <;>
        simp <;> omega

theorem keptFailures_problemFailures :
    unit.keptFailures config unit.problemFailures = unit.problemFailures := by
  unfold keptFailures
  rw [List.filter_eq_self]
  intro failure member
  obtain ⟨index, about⟩ := subject_of_mem_problemFailures member
  rw [about, isCall]
  exact Bool.or_true _

end SourceUnit

/-- Every extraction is what its configuration leaves of the full one. Entities, edges, memberships,
diagnostics and placeholders are all left; places lose no more than text, and are gone only if they
are usages and these are not wanted. The references that are not counted were counted there. -/
theorem extraction_eq_project (config : Config) (unit : SourceUnit) :
    unit.extraction config = (unit.extraction {}).project config unit ∧
      unit.uncounted config ≤ (unit.extraction {}).counts.skippedReferences := by
  have counts : (unit.extraction {}).counts = (unit.extraction config).counts +
      { skippedReferences := unit.uncounted config } := unit.build_counts_full config
  have failures : (unit.extraction config).failures =
      unit.keptFailures config (unit.extraction {}).failures :=
    calc (unit.build config).failures ++ unit.problemFailures
      _ = unit.keptFailures config (unit.build {}).failures ++
            unit.keptFailures config unit.problemFailures := by
          rw [unit.build_failures_project config, unit.keptFailures_problemFailures config]
      _ = unit.keptFailures config ((unit.build {}).failures ++ unit.problemFailures) :=
          List.filter_append .. |>.symm
  constructor
  · unfold UnitExtraction.project
    rw [← failures, counts, Counts.add_eq, Nat.add_zero, Nat.add_sub_cancel]
    unfold SourceUnit.extraction
    rw [unit.build_records_project config]
  · rw [counts, Counts.add_eq]
    exact Nat.le_add_left ..

end CodeIndex

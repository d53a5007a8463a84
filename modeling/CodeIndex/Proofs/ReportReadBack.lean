import CodeIndex.Proofs.HandOff
import CodeIndex.Proofs.JsonReadBack
import CodeIndex.Report
import Mathlib

/-!
# A report holds everything that a unit gave

The store reads the lines of a report by the names of their members and the words for kinds. What it
reads is what was extracted: no row, no field and no order of rows is lost on the way.

* `extraction?` reads the value of a report, and `ofLine?` its text.
* One lemma for each structure, from its parts to the whole: `restores_span`, `restores_astNode`,
  and so on up to `restores_extraction`.
* `ofLine?_render`: the line for an extraction is read as this extraction.
-/

namespace CodeIndex.Report

open HandOff (fields? required listOf Restores restores_structure restores_listOf)

/-! ## Numbers and words -/

/-- A natural number. -/
def natural? : Json → Option Nat
  | .integer (.ofNat value) => some value
  | _ => none

/-- A signed number of 64 bits. -/
def int64? (value : Json) : Option Int64 :=
  match value.integer? with
  | some number =>
    if Int64.minValue.toInt ≤ number ∧ number ≤ Int64.maxValue.toInt then
      some (Int64.ofInt number)
    else none
  | none => none

/-- The hash of an entity. -/
def hash? (value : Json) : Option EntityHash := (int64? value).map .mk

/-- The number of a place in the source. -/
def astNodeId? (value : Json) : Option AstNodeId := (int64? value).map .mk

/-- What a word stands for. -/
def word? {α : Type} (words : List (String × α)) (value : Json) : Option α :=
  value.string?.bind fun word => words.lookup word

/-- The words for kinds of entities. -/
def symbolKinds : List (String × SymbolKind) :=
  [("type", .type), ("method", .method), ("constructor", .constructor), ("field", .field),
    ("variable", .localVariable), ("enum_constant", .enumConstant), ("lambda", .lambda)]

/-- The words for kinds of places. -/
def astKinds : List (String × AstKind) :=
  [("declaration", .declaration), ("definition", .definition), ("usage", .usage)]

/-- The words for kinds of edges. -/
def relationKinds : List (String × RelationKind) :=
  [("inheritance", .inheritance), ("implements", .implements), ("other", .other)]

/-- The words for kinds of members. -/
def memberKinds : List (String × MemberKind) :=
  [("field", .field), ("method", .method), ("constructor", .constructor),
    ("nested_type", .nestedType), ("enum_constant", .enumConstant)]

/-- The words for visibilities. -/
def visibilities : List (String × Visibility) :=
  [("public", .everywhere), ("protected", .subtypes), ("private", .ownType),
    ("package_private", .ownPackage)]

/-- The words for severities. -/
def severities : List (String × Severity) :=
  [("Error", .error), ("Warning", .warning), ("Note", .note)]

/-- The words for kinds of failures. -/
def failureKinds : List (String × FailureKind) :=
  [("out_of_range_position", .position), ("invalid_identity_input", .identity)]

@[simp] theorem natural?_ofNat (value : Nat) : natural? (ofNat value) = some value := rfl

@[simp] theorem int64?_toInt (value : Int64) : int64? (.integer value.toInt) = some value := by
  have within : Int64.minValue.toInt ≤ value.toInt ∧ value.toInt ≤ Int64.maxValue.toInt :=
    ⟨value.minValue_le_toInt, value.toInt_le⟩
  simp only [int64?, Json.integer?, if_pos within, Int64.ofInt_toInt]

@[simp] theorem hash?_ofHash (hash : EntityHash) : hash? (ofHash hash) = some hash := by
  simp [hash?, ofHash]

@[simp] theorem astNodeId?_ofAstNodeId (id : AstNodeId) :
    astNodeId? (ofAstNodeId id) = some id := by
  simp [astNodeId?, ofAstNodeId]

@[simp] theorem fileId?_ofFileId (file : FileId) :
    HandOff.fileId? (ofFileId file) = some file := HandOff.restores_fileId file

@[simp] theorem word?_symbolKind (kind : SymbolKind) :
    word? symbolKinds (.string kind.label) = some kind := by cases kind <;> rfl

@[simp] theorem word?_astKind (kind : AstKind) :
    word? astKinds (.string kind.label) = some kind := by cases kind <;> rfl

@[simp] theorem word?_relationKind (kind : RelationKind) :
    word? relationKinds (.string kind.label) = some kind := by cases kind <;> rfl

@[simp] theorem word?_memberKind (kind : MemberKind) :
    word? memberKinds (.string kind.label) = some kind := by cases kind <;> rfl

@[simp] theorem word?_visibility (visibility : Visibility) :
    word? visibilities (.string visibility.label) = some visibility := by cases visibility <;> rfl

@[simp] theorem word?_severity (severity : Severity) :
    word? severities (.string severity.label) = some severity := by cases severity <;> rfl

@[simp] theorem word?_failureKind (kind : FailureKind) :
    word? failureKinds (.string kind.label) = some kind := by cases kind <;> rfl

/-! ## Rows -/

/-- A span. -/
def span? (value : Json) : Option Span := do
  let field ← fields? ["start_line", "start_column", "end_line", "end_column"] value
  let startLine ← required natural? (field "start_line")
  let startColumn ← required natural? (field "start_column")
  let endLine ← required natural? (field "end_line")
  let endColumn ← required natural? (field "end_column")
  return ⟨startLine, startColumn, endLine, endColumn⟩

/-- A place in the source. -/
def astNode? (value : Json) : Option AstNode := do
  let field ← fields? ["id", "ast_value", "location", "file_id", "entity_hash", "symbol_kind",
    "ast_kind", "visible_in_source"] value
  let id ← required astNodeId? (field "id")
  let text ← required Json.string? (field "ast_value")
  let location ← required span? (field "location")
  let fileId ← required HandOff.fileId? (field "file_id")
  let entityHash ← required hash? (field "entity_hash")
  let symbolKind ← required (word? symbolKinds) (field "symbol_kind")
  let astKind ← required (word? astKinds) (field "ast_kind")
  let isVisible ← required Json.bool? (field "visible_in_source")
  return ⟨id, text, location, fileId, entityHash, symbolKind, astKind, isVisible⟩

/-- What a type says about itself. -/
def typeDetail? (value : Json) : Option TypeDetail := do
  let field ← fields? ["entity", "is_abstract", "is_final"] value
  let isAbstract ← required Json.bool? (field "is_abstract")
  let isFinal ← required Json.bool? (field "is_final")
  return ⟨isAbstract, isFinal⟩

/-- What a typed entity says about its type. -/
def typedDetail? (value : Json) : Option TypedDetail := do
  let field ← fields? ["entity", "is_final", "is_static", "type_hash", "qualified_type"] value
  let isFinal ← required Json.bool? (field "is_final")
  let isStatic ← required Json.bool? (field "is_static")
  let typeHash ← required hash? (field "type_hash")
  let qualifiedType ← required Json.string? (field "qualified_type")
  return ⟨isFinal, isStatic, typeHash, qualifiedType⟩

/-- What an entity says besides its names. -/
def detail? (value : Json) : Option EntityDetail := do
  let entity ← value.member? "entity"
  match ← entity.string? with
  | "record" => return .type (← typeDetail? value)
  | "typed" => return .typed (← typedDetail? value)
  | "constant" => return .constant
  | _ => none

/-- An entity. -/
def entity? (value : Json) : Option Entity := do
  let field ← fields? ["ast_node_id", "entity_hash", "name", "qualified_name", "detail"] value
  let astNodeId ← required astNodeId? (field "ast_node_id")
  let hash ← required hash? (field "entity_hash")
  let name ← required Json.string? (field "name")
  let qualifiedName ← required Json.string? (field "qualified_name")
  let detail ← required detail? (field "detail")
  return ⟨astNodeId, hash, name, qualifiedName, detail⟩

/-- An edge between entities. -/
def relation? (value : Json) : Option Relation := do
  let field ← fields? ["kind", "lhs", "rhs"] value
  let kind ← required (word? relationKinds) (field "kind")
  let derived ← required hash? (field "lhs")
  let base ← required hash? (field "rhs")
  return ⟨kind, derived, base⟩

/-- An inheritance edge. -/
def inheritance? (value : Json) : Option Inheritance := do
  let field ← fields? ["base", "derived"] value
  let base ← required hash? (field "base")
  let derived ← required hash? (field "derived")
  return ⟨base, derived⟩

/-- A membership. -/
def memberType? (value : Json) : Option MemberType := do
  let field ← fields? ["type_hash", "member_hash", "kind", "visibility", "member_ast_node"] value
  let typeHash ← required hash? (field "type_hash")
  let memberHash ← required hash? (field "member_hash")
  let kind ← required (word? memberKinds) (field "kind")
  let visibility ← required (word? visibilities) (field "visibility")
  let astNodeId ← required astNodeId? (field "member_ast_node")
  return ⟨typeHash, memberHash, kind, visibility, astNodeId⟩

/-- A documentation comment. -/
def docComment? (value : Json) : Option DocComment := do
  let field ← fields? ["content", "content_hash", "entity_hash"] value
  let content ← required Json.string? (field "content")
  let contentHash ← required int64? (field "content_hash")
  let entityHash ← required hash? (field "entity_hash")
  return ⟨content, contentHash, entityHash⟩

/-- A diagnostic. -/
def diagnostic? (value : Json) : Option Diagnostic := do
  let field ← fields? ["message", "severity", "range"] value
  let message ← required Json.string? (field "message")
  let severity ← required (word? severities) (field "severity")
  let range ← required span? (field "range")
  return ⟨message, severity, range⟩

/-- What a failure is about. -/
def subject? : Json → Option Subject
  | .object [("node", id)] => (natural? id).map .node
  | .object [("problem", index)] => (natural? index).map .problem
  | _ => none

/-- A failure. -/
def failure? (value : Json) : Option Failure := do
  let field ← fields? ["subject", "kind", "message"] value
  let subject ← required subject? (field "subject")
  let kind ← required (word? failureKinds) (field "kind")
  let message ← required Json.string? (field "message")
  return ⟨subject, kind, message⟩

theorem restores_span (span : Span) : Restores span? ofSpan span := by
  refine restores_structure (fun _ => rfl) rfl (by decide) ?_
  simp [List.lookup]

theorem restores_astNode (row : AstNode) : Restores astNode? ofAstNode row := by
  have location : span? (ofSpan row.location) = some row.location := restores_span row.location
  refine restores_structure (fun _ => rfl) rfl (by decide) ?_
  simp [List.lookup, location]

theorem restores_detail (detail : EntityDetail) : Restores detail? ofDetail detail := by
  cases detail with
  | type detail =>
      have restored : typeDetail? (ofDetail (.type detail)) = some detail := by
        refine restores_structure (fun _ => rfl) rfl (by decide) ?_
        simp [List.lookup, typeMembers]
      simp only [Restores, detail?, restored]
      rfl
  | typed detail =>
      have restored : typedDetail? (ofDetail (.typed detail)) = some detail := by
        refine restores_structure (fun _ => rfl) rfl (by decide) ?_
        simp [List.lookup, typedMembers]
      simp only [Restores, detail?, restored]
      rfl
  | constant => rfl

theorem restores_entity (row : Entity) : Restores entity? ofEntity row := by
  have detail : detail? (ofDetail row.detail) = some row.detail := restores_detail row.detail
  refine restores_structure (fun _ => rfl) rfl (by decide) ?_
  simp [List.lookup, detail]

theorem restores_relation (row : Relation) : Restores relation? ofRelation row := by
  refine restores_structure (fun _ => rfl) rfl (by decide) ?_
  simp [List.lookup]

theorem restores_inheritance (row : Inheritance) : Restores inheritance? ofInheritance row := by
  refine restores_structure (fun _ => rfl) rfl (by decide) ?_
  simp [List.lookup]

theorem restores_memberType (row : MemberType) : Restores memberType? ofMemberType row := by
  refine restores_structure (fun _ => rfl) rfl (by decide) ?_
  simp [List.lookup]

theorem restores_docComment (row : DocComment) : Restores docComment? ofDocComment row := by
  refine restores_structure (fun _ => rfl) rfl (by decide) ?_
  simp [List.lookup]

theorem restores_diagnostic (row : Diagnostic) : Restores diagnostic? ofDiagnostic row := by
  have range : span? (ofSpan row.range) = some row.range := restores_span row.range
  refine restores_structure (fun _ => rfl) rfl (by decide) ?_
  simp [List.lookup, range]

theorem restores_failure (failure : Failure) : Restores failure? ofFailure failure := by
  have subject : subject? (ofSubject failure.subject) = some failure.subject := by
    cases failure.subject <;> rfl
  refine restores_structure (fun _ => rfl) rfl (by decide) ?_
  simp [List.lookup, subject]

/-! ## Units -/

/-- The counters of a unit. -/
def counts? (value : Json) : Option Counts := do
  let field ← fields? ["placeholders", "skipped_references"] value
  let placeholders ← required natural? (field "placeholders")
  let skippedReferences ← required natural? (field "skipped_references")
  return ⟨placeholders, skippedReferences⟩

/-- The rows of a unit. -/
def records? (value : Json) : Option RecordSet := do
  let field ← fields? ["ast_nodes", "entities", "relations", "inheritances", "member_types",
    "doc_comments"] value
  let astNodes ← required (listOf astNode?) (field "ast_nodes")
  let entities ← required (listOf entity?) (field "entities")
  let relations ← required (listOf relation?) (field "relations")
  let inheritances ← required (listOf inheritance?) (field "inheritances")
  let memberTypes ← required (listOf memberType?) (field "member_types")
  let docComments ← required (listOf docComment?) (field "doc_comments")
  return ⟨astNodes, entities, relations, inheritances, memberTypes, docComments⟩

/-- Everything that a unit gave. -/
def extraction? (value : Json) : Option UnitExtraction := do
  let field ← fields? ["file_id", "records", "diagnostics", "errors", "stats"] value
  let fileId ← required HandOff.fileId? (field "file_id")
  let records ← required records? (field "records")
  let diagnostics ← required (listOf diagnostic?) (field "diagnostics")
  let failures ← required (listOf failure?) (field "errors")
  let counts ← required counts? (field "stats")
  return ⟨fileId, records, diagnostics, failures, counts⟩

/-- The extraction that a line holds. -/
def ofLine? (line : String) : Option UnitExtraction := (Json.parse? line).bind extraction?

section Lists

variable {α : Type} {decode : Json → Option α} {encode : α → Json}

/-- Rows are restored in their order if each of them is. -/
theorem listOf_map (each : ∀ value, Restores decode encode value) (values : List α) :
    listOf decode (.array (values.map encode)) = some values :=
  restores_listOf fun value _ => each value

end Lists

theorem restores_counts (counts : Counts) : Restores counts? ofCounts counts := by
  refine restores_structure (fun _ => rfl) rfl (by decide) ?_
  simp [List.lookup]

theorem restores_records (records : RecordSet) : Restores records? ofRecords records := by
  refine restores_structure (fun _ => rfl) rfl (by decide) ?_
  simp [List.lookup, listOf_map restores_astNode, listOf_map restores_entity,
    listOf_map restores_relation, listOf_map restores_inheritance,
    listOf_map restores_memberType, listOf_map restores_docComment]

theorem restores_extraction (extraction : UnitExtraction) :
    Restores extraction? ofExtraction extraction := by
  have records : records? (ofRecords extraction.records) = some extraction.records :=
    restores_records extraction.records
  have counts : counts? (ofCounts extraction.counts) = some extraction.counts :=
    restores_counts extraction.counts
  refine restores_structure (fun _ => rfl) rfl (by decide) ?_
  simp [List.lookup, records, counts, listOf_map restores_diagnostic, listOf_map restores_failure]

/-! ## Lines -/

theorem hasText_array {α : Type} {encode : α → Json} (each : ∀ value, (encode value).HasText)
    (values : List α) : Json.ItemsHaveText (values.map encode) := by
  induction values with
  | nil => trivial
  | cons value rest ih => exact ⟨each value, ih⟩

theorem hasText_ofAstNode (row : AstNode) : (ofAstNode row).HasText := by
  simp [ofAstNode, ofAstNodeId, ofSpan, ofNat, ofFileId, ofHash]

theorem hasText_ofEntity (row : Entity) : (ofEntity row).HasText := by
  cases detail : row.detail <;>
    simp [ofEntity, ofAstNodeId, ofHash, detail, ofDetail, typeMembers, typedMembers]

theorem hasText_ofRelation (row : Relation) : (ofRelation row).HasText := by
  simp [ofRelation, ofHash]

theorem hasText_ofInheritance (row : Inheritance) : (ofInheritance row).HasText := by
  simp [ofInheritance, ofHash]

theorem hasText_ofMemberType (row : MemberType) : (ofMemberType row).HasText := by
  simp [ofMemberType, ofHash, ofAstNodeId]

theorem hasText_ofDocComment (row : DocComment) : (ofDocComment row).HasText := by
  simp [ofDocComment, ofHash]

theorem hasText_ofDiagnostic (row : Diagnostic) : (ofDiagnostic row).HasText := by
  simp [ofDiagnostic, ofSpan, ofNat]

theorem hasText_ofFailure (failure : Failure) : (ofFailure failure).HasText := by
  cases subject : failure.subject <;> simp [ofFailure, subject, ofSubject, ofNat]

theorem hasText_ofExtraction (extraction : UnitExtraction) : (ofExtraction extraction).HasText := by
  simp [ofExtraction, ofFileId, ofRecords, ofCounts, ofNat, hasText_array hasText_ofAstNode,
    hasText_array hasText_ofEntity, hasText_array hasText_ofRelation,
    hasText_array hasText_ofInheritance, hasText_array hasText_ofMemberType,
    hasText_array hasText_ofDocComment, hasText_array hasText_ofDiagnostic,
    hasText_array hasText_ofFailure]

/-- The line for an extraction is read as this extraction. -/
theorem ofLine?_render (extraction : UnitExtraction) :
    ofLine? (ofExtraction extraction).render = some extraction := by
  rw [ofLine?, Json.parse?_render (hasText_ofExtraction extraction)]
  exact restores_extraction extraction

end CodeIndex.Report

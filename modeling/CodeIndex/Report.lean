import CodeIndex.Extraction
import CodeIndex.Json.Basic

/-!
# Records as JSON

How the records of a unit are written for the store. Every field is written, in the order given
here.
-/

namespace CodeIndex.Report

/-- A natural number as a value. -/
def ofNat (value : Nat) : Json := .integer value

/-- The hash of an entity. -/
def ofHash (hash : EntityHash) : Json := .integer hash.value.toInt

/-- The number of a place in the source. -/
def ofAstNodeId (id : AstNodeId) : Json := .integer id.value.toInt

/-- The number of a file. -/
def ofFileId (file : FileId) : Json := .integer file.value.toInt

/-- A span. -/
def ofSpan (span : Span) : Json :=
  .object [("start_line", ofNat span.startLine),
    ("start_column", ofNat span.startColumn),
    ("end_line", ofNat span.endLine),
    ("end_column", ofNat span.endColumn)]

/-- A place in the source. -/
def ofAstNode (row : AstNode) : Json :=
  .object [("id", ofAstNodeId row.id),
    ("ast_value", .string row.value),
    ("location", ofSpan row.location),
    ("file_id", ofFileId row.fileId),
    ("entity_hash", ofHash row.entityHash),
    ("symbol_kind", .string row.symbolKind.label),
    ("ast_kind", .string row.astKind.label),
    ("visible_in_source", .bool row.isVisible)]

/-- The members of what a type says about itself. -/
def typeMembers (detail : TypeDetail) : List (String × Json) :=
  [("is_abstract", .bool detail.isAbstract), ("is_final", .bool detail.isFinal)]

/-- The members of what a typed entity says about its type. -/
def typedMembers (detail : TypedDetail) : List (String × Json) :=
  [("is_final", .bool detail.isFinal),
    ("is_static", .bool detail.isStatic),
    ("type_hash", ofHash detail.typeHash),
    ("qualified_type", .string detail.qualifiedType)]

/-- What an entity says besides its names; the first member tells which kind of entity it is. -/
def ofDetail : EntityDetail → Json
  | .type detail => .object (("entity", .string "record") :: typeMembers detail)
  | .typed detail => .object (("entity", .string "typed") :: typedMembers detail)
  | .constant => .object [("entity", .string "constant")]

/-- An entity. -/
def ofEntity (row : Entity) : Json :=
  .object [("ast_node_id", ofAstNodeId row.astNodeId),
    ("entity_hash", ofHash row.hash),
    ("name", .string row.name),
    ("qualified_name", .string row.qualifiedName),
    ("detail", ofDetail row.detail)]

/-- An edge between entities. -/
def ofRelation (row : Relation) : Json :=
  .object [("kind", .string row.kind.label),
    ("lhs", ofHash row.derived),
    ("rhs", ofHash row.base)]

/-- An inheritance edge. -/
def ofInheritance (row : Inheritance) : Json :=
  .object [("base", ofHash row.base), ("derived", ofHash row.derived)]

/-- A membership. -/
def ofMemberType (row : MemberType) : Json :=
  .object [("type_hash", ofHash row.typeHash),
    ("member_hash", ofHash row.memberHash),
    ("kind", .string row.kind.label),
    ("visibility", .string row.visibility.label),
    ("member_ast_node", ofAstNodeId row.astNodeId)]

/-- A documentation comment. -/
def ofDocComment (row : DocComment) : Json :=
  .object [("content", .string row.content),
    ("content_hash", .integer row.contentHash.toInt),
    ("entity_hash", ofHash row.entityHash)]

/-- A diagnostic. -/
def ofDiagnostic (row : Diagnostic) : Json :=
  .object [("message", .string row.message),
    ("severity", .string row.severity.label),
    ("range", ofSpan row.range)]

/-- What a failure is about. -/
def ofSubject : Subject → Json
  | .node id => .object [("node", ofNat id)]
  | .problem index => .object [("problem", ofNat index)]

/-- A failure. -/
def ofFailure (failure : Failure) : Json :=
  .object [("subject", ofSubject failure.subject),
    ("kind", .string failure.kind.label),
    ("message", .string failure.message)]

/-- The counters of a unit. -/
def ofCounts (counts : Counts) : Json :=
  .object [("placeholders", ofNat counts.placeholders),
    ("skipped_references", ofNat counts.skippedReferences)]

/-- The rows of a unit. -/
def ofRecords (records : RecordSet) : Json :=
  .object [("ast_nodes", .array (records.astNodes.map ofAstNode)),
    ("entities", .array (records.entities.map ofEntity)),
    ("relations", .array (records.relations.map ofRelation)),
    ("inheritances", .array (records.inheritances.map ofInheritance)),
    ("member_types", .array (records.memberTypes.map ofMemberType)),
    ("doc_comments", .array (records.docComments.map ofDocComment))]

/-- Everything that a unit gave. -/
def ofExtraction (extraction : UnitExtraction) : Json :=
  .object [("file_id", ofFileId extraction.fileId),
    ("records", ofRecords extraction.records),
    ("diagnostics", .array (extraction.diagnostics.map ofDiagnostic)),
    ("errors", .array (extraction.failures.map ofFailure)),
    ("stats", ofCounts extraction.counts)]

end CodeIndex.Report

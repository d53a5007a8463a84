import CodeIndex.Identity
import CodeIndex.Modifiers
import CodeIndex.Position
import CodeIndex.SourceUnit

/-!
# Records

The rows that are handed to the store. An `Entity` is something that the program declares, an
`AstNode` a place in the source where it is declared or used; the other rows are edges between
entities, documentation and diagnostics. `RecordSet` holds the rows of one unit.
-/

namespace CodeIndex

/-- The number of a row for a place in the source. -/
structure AstNodeId where
  value : Int64
deriving DecidableEq, Repr

/-! ## Kinds -/

/-- What an entity is. -/
inductive SymbolKind where
  | type
  | method
  | constructor
  | field
  | localVariable
  | enumConstant
  | lambda
deriving DecidableEq, Repr

/-- The word for a kind of entity in records. -/
def SymbolKind.label : SymbolKind → String
  | .type => "type"
  | .method => "method"
  | .constructor => "constructor"
  | .field => "field"
  | .localVariable => "variable"
  | .enumConstant => "enum_constant"
  | .lambda => "lambda"

/-- How a place in the source relates to its entity: declared without a body or initializer,
declared with one, or referred to. -/
inductive AstKind where
  | declaration
  | definition
  | usage
deriving DecidableEq, Repr

/-- The word for a kind of place in records. -/
def AstKind.label : AstKind → String
  | .declaration => "declaration"
  | .definition => "definition"
  | .usage => "usage"

/-- The kind of an edge between two entities. -/
inductive RelationKind where
  | inheritance
  | implements
  | other
deriving DecidableEq, Repr

/-- The word for a kind of edge in records. -/
def RelationKind.label : RelationKind → String
  | .inheritance => "inheritance"
  | .implements => "implements"
  | .other => "other"

/-- What a member is to the type that has it. -/
inductive MemberKind where
  | field
  | method
  | constructor
  | nestedType
  | enumConstant
deriving DecidableEq, Repr

/-- The word for a kind of member in records. -/
def MemberKind.label : MemberKind → String
  | .field => "field"
  | .method => "method"
  | .constructor => "constructor"
  | .nestedType => "nested_type"
  | .enumConstant => "enum_constant"

/-- How grave a reported problem is. -/
inductive Severity where
  | error
  | warning
  | note
deriving DecidableEq, Repr

/-- The word for a severity in records. -/
def Severity.label : Severity → String
  | .error => "Error"
  | .warning => "Warning"
  | .note => "Note"

/-- An error is graver than a warning, and a warning graver than a note. -/
def Severity.ofFlags (isError isWarning : Bool) : Severity :=
  if isError then .error else if isWarning then .warning else .note

/-! ## Rows -/

/-- A place in the source where an entity is declared or used. -/
structure AstNode where
  id : AstNodeId
  value : String
  location : Span
  fileId : FileId
  entityHash : EntityHash
  symbolKind : SymbolKind
  astKind : AstKind
  isVisible : Bool
deriving DecidableEq, Repr

/-- What the row of a type says besides its names. -/
structure TypeDetail where
  isAbstract : Bool
  isFinal : Bool
deriving DecidableEq, Repr

/-- What the row of an entity that has a type says besides its names. -/
structure TypedDetail where
  isFinal : Bool
  isStatic : Bool
  typeHash : EntityHash
  qualifiedType : String
deriving DecidableEq, Repr

/-- What the row of an entity says besides its names. -/
inductive EntityDetail where
  | type (detail : TypeDetail)
  | typed (detail : TypedDetail)
  | constant
deriving DecidableEq, Repr

/-- Something that the program declares. -/
structure Entity where
  astNodeId : AstNodeId
  hash : EntityHash
  name : String
  qualifiedName : String
  detail : EntityDetail
deriving DecidableEq, Repr

/-- What a typed entity says about its type. -/
def Entity.typed? (entity : Entity) : Option TypedDetail :=
  match entity.detail with
  | .typed detail => some detail
  | _ => none

/-- What a type says about itself. -/
def Entity.type? (entity : Entity) : Option TypeDetail :=
  match entity.detail with
  | .type detail => some detail
  | _ => none

/-- An edge between two entities, from the derived to the base side. -/
structure Relation where
  kind : RelationKind
  derived : EntityHash
  base : EntityHash
deriving DecidableEq, Repr

/-- A type and one that it specializes. -/
structure Inheritance where
  base : EntityHash
  derived : EntityHash
deriving DecidableEq, Repr

/-- A type and one of its members. -/
structure MemberType where
  typeHash : EntityHash
  memberHash : EntityHash
  kind : MemberKind
  visibility : Visibility
  astNodeId : AstNodeId
deriving DecidableEq, Repr

/-- The documentation of an entity. -/
structure DocComment where
  content : String
  contentHash : Int64
  entityHash : EntityHash
deriving DecidableEq, Repr

/-- A reported problem with its place in the source. -/
structure Diagnostic where
  message : String
  severity : Severity
  range : Span
deriving DecidableEq, Repr

/-! ## The rows of a unit -/

/-- The rows of one unit. -/
structure RecordSet where
  astNodes : List AstNode := []
  entities : List Entity := []
  relations : List Relation := []
  inheritances : List Inheritance := []
  memberTypes : List MemberType := []
  docComments : List DocComment := []
deriving DecidableEq, Repr

/-- The first entity with a hash. -/
def RecordSet.entityWithHash? (records : RecordSet) (hash : EntityHash) : Option Entity :=
  records.entities.find? (·.hash == hash)

/-- The first entity with a simple name. -/
def RecordSet.entityNamed? (records : RecordSet) (name : String) : Option Entity :=
  records.entities.find? (·.name == name)

/-- How often a unit fell back on something: names made up for unresolved bindings, and
references that were left out. -/
structure Counts where
  placeholders : Nat := 0
  skippedReferences : Nat := 0
deriving DecidableEq, Repr

end CodeIndex

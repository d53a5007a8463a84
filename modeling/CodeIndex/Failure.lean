import CodeIndex.Identity
import CodeIndex.Position
import CodeIndex.SourceUnit

/-!
# Failures

A `Failure` is the reason why one node or one problem of a unit gave no row. It is collected
beside the rows of the others. An `Error` stops the work on a whole unit.
-/

namespace CodeIndex

/-- What a failure is about: a node, or a problem by its place in the unit. -/
inductive Subject where
  | node (id : NodeId)
  | problem (index : Nat)
deriving DecidableEq, Repr

/-- The words for a subject. -/
def Subject.display : Subject → String
  | .node id => "node " ++ toString id
  | .problem index => "problem " ++ toString index

/-- The kinds of failures: offsets outside the text, and names that form no identity. -/
inductive FailureKind where
  | position
  | identity
deriving DecidableEq, Repr

/-- The word for a kind of failure in records. -/
def FailureKind.label : FailureKind → String
  | .position => "out_of_range_position"
  | .identity => "invalid_identity_input"

/-- The words for a kind of failure in messages. -/
def FailureKind.display : FailureKind → String
  | .position => "out of range position"
  | .identity => "invalid identity input"

/-- Why a node or a problem gave no row. -/
structure Failure where
  subject : Subject
  kind : FailureKind
  message : String
deriving DecidableEq, Repr

namespace Failure

/-- The failure to place a node or a problem. -/
def ofPosition (subject : Subject) (error : PositionError) : Failure :=
  ⟨subject, .position, error.message⟩

/-- The failure to identify a node. -/
def ofIdentity (id : NodeId) (error : IdentityError) : Failure :=
  ⟨.node id, .identity, error.message⟩

/-- The whole wording of a failure. -/
def display (failure : Failure) : String :=
  failure.subject.display ++ ": " ++ failure.message ++ " (" ++ failure.kind.display ++ ")"

end Failure

/-! ## Errors that stop the work on a unit -/

/-- Why a file or a stream could not be used. What the system may say besides comes with its own
wording and code. -/
inductive IoCause where
  | notFound
  | denied
  | notDirectory
  | isDirectory
  | noSpace
  | nameTooLong
  | outOfMemory
  | invalidText
  | refused
  | system (wording : String) (code : Nat)
deriving DecidableEq, Repr

/-- The wording of what a system says. -/
def systemMessage (wording : String) (code : Nat) : String :=
  wording ++ " (os error " ++ toString code ++ ")"

/-- The wording of a cause. -/
def IoCause.message : IoCause → String
  | .notFound => systemMessage "No such file or directory" 2
  | .denied => systemMessage "Permission denied" 13
  | .notDirectory => systemMessage "Not a directory" 20
  | .isDirectory => systemMessage "Is a directory" 21
  | .noSpace => systemMessage "No space left on device" 28
  | .nameTooLong => systemMessage "File name too long" 36
  | .outOfMemory => "out of memory"
  | .invalidText => "stream did not contain valid UTF-8"
  | .refused => "closed"
  | .system wording code => systemMessage wording code

/-- Why there is no result for a unit or a command. -/
inductive Error where
  | noUnit
  | io (cause : IoCause)
  | malformedUnit (path : String)
  | serialization (cause : IoCause)
  | config
  | identity (error : IdentityError)
deriving DecidableEq, Repr

namespace Error

/-- The wording of an error. -/
def message : Error → String
  | .noUnit => "no compilation unit to extract from"
  | .io cause => "I/O error: " ++ cause.message
  | .malformedUnit path => "malformed compilation unit " ++ path
  | .serialization cause => "serialization error: " ++ cause.message
  | .config => "configuration error"
  | .identity error => "invalid identity input: " ++ error.message

/-- The wordings of what caused an error, the nearest cause first. -/
def causes : Error → List String
  | .io cause => [cause.message]
  | .serialization cause => [cause.message]
  | .identity error => [error.message]
  | _ => []

end Error

end CodeIndex

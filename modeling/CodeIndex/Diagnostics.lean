import CodeIndex.Failure
import CodeIndex.Log
import CodeIndex.Record

/-!
# Diagnostics

Every problem that the front-end reported becomes a diagnostic with its place in the source, or
a failure if its offsets have no place. Either way it gives one line for the log.
-/

namespace CodeIndex

/-- The level at which a diagnostic is logged. -/
def Severity.level : Severity → LogLevel
  | .error => .error
  | .warning => .warning
  | .note => .info

/-- The severity of a problem by its two flags. -/
def Problem.severity (problem : Problem) : Severity :=
  .ofFlags problem.isError problem.isWarning

/-- What a problem becomes. -/
def Problem.diagnose (lines : LineMap) (index : Nat) (problem : Problem) :
    Except Failure Diagnostic :=
  match lines.span problem.start problem.stop with
  | .ok range => .ok ⟨problem.message, problem.severity, range⟩
  | .error error => .error (.ofPosition (.problem index) error)

/-- The line for a failure in a unit with a label. -/
def Failure.logLine (label : String) (failure : Failure) : LogLine :=
  ⟨.warning, label ++ " " ++ failure.display⟩

/-- The line for a diagnostic in a unit with a label. -/
def Diagnostic.logLine (label : String) (diagnostic : Diagnostic) : LogLine :=
  ⟨diagnostic.severity.level,
    label ++ " " ++ toString diagnostic.range.startLine ++ ":" ++
      toString diagnostic.range.startColumn ++ " " ++ diagnostic.message⟩

namespace SourceUnit

/-- What the problems of a unit become, in their order. -/
def diagnoses (unit : SourceUnit) : List (Except Failure Diagnostic) :=
  let lines := LineMap.ofText unit.source
  unit.problems.toList.zipIdx.map fun (problem, index) => problem.diagnose lines index

/-- The diagnostics of a unit. -/
def diagnostics (unit : SourceUnit) : List Diagnostic :=
  unit.diagnoses.filterMap (·.toOption)

/-- The failures among the problems of a unit. -/
def problemFailures (unit : SourceUnit) : List Failure :=
  unit.diagnoses.filterMap fun
    | .error failure => some failure
    | .ok _ => none

/-- The log lines for the problems of a unit. -/
def problemLines (unit : SourceUnit) : List LogLine :=
  unit.diagnoses.map fun
    | .error failure => failure.logLine unit.label
    | .ok diagnostic => diagnostic.logLine unit.label

end SourceUnit

end CodeIndex

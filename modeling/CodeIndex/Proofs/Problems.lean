import CodeIndex.Diagnostics
import Mathlib.Data.List.Basic

/-!
# What the problems of a unit become

A problem whose offsets have a place becomes a diagnostic there; any other one becomes a failure
over itself. `Problem.line` is its line for the log in both cases, and `Problem.failure?` is its
failure in the second.
-/

namespace CodeIndex

/-- The line for a problem: a warning if it has no place, and otherwise its place and message. An
error is told as an error, a warning that is no error as a warning, and anything else as a piece of
information. -/
def Problem.line (label : String) (lines : LineMap) (index : Nat) (problem : Problem) : LogLine :=
  match lines.span problem.start problem.stop with
  | .error error => ⟨.warning, label ++ " " ++ (Failure.ofPosition (.problem index) error).display⟩
  | .ok range =>
    ⟨if problem.isError then .error else if problem.isWarning then .warning else .info,
      label ++ " " ++ toString range.startLine ++ ":" ++ toString range.startColumn ++ " " ++
        problem.message⟩

/-- The failure of a problem, if it has no place. -/
def Problem.failure? (lines : LineMap) (index : Nat) (problem : Problem) : Option Failure :=
  match lines.span problem.start problem.stop with
  | .error error => some (.ofPosition (.problem index) error)
  | .ok _ => none

/-- The level of a problem's severity, by the flags of the problem. -/
theorem level_severity (problem : Problem) :
    problem.severity.level =
      if problem.isError then .error else if problem.isWarning then .warning else .info := by
  unfold Problem.severity Severity.ofFlags
  split_ifs <;> rfl

theorem logLine_of_diagnose (label : String) (lines : LineMap) (index : Nat) (problem : Problem) :
    (match problem.diagnose lines index with
      | .error failure => failure.logLine label
      | .ok diagnostic => diagnostic.logLine label) = problem.line label lines index := by
  unfold Problem.diagnose Problem.line
  rw [← level_severity]
  cases lines.span problem.start problem.stop <;> rfl

theorem failure?_of_diagnose (lines : LineMap) (index : Nat) (problem : Problem) :
    (match problem.diagnose lines index with
      | .error failure => some failure
      | .ok _ => none) = problem.failure? lines index := by
  unfold Problem.diagnose Problem.failure?
  cases lines.span problem.start problem.stop <;> rfl

namespace SourceUnit

variable (unit : SourceUnit)

/-- Each problem gives one line. -/
theorem problemLines_eq :
    unit.problemLines = unit.problems.toList.zipIdx.map fun (problem, index) =>
      problem.line unit.label (LineMap.ofText unit.source) index := by
  unfold problemLines diagnoses
  rw [List.map_map]
  exact List.map_congr_left fun _ _ => logLine_of_diagnose ..

theorem problemFailures_eq :
    unit.problemFailures = unit.problems.toList.zipIdx.filterMap fun (problem, index) =>
      problem.failure? (LineMap.ofText unit.source) index := by
  unfold problemFailures diagnoses
  rw [List.filterMap_map]
  exact List.filterMap_congr fun _ _ => failure?_of_diagnose ..

/-- The diagnostics are those of the problems that have a place. -/
theorem diagnostics_eq :
    unit.diagnostics = unit.problems.toList.zipIdx.filterMap fun (problem, index) =>
      (problem.diagnose (LineMap.ofText unit.source) index).toOption :=
  List.filterMap_map

/-- A failure over a problem is about that problem. -/
theorem subject_of_mem_problemFailures {unit : SourceUnit} {failure : Failure}
    (member : failure ∈ unit.problemFailures) : ∃ index, failure.subject = .problem index := by
  rw [problemFailures_eq] at member
  obtain ⟨⟨problem, index⟩, _, failed⟩ := List.mem_filterMap.mp member
  simp only [Problem.failure?] at failed
  cases placed : (LineMap.ofText unit.source).span problem.start problem.stop with
  | ok range =>
      rw [placed] at failed
      cases failed
  | error error =>
      rw [placed] at failed
      obtain rfl := Option.some.inj failed
      exact ⟨index, rfl⟩

end SourceUnit

end CodeIndex

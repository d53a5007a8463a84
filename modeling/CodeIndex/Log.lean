/-!
# The build log

Failures and diagnostics are also written to a log that the caller chooses. A log may refuse a
line; whoever writes goes on regardless, so that no row depends on the log.

* `BuildLog` is a log with its state: what a line does to the state, what it shows to an
  observer, and whether it is refused.
* `BuildLog.memory` keeps its lines, `BuildLog.forwarding` shows them to an observer, and
  `BuildLog.broken` refuses every line.
-/

namespace CodeIndex

/-- The level of a log line. -/
inductive LogLevel where
  | error
  | warning
  | info
deriving DecidableEq, Repr

/-- The word for a level in answers. -/
def LogLevel.label : LogLevel → String
  | .error => "error"
  | .warning => "warning"
  | .info => "info"

/-- The name of a level in observed events. -/
def LogLevel.name : LogLevel → String
  | .error => "Error"
  | .warning => "Warning"
  | .info => "Info"

/-- A line of the log. -/
structure LogLine where
  level : LogLevel
  text : String
deriving DecidableEq, Repr

/-- Why a log refused a line. -/
structure LogError where
  reason : String
deriving DecidableEq, Repr

/-- The wording of a refusal. -/
def LogError.message (error : LogError) : String := "build log failed: " ++ error.reason

/-- A log with states `σ`. A line gives the next state, and either the lines that an observer
sees of it or a refusal. -/
structure BuildLog (σ : Type) where
  write : σ → LogLine → σ × Except LogError (List LogLine)

namespace BuildLog

/-- Keeps all lines in the order of writing. -/
def memory : BuildLog (List LogLine) where
  write lines line := (lines ++ [line], .ok [])

/-- Shows every line to the observer. -/
def forwarding : BuildLog Unit where
  write _ line := ((), .ok [line])

/-- Refuses every line. -/
def broken (error : LogError) : BuildLog Unit where
  write _ _ := ((), .error error)

end BuildLog

/-- The texts of the lines at one level. -/
def textsAt (lines : List LogLine) (level : LogLevel) : List String :=
  (lines.filter (·.level == level)).map (·.text)

end CodeIndex

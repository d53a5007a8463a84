import CodeIndex.Build
import CodeIndex.Diagnostics
import CodeIndex.Text.Lines

/-!
# What an observer sees

While a unit is worked on, events are shown to an observer: remarks on nodes, dropped
memberships, a summary of the build, log lines that a forwarding log shows, and log lines that
a log refused.

* `Activity` is one step of the work that is either an event or a line for the log;
* `BuildLog.run` writes the lines of some activities to a log and collects the events;
* `Event.lines` are the lines that show an event.
-/

namespace CodeIndex

/-- The totals that end a build. -/
structure BuildSummary where
  entities : Nat
  astNodes : Nat
  failures : Nat
  counts : Counts
deriving DecidableEq, Repr

/-- What an observer sees. -/
inductive Event where
  | remark (file : FileId) (node : NodeId) (remark : Remark)
  | membershipDropped (owner : NodeId) (member : EntityHash)
  | built (file : FileId) (summary : BuildSummary)
  | forwarded (line : LogLine)
  | refused (error : LogError) (level : LogLevel)
deriving DecidableEq, Repr

/-- One step of the work on a unit that can be seen from outside. -/
inductive Activity where
  | event (event : Event)
  | log (line : LogLine)
deriving DecidableEq, Repr

namespace BuildLog

/-- Writes a line. A refusal becomes an event and is otherwise ignored. -/
def emit {σ : Type} (log : BuildLog σ) (state : σ) (line : LogLine) : σ × List Event :=
  match log.write state line with
  | (next, .ok shown) => (next, shown.map .forwarded)
  | (next, .error error) => (next, [.refused error line.level])

/-- Writes the lines among some activities, and lists all events in order. -/
def run {σ : Type} (log : BuildLog σ) (state : σ) : List Activity → σ × List Event
  | [] => (state, [])
  | .event event :: rest =>
    let (last, events) := log.run state rest
    (last, event :: events)
  | .log line :: rest =>
    let (next, shown) := log.emit state line
    let (last, events) := log.run next rest
    (last, shown ++ events)

end BuildLog

/-! ## The activities of a build -/

/-- The activities of one node: its remarks, then a log line if it failed. -/
def Outcome.activities (unit : SourceUnit) (id : NodeId) (outcome : Outcome) : List Activity :=
  outcome.remarks.map (fun remark => .event (.remark unit.fileId id remark)) ++
    match outcome.result with
    | .error failure => [.log (failure.logLine unit.label)]
    | .ok _ => []

/-- The activity of the second pass for one membership. -/
def Link.activity? : Link → Option Activity
  | .dropped owner member => some (.event (.membershipDropped owner member))
  | _ => none

/-- The totals of a build. -/
def Build.summary (build : Build) : BuildSummary :=
  ⟨build.records.entities.length, build.records.astNodes.length, build.failures.length,
    build.counts⟩

/-- The activities of the second pass: the memberships that are dropped, and then the totals. -/
def Build.closing (unit : SourceUnit) (build : Build) : List Activity :=
  build.links.filterMap (·.activity?) ++ [.event (.built unit.fileId build.summary)]

/-! ## Texts of events -/

/-- The levels of events. -/
inductive EventLevel where
  | error
  | warn
  | info
  | debug
  | trace
deriving DecidableEq, Repr

/-- The name of a level, right-aligned in five columns. -/
def EventLevel.column : EventLevel → String
  | .error => "ERROR"
  | .warn => " WARN"
  | .info => " INFO"
  | .debug => "DEBUG"
  | .trace => "TRACE"

/-- The level at which a forwarded line is shown. -/
def LogLevel.eventLevel : LogLevel → EventLevel
  | .error => .error
  | .warning => .warn
  | .info => .info

/-- An event in parts: level, source, text, and named values. -/
structure EventText where
  level : EventLevel
  target : String
  text : String
  fields : List (String × String)

/-- A character of a message. One that steers a terminal is written by its code. -/
def messageChar (c : Char) : List Char :=
  if c = '\x07' ∨ c = '\x08' ∨ c = '\x0c' ∨ c = '\x1b' ∨ c = '\x7f' then
    ['\\', 'x', Nat.digitChar (c.toNat / 16), Nat.digitChar (c.toNat % 16)]
  else if 0x80 ≤ c.toNat ∧ c.toNat ≤ 0x9F then
    ['\\', 'u', '\x7b'] ++ Nat.toDigits 16 c.toNat ++ ['\x7d']
  else [c]

/-- The text of a message, every character by `messageChar`. -/
def messageText (text : String) : String := String.ofList (text.toList.flatMap messageChar)

/-- The text of an event: level, source and message, then the named values. -/
def EventText.render (parts : EventText) : String :=
  parts.level.column ++ " " ++ parts.target ++ ": " ++ parts.text ++
    String.join (parts.fields.map fun (name, value) => " " ++ name ++ "=" ++ value)

namespace Event

/-- The source of events of a build. -/
def buildTarget : String := "tessera::builder"

/-- The source of events about refused lines. -/
def logTarget : String := "tessera::log"

/-- The source of forwarded lines. -/
def lineTarget : String := "tessera::build"

/-- The parts of an event. Names are shown as they are and written references quoted. -/
def parts : Event → EventText
  | .remark file node (.skippedReference written) =>
    ⟨.debug, buildTarget, "Skipping unresolved reference",
      [("file_id", toString file), ("node", toString node),
        ("reference", Text.quoted written)]⟩
  | .remark file node (.placeholder name) =>
    ⟨.debug, buildTarget, "Using placeholder for unresolved binding",
      [("file_id", toString file), ("node", toString node), ("qualified_name", name)]⟩
  | .remark _ node (.anonymousClass start key) =>
    ⟨.trace, buildTarget, "Anonymous class scope",
      [("node", toString node), ("start", toString start), ("key", key.display)]⟩
  | .membershipDropped owner member =>
    ⟨.debug, buildTarget, "Dropping membership of a type without records",
      [("owner", toString owner), ("member", toString member)]⟩
  | .built file summary =>
    ⟨.debug, buildTarget, "Built entity records",
      [("file_id", toString file), ("entities", toString summary.entities),
        ("ast_nodes", toString summary.astNodes), ("errors", toString summary.failures),
        ("placeholders", toString summary.counts.placeholders),
        ("skipped", toString summary.counts.skippedReferences)]⟩
  | .forwarded line => ⟨line.level.eventLevel, lineTarget, messageText line.text, []⟩
  | .refused error level =>
    ⟨.debug, logTarget, "dropped build log line",
      [("error", error.message), ("level", level.name)]⟩

/-- The lines that show an event. A line feed in it begins a new line. -/
def lines (event : Event) : List String := Text.linesOf event.parts.render

end Event

end CodeIndex

import CodeIndex.Trace

/-!
# Extraction

The work on a unit is done piece by piece: every node, the memberships that wait for the end of the
nodes, and every problem. What a piece has to say to the log and the observer is said before the
next piece is begun (`BuildLog.workThrough`); what it found is kept in `Findings`.

`Extractor.extract` works through a whole unit with a log. `SourceUnit.extraction` is everything
that one unit gives, as a function of the configuration and the unit alone: its rows, its
diagnostics and its failures, those of the nodes before those of the problems.
-/

namespace CodeIndex

/-- Everything that one unit gives. -/
structure UnitExtraction where
  fileId : FileId
  records : RecordSet
  diagnostics : List Diagnostic
  failures : List Failure
  counts : Counts
deriving DecidableEq, Repr

/-- What a unit gives. -/
def SourceUnit.extraction (config : Config) (unit : SourceUnit) : UnitExtraction where
  fileId := unit.fileId
  records := (unit.build config).records
  diagnostics := unit.diagnostics
  failures := (unit.build config).failures ++ unit.problemFailures
  counts := (unit.build config).counts

/-! ## Piece by piece -/

/-- A piece of the work on a unit: one of its nodes, the memberships that wait for the end of the
nodes, or one of its problems. -/
inductive Work where
  | node (context : NodeContext)
  | memberships
  | problem (lines : LineMap) (index : Nat) (reported : Problem)

namespace SourceUnit

/-- The work on the nodes of a unit, in both passes. -/
def nodeWork (config : Config) (unit : SourceUnit) : List Work :=
  (unit.contexts config).map .node ++ [.memberships]

/-- The work on the problems of a unit. -/
def problemWork (unit : SourceUnit) : List Work :=
  let lines := LineMap.ofText unit.source
  unit.problems.toList.zipIdx.map fun (problem, index) => .problem lines index problem

/-- The work on a unit: its nodes, then its problems. -/
def work (config : Config) (unit : SourceUnit) : List Work :=
  unit.nodeWork config ++ unit.problemWork

end SourceUnit

/-- What the work on a unit has found so far. -/
structure Findings where
  outcomes : Array (NodeId × Outcome) := #[]
  links : List Link := []
  diagnostics : Array Diagnostic := #[]
  problemFailures : Array Failure := #[]

namespace Findings

/-- The build that was found. -/
def build (found : Findings) : Build := ⟨found.outcomes.toList, found.links⟩

/-- One more piece of work: what is found then, and what can be seen of it from outside. -/
def next (unit : SourceUnit) (found : Findings) : Work → Findings × List Activity
  | .node context =>
    let outcome := context.outcome
    ({ found with outcomes := found.outcomes.push (context.id, outcome) },
      outcome.activities unit context.id)
  | .memberships =>
    let linked := { found with links := unit.links found.outcomes.toList }
    (linked, linked.build.closing unit)
  | .problem lines index reported =>
    match reported.diagnose lines index with
    | .ok diagnostic =>
      ({ found with diagnostics := found.diagnostics.push diagnostic },
        [.log (diagnostic.logLine unit.label)])
    | .error failure =>
      ({ found with problemFailures := found.problemFailures.push failure },
        [.log (failure.logLine unit.label)])

/-- What a unit gives by what was found in it. -/
def extraction (unit : SourceUnit) (found : Findings) : UnitExtraction where
  fileId := unit.fileId
  records := found.build.records
  diagnostics := found.diagnostics.toList
  failures := found.build.failures ++ found.problemFailures.toList
  counts := found.build.counts

end Findings

/-! ## With a log -/

/-- What work with a log leaves behind: a result, the state of the log, and the events. -/
structure Observed (σ α : Type) where
  result : α
  state : σ
  events : List Event

/-- Some work with a log. What a piece has to say is said as soon as it is done. -/
def BuildLog.workThrough {σ : Type} (log : BuildLog σ) (unit : SourceUnit) :
    Findings → σ → List Work → Observed σ Findings
  | found, state, [] => ⟨found, state, []⟩
  | found, state, piece :: rest =>
    let (found, activities) := found.next unit piece
    let (state, shown) := log.run state activities
    let last := log.workThrough unit found state rest
    { last with events := shown ++ last.events }

/-- A configuration with a log. -/
structure Extractor (σ : Type) where
  config : Config
  log : BuildLog σ

namespace Extractor

variable {σ : Type}

/-- The rows of a unit. Without a unit there is nothing to build. -/
def build (extractor : Extractor σ) (state : σ) (unit : Option SourceUnit) :
    Observed σ (Except Error Build) :=
  match unit with
  | none => ⟨.error .noUnit, state, []⟩
  | some unit =>
    let last := extractor.log.workThrough unit {} state (unit.nodeWork extractor.config)
    ⟨.ok last.result.build, last.state, last.events⟩

/-- Everything that a unit gives. Without a unit there is nothing to extract from. -/
def extract (extractor : Extractor σ) (state : σ) (unit : Option SourceUnit) :
    Observed σ (Except Error UnitExtraction) :=
  match unit with
  | none => ⟨.error .noUnit, state, []⟩
  | some unit =>
    let last := extractor.log.workThrough unit {} state (unit.work extractor.config)
    ⟨.ok (last.result.extraction unit), last.state, last.events⟩

/-- What several units give, in their order, with one log for all of them. -/
def extractAll (extractor : Extractor σ) (state : σ) :
    List SourceUnit → Observed σ (Except Error (List UnitExtraction))
  | [] => ⟨.ok [], state, []⟩
  | unit :: rest =>
    let first := extractor.extract state (some unit)
    let others := extractor.extractAll first.state rest
    ⟨first.result >>= fun extraction => others.result.map (extraction :: ·), others.state,
      first.events ++ others.events⟩

end Extractor

end CodeIndex

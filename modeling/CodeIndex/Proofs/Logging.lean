import CodeIndex.Extraction
import CodeIndex.Proofs.Accounting
import CodeIndex.Proofs.Correspondence
import CodeIndex.Proofs.Problems
import CodeIndex.Proofs.Stepwise
import Mathlib.Logic.Relation

/-!
# The log is written and never read

Failures and problems are told to a log while a unit is worked on. Whatever the log does with a
line, the work goes on in the same way, and every line is written.

* `SourceUnit.calls` are the lines that a unit gives, in order, with their levels.
* `Findings.next_node` and its like say what one piece of work does, and `workThrough_eq` what any
  amount of work comes to: what is found does not depend on the log, and the log is given the lines
  of the pieces.
* `extract_result`, `extract_state`: so an extraction gives what the unit gives without any log, and
  writes the lines of the unit and no others. `BuildLog.recorded` shows these for any log.
* `Job.Step` is a step of several units that are worked on in turn, in any order of their pieces
  and with one log for all of them; no step changes what the units come to (`Job.Step.finished`).
* `extraction_log`: no log changes what is extracted, and every log is told all lines in order.
-/

namespace CodeIndex

/-! ## Lines -/

/-- The lines that a unit gives: a warning for each node that failed, then a line for each
problem. -/
def SourceUnit.calls (config : Config) (unit : SourceUnit) : List LogLine :=
  (unit.build config).failures.map
      (fun failure => ⟨.warning, unit.label ++ " " ++ failure.display⟩) ++
    unit.problems.toList.zipIdx.map fun (problem, index) =>
      problem.line unit.label (LineMap.ofText unit.source) index

/-- The line of an activity that is one for the log. -/
def Activity.line? : Activity → Option LogLine
  | .event _ => none
  | .log line => some line

/-- The failure of an outcome. -/
def Outcome.failure? (outcome : Outcome) : Option Failure :=
  match outcome.result with
  | .error failure => some failure
  | .ok _ => none

namespace BuildLog

variable {σ : Type}

/-- The state of the log after some lines. Refusals are ignored. -/
def writeAll (log : BuildLog σ) (state : σ) (lines : List LogLine) : σ :=
  lines.foldl (fun state line => (log.emit state line).1) state

/-- The log with a list of all lines that it is given. What it makes of a line, and whether it
refuses it, stays as it is. -/
def recorded (log : BuildLog σ) : BuildLog (σ × List LogLine) where
  write state line :=
    let (next, answer) := log.write state.1 line
    ((next, state.2 ++ [line]), answer)

theorem emit_state (log : BuildLog σ) (state : σ) (line : LogLine) :
    (log.emit state line).1 = (log.write state line).1 := by
  unfold emit
  rcases log.write state line with ⟨next, error | shown⟩ <;> rfl

theorem emit_recorded (log : BuildLog σ) (state : σ) (earlier : List LogLine) (line : LogLine) :
    (log.recorded.emit (state, earlier) line).1 = ((log.emit state line).1, earlier ++ [line]) := by
  rw [emit_state, emit_state]
  rfl

theorem writeAll_recorded (log : BuildLog σ) (state : σ) (earlier lines : List LogLine) :
    log.recorded.writeAll (state, earlier) lines =
      (log.writeAll state lines, earlier ++ lines) := by
  unfold writeAll
  induction lines generalizing state earlier with
  | nil => rw [List.append_nil]; rfl
  | cons line rest ih =>
      rw [List.foldl_cons, List.foldl_cons, emit_recorded, ih, List.append_assoc]
      rfl

theorem writeAll_memory (earlier lines : List LogLine) :
    memory.writeAll earlier lines = earlier ++ lines := by
  unfold writeAll
  induction lines generalizing earlier with
  | nil => rw [List.append_nil]; rfl
  | cons line rest ih =>
      rw [List.foldl_cons, ih]
      exact List.append_assoc ..

/-- Activities write their lines, one after the other. -/
theorem run_state (log : BuildLog σ) (state : σ) (activities : List Activity) :
    (log.run state activities).1 = log.writeAll state (activities.filterMap (·.line?)) := by
  induction activities generalizing state with
  | nil => rfl
  | cons activity rest ih =>
      cases activity with
      | event event => exact ih state
      | log line => exact ih (log.emit state line).1

end BuildLog

/-! ## Labels -/

namespace SourceUnit

section Label

variable (config : Config) (unit : SourceUnit) (label : String)

/-- The unit under another label. -/
def relabeled : SourceUnit := { unit with label := label }

theorem embeds_relabeled : Embeds id (fun _ => True) unit (unit.relabeled label) where
  injective := fun _ _ _ _ same => same
  absent := fun _ _ missing => missing
  present := fun _ node _ present => ⟨node, present, .of_id node⟩
  closed := fun _ _ _ _ _ _ => trivial
  package := fun _ _ _ _ _ => rfl

theorem outcomes_relabeled : (unit.relabeled label).outcomes config = unit.outcomes config := by
  rw [outcomes_eq, outcomes_eq]
  refine List.map_congr_left ?_
  rintro ⟨place, node⟩ _
  exact congrArg (place, ·) ((unit.context config place node).outcome_eq_of_embeds
    (unit.embeds_relabeled label) trivial rfl)

theorem link_relabeled : (unit.relabeled label).link = unit.link := by
  funext emitted pending
  have owner : (unit.relabeled label).typeIdentity pending.owner =
      unit.typeIdentity pending.owner :=
    ((unit.embeds_relabeled label).typeIdentity trivial).eq_of_id
  unfold link
  rw [owner]

/-- The label has no part in an extraction. -/
theorem extraction_relabeled :
    (unit.relabeled label).extraction config = unit.extraction config := by
  have build : (unit.relabeled label).build config = unit.build config := by
    unfold SourceUnit.build SourceUnit.links
    rw [outcomes_relabeled, link_relabeled]
  unfold extraction
  rw [build]
  rfl

end Label

end SourceUnit

/-! ## One piece after another -/

/-- The line that a piece of work gives. -/
def Work.line? (unit : SourceUnit) : Work → Option LogLine
  | .node context => context.outcome.failure?.map (·.logLine unit.label)
  | .memberships => none
  | .problem lines index reported => some (reported.line unit.label lines index)

namespace Findings

variable (unit : SourceUnit) (found : Findings)

/-- What is found after some more work. -/
def after (work : List Work) : Findings :=
  work.foldl (fun found piece => (found.next unit piece).1) found

theorem next_node (context : NodeContext) :
    (found.next unit (.node context)).1 =
      { found with outcomes := found.outcomes ++ #[(context.id, context.outcome)] } :=
  congrArg (fun outcomes => { found with outcomes := outcomes }) Array.push_eq_append

theorem next_problem (lines : LineMap) (index : Nat) (problem : Problem) :
    (found.next unit (.problem lines index problem)).1 =
      { found with
        diagnostics := found.diagnostics ++ (problem.diagnose lines index).toOption.toArray
        problemFailures := found.problemFailures ++ (problem.failure? lines index).toArray } := by
  rw [← failure?_of_diagnose]
  simp only [next]
  cases problem.diagnose lines index <;> simp [Except.toOption]

/-- A piece of work has its own line to say and no other, whatever was found before. -/
theorem lines_next (piece : Work) :
    (found.next unit piece).2.filterMap (·.line?) = (piece.line? unit).toList := by
  cases piece with
  | node context =>
      simp only [next, Outcome.activities, Work.line?, Outcome.failure?]
      cases context.outcome.result <;> simp [Activity.line?]
  | memberships =>
      have silent : ∀ link : Link, link.activity?.bind (·.line?) = none := fun link => by
        cases link <;> rfl
      rw [next, Build.closing, List.filterMap_append, List.filterMap_filterMap,
        List.filterMap_eq_nil_iff.mpr fun link _ => silent link]
      rfl
  | problem lines index problem =>
      simp only [next, Work.line?, ← logLine_of_diagnose]
      cases problem.diagnose lines index <;> rfl

theorem after_append (first second : List Work) :
    found.after unit (first ++ second) = (found.after unit first).after unit second :=
  List.foldl_append

/-- Working through nodes collects their outcomes. -/
theorem after_nodes (contexts : List NodeContext) :
    found.after unit (contexts.map .node) =
      { found with
        outcomes := found.outcomes ++
          (contexts.map fun context => (context.id, context.outcome)).toArray } := by
  unfold after
  induction contexts generalizing found with
  | nil => simp
  | cons context rest ih =>
      rw [List.map_cons, List.foldl_cons, next_node, ih]
      simp

/-- Working through problems collects what they become. -/
theorem after_problems (lines : LineMap) (problems : List (Problem × Nat)) :
    found.after unit (problems.map fun (problem, index) => .problem lines index problem) =
      { found with
        diagnostics := found.diagnostics ++ (problems.filterMap fun (problem, index) =>
          (problem.diagnose lines index).toOption).toArray
        problemFailures := found.problemFailures ++ (problems.filterMap fun (problem, index) =>
          problem.failure? lines index).toArray } := by
  unfold after
  induction problems generalizing found with
  | nil => simp
  | cons entry rest ih =>
      rw [List.map_cons, List.foldl_cons, next_problem, ih]
      simp [List.filterMap_eq_flatMap_toList, ← List.append_toArray]

end Findings

/-- Working with a log finds what work without one finds, and gives the lines of the pieces to the
log. -/
theorem workThrough_eq {σ : Type} (log : BuildLog σ) (unit : SourceUnit) (found : Findings)
    (state : σ) (work : List Work) :
    (log.workThrough unit found state work).result = found.after unit work ∧
      (log.workThrough unit found state work).state =
        log.writeAll state (work.filterMap (·.line? unit)) := by
  induction work generalizing found state with
  | nil => exact ⟨rfl, rfl⟩
  | cons piece rest ih =>
      obtain ⟨result, last⟩ := ih (found.next unit piece).1
        (log.run state (found.next unit piece).2).1
      refine ⟨result, last.trans ?_⟩
      rw [log.run_state, found.lines_next, List.filterMap_cons]
      cases piece.line? unit <;> rfl

/-! ## A whole unit -/

namespace SourceUnit

variable (config : Config) (unit : SourceUnit)

/-- The work on the problems of a unit finds its diagnostics and the failures to place one. -/
theorem after_problemWork (found : Findings) :
    found.after unit unit.problemWork =
      { found with
        diagnostics := found.diagnostics ++ unit.diagnostics.toArray
        problemFailures := found.problemFailures ++ unit.problemFailures.toArray } := by
  rw [problemWork, Findings.after_problems, diagnostics_eq, problemFailures_eq]

/-- The work on the nodes of a unit finds its build. -/
theorem after_nodeWork :
    ({} : Findings).after unit (unit.nodeWork config) =
      { outcomes := (unit.build config).outcomes.toArray, links := (unit.build config).links } := by
  rw [nodeWork, Findings.after_append, Findings.after_nodes]
  simp [Findings.after, Findings.next, build, outcomes]

/-- What is found by the work on a unit is what the unit gives. -/
theorem extraction_after_work :
    (({} : Findings).after unit (unit.work config)).extraction unit = unit.extraction config := by
  rw [work, Findings.after_append, after_nodeWork, after_problemWork]
  simp [Findings.extraction, Findings.build, extraction]

theorem lines_work : (unit.work config).filterMap (·.line? unit) = unit.calls config := by
  have nodes : (unit.build config).failures =
      (unit.contexts config).filterMap (·.outcome.failure?) := List.filterMap_map
  have first : (unit.nodeWork config).filterMap (·.line? unit) =
      (unit.build config).failures.map (·.logLine unit.label) := by
    rw [nodeWork, List.filterMap_append, List.filterMap_map, nodes, List.map_filterMap]
    exact List.append_nil _
  have second : unit.problemWork.filterMap (·.line? unit) = unit.problemLines := by
    rw [problemLines_eq, problemWork, List.filterMap_map]
    exact congrFun List.filterMap_eq_map _
  rw [work, List.filterMap_append, first, second, problemLines_eq]
  rfl

variable {σ : Type} (log : BuildLog σ) (state : σ)

/-- An extraction gives what the unit gives, with any log. -/
theorem extract_result :
    (Extractor.extract ⟨config, log⟩ state (some unit)).result = .ok (unit.extraction config) := by
  rw [← extraction_after_work, ← (workThrough_eq log unit {} state (unit.work config)).1]
  rfl

/-- An extraction writes the lines of its unit, and no others. -/
theorem extract_state :
    (Extractor.extract ⟨config, log⟩ state (some unit)).state =
      log.writeAll state (unit.calls config) := by
  rw [← lines_work, ← (workThrough_eq log unit {} state (unit.work config)).2]
  rfl

end SourceUnit

/-! ## Several units with one log -/

/-- A unit that is worked on, with what was found in it and what is still to do. -/
structure Job where
  unit : SourceUnit
  found : Findings := {}
  todo : List Work

namespace Job

/-- The job of a unit, before anything is done. -/
def ofUnit (config : Config) (unit : SourceUnit) : Job where
  unit := unit
  todo := unit.work config

/-- What the unit of a job gives, by what was found so far. -/
def extraction (job : Job) : UnitExtraction := job.found.extraction job.unit

/-- The job once everything is done. -/
def finished (job : Job) : Job :=
  { job with found := job.found.after job.unit job.todo, todo := [] }

/-- One of several jobs does its next piece of work and says what it has to say to the log that
they share. Any of them may be the next. -/
inductive Step {σ : Type} (log : BuildLog σ) : List Job × σ → List Job × σ → Prop
  | step (before after : List Job) (unit : SourceUnit) (found : Findings) (piece : Work)
      (rest : List Work) (state : σ) :
      Step log (before ++ ⟨unit, found, piece :: rest⟩ :: after, state)
        (before ++ ⟨unit, (found.next unit piece).1, rest⟩ :: after,
          (log.run state (found.next unit piece).2).1)

/-- Any number of steps. -/
abbrev Steps {σ : Type} (log : BuildLog σ) : List Job × σ → List Job × σ → Prop :=
  Relation.ReflTransGen (Step log)

variable {σ : Type} {log : BuildLog σ}

/-- A step does not change what the jobs will come to. -/
theorem Step.finished {first second : List Job × σ} (step : Step log first second) :
    second.1.map (·.finished) = first.1.map (·.finished) := by
  obtain ⟨before, after, unit, found, piece, rest, state⟩ := step
  rw [List.map_append, List.map_append, List.map_cons, List.map_cons]
  -- the piece that was done is the first of those that finishing the job would do
  rfl

/-- However the steps of several jobs follow each other, the jobs come to the same. -/
theorem finished_of_steps {first last : List Job × σ}
    (steps : Steps log first last) :
    last.1.map (·.finished) = first.1.map (·.finished) := by
  induction steps with
  | refl => rfl
  | tail _ step ih => exact step.finished.trans ih

/-- A job whose work is done is finished. -/
theorem finished_of_done {job : Job} (done : job.todo = []) : job.finished = job := by
  obtain ⟨unit, found, todo⟩ := job
  obtain rfl : todo = [] := done
  rfl

/-- A job can always be worked on to its end, whatever the log does. -/
theorem steps_of_job (log : BuildLog σ) (before after : List Job) (job : Job) (state : σ) :
    ∃ last, Steps log (before ++ job :: after, state)
      (before ++ job.finished :: after, last) := by
  obtain ⟨unit, found, todo⟩ := job
  induction todo generalizing found state with
  | nil => exact ⟨state, .refl⟩
  | cons piece rest ih =>
      obtain ⟨last, steps⟩ := ih (log.run state (found.next unit piece).2).1
        (found.next unit piece).1
      exact ⟨last, .head (.step before after unit found piece rest state) steps⟩

theorem steps_to_finished (log : BuildLog σ) (before jobs : List Job) (state : σ) :
    ∃ last, Steps log (before ++ jobs, state) (before ++ jobs.map (·.finished), last) := by
  induction jobs generalizing before state with
  | nil => exact ⟨state, .refl⟩
  | cons job rest ih =>
      obtain ⟨next, first⟩ := steps_of_job log before rest job state
      obtain ⟨last, others⟩ := ih (before ++ [job.finished]) next
      rw [List.append_assoc, List.append_assoc, List.singleton_append] at others
      exact ⟨last, first.trans others⟩

/-- However far the jobs have come, they can be worked on until nothing is left to do. -/
theorem exists_done (log : BuildLog σ) (reached : List Job × σ) :
    ∃ last, Steps log reached last ∧ ∀ job ∈ last.1, job.todo = [] := by
  obtain ⟨jobs, state⟩ := reached
  obtain ⟨last, steps⟩ := steps_to_finished log [] jobs state
  refine ⟨_, steps, fun job member => ?_⟩
  obtain ⟨job, _, rfl⟩ := List.mem_map.mp member
  rfl

/-- Where nothing is left to do, the jobs have found what their units give. -/
theorem extraction_of_done {config : Config} {units : List SourceUnit} {state : σ}
    {reached : List Job × σ} (steps : Steps log (units.map (ofUnit config), state) reached)
    (done : ∀ job ∈ reached.1, job.todo = []) :
    reached.1.map (·.extraction) = units.map (·.extraction config) := by
  calc reached.1.map (·.extraction)
    _ = (reached.1.map (·.finished)).map (·.extraction) := by
        rw [List.map_congr_left fun job member => finished_of_done (done job member),
          List.map_id']
    _ = (units.map (ofUnit config)).map fun job => job.finished.extraction := by
        rw [finished_of_steps steps, List.map_map]
        rfl
    _ = units.map (·.extraction config) := by
        rw [List.map_map]
        exact List.map_congr_left fun unit _ => unit.extraction_after_work config

end Job

/-! ## Main statements -/

/-- The log of an extraction is written and never read, and it is told everything.

* `result`: where every line is given to the log as soon as it arises, the extraction is the same
  with any log, whichever lines it refuses; `label`: and it is the same under any label.
* `visits`: it is what visiting the nodes one after another leaves, step by step, followed by what
  the problems become.
* `calls`: a log is given the lines of the unit, whatever it did with the lines before.
* `increasing`, `failures`: the failures of the nodes come in the order of the nodes, and then
  those of the problems in the order of the problems. -/
structure Logged (config : Config) (unit : SourceUnit) : Prop where
  result : ∀ {σ : Type} (log : BuildLog σ) (state : σ),
    (Extractor.extract ⟨config, log⟩ state (some unit)).result = .ok (unit.extraction config)
  label : ∀ label : String, (unit.relabeled label).extraction config = unit.extraction config
  visits : unit.extraction config = {
    fileId := unit.fileId
    records := (unit.run config).linked unit
    diagnostics := unit.diagnostics
    failures := (unit.run config).failures ++ unit.problemFailures
    counts := (unit.run config).counts }
  calls : ∀ {σ : Type} (log : BuildLog σ) (state : σ) (earlier : List LogLine),
    (Extractor.extract ⟨config, log.recorded⟩ (state, earlier) (some unit)).state =
      ((Extractor.extract ⟨config, log⟩ state (some unit)).state, earlier ++ unit.calls config)
  increasing : ∃ ids : List NodeId, ids.Pairwise (· < ·) ∧
    (unit.build config).failures.map (·.subject) = ids.map .node
  failures : (unit.extraction config).failures = (unit.build config).failures ++
    unit.problems.toList.zipIdx.filterMap fun (problem, index) =>
      problem.failure? (LineMap.ofText unit.source) index

theorem logged (config : Config) (unit : SourceUnit) : Logged config unit where
  result := unit.extract_result config
  label := unit.extraction_relabeled config
  visits := by
    obtain ⟨records, failures, counts⟩ := build_eq_run config unit
    rw [← records, ← failures, ← counts]
    rfl
  calls := by
    intro σ log state earlier
    rw [unit.extract_state, unit.extract_state, log.writeAll_recorded]
  increasing := ⟨unit.failedNodes config, unit.failedNodes_pairwise config,
    unit.build_failures_subjects config⟩
  failures := by
    rw [← unit.problemFailures_eq]
    rfl

theorem extractAll_result {σ : Type} (extractor : Extractor σ) (state : σ)
    (units : List SourceUnit) :
    (extractor.extractAll state units).result =
      .ok (units.map (·.extraction extractor.config)) := by
  induction units generalizing state with
  | nil => rfl
  | cons unit rest ih =>
      simp only [Extractor.extractAll, ih, unit.extract_result extractor.config extractor.log state]
      rfl

/-- Where extractions follow one another with one log that keeps its lines, it has those of the
first, then those of the second, and so on. -/
theorem memory_of_extracts (earlier : List LogLine) (sources : List (Config × Option SourceUnit)) :
    sources.foldl (fun lines (config, unit) =>
        (Extractor.extract ⟨config, .memory⟩ lines unit).state) earlier =
      earlier ++ sources.flatMap fun (config, unit) => unit.toList.flatMap (·.calls config) := by
  induction sources generalizing earlier with
  | nil => exact (List.append_nil _).symm
  | cons source rest ih =>
      obtain ⟨config, unit⟩ := source
      rw [List.foldl_cons, ih, List.flatMap_cons, ← List.append_assoc]
      congr 1
      cases unit with
      | none => exact (List.append_nil _).symm
      | some unit =>
          simp only [unit.extract_state config, BuildLog.writeAll_memory, Option.toList_some,
            List.flatMap_singleton]

/-- No log changes what is extracted, and every log is told all lines in order.

Where extractions follow one another with one log that keeps its lines, it has those of the first,
then those of the second, and so on. Several units give together what each of them gives alone;
and where their work is done in turn, piece by piece and in any order, it can always be brought to
its end, and every end is the same. -/
theorem extraction_log (config : Config) :
    (∀ unit, Logged config unit) ∧
      (∀ (earlier : List LogLine) (sources : List (Config × Option SourceUnit)),
        sources.foldl (fun lines (config, unit) =>
            (Extractor.extract ⟨config, .memory⟩ lines unit).state) earlier =
          earlier ++ sources.flatMap fun (config, unit) =>
            unit.toList.flatMap (·.calls config)) ∧
      ∀ {σ : Type} (log : BuildLog σ) (state : σ) (units : List SourceUnit),
        (Extractor.extractAll ⟨config, log⟩ state units).result =
            .ok (units.map (·.extraction config)) ∧
          ∀ reached, Job.Steps log (units.map (.ofUnit config), state) reached →
            (∃ last, Job.Steps log reached last ∧ ∀ job ∈ last.1, job.todo = []) ∧
            ((∀ job ∈ reached.1, job.todo = []) →
              reached.1.map (·.extraction) = units.map (·.extraction config)) := by
  exact ⟨logged config, memory_of_extracts, fun log state units =>
    ⟨extractAll_result _ _ _, fun reached steps =>
      ⟨Job.exists_done log reached, Job.extraction_of_done steps⟩⟩⟩

end CodeIndex

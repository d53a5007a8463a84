import CodeIndex.Proofs.Logging
import CodeIndex.Proofs.SpanOrder
import Mathlib.Data.List.Forall2

/-!
# Problems with a place and problems without one

The problems of a unit are split in two: those with a place become diagnostics, the others become
failures. Both lists are in the order of the problems, and together they have each problem once.

* `LineMap.span_wellFormed`: whatever the text, a span is counted from one and does not end before
  it starts.
* `Findings.Split` says what is found in the first problems; `Findings.Split.next` is one more
  problem, and `Findings.Split.after` all the others.
* `problems_split`: what becomes of the problems of a unit, with any log and with none.
-/

namespace CodeIndex

/-! ## Spans of any text -/

namespace LineMap

variable {lines : LineMap} {offset first last : Nat} {position : Position} {span : Span}

/-- Lines and columns are counted from one, also where they are cut down to the largest one. -/
theorem one_le_position (found : lines.position offset = .ok position) :
    1 ≤ position.line ∧ 1 ≤ position.column := by
  have largest : 1 ≤ maxCoordinate := by decide
  unfold LineMap.position at found
  split at found
  · cases found
  · cases found
    exact ⟨Nat.le_min.mpr ⟨Nat.le_add_left 1 _, largest⟩,
      Nat.le_min.mpr ⟨Nat.le_add_left 1 _, largest⟩⟩

/-- A span is made of the positions of its two ends, which are in order. -/
theorem ends_of_span (found : lines.span first last = .ok span) :
    lines.position first = .ok ⟨span.startLine, span.startColumn⟩ ∧
      lines.position last = .ok ⟨span.endLine, span.endColumn⟩ ∧
      ¬Position.Before ⟨span.endLine, span.endColumn⟩ ⟨span.startLine, span.startColumn⟩ := by
  unfold LineMap.span at found
  split at found
  · cases found
  · cases starts : lines.position first with
    | error error =>
        rw [starts] at found
        cases found
    | ok start =>
        cases stops : lines.position last with
        | error error =>
            rw [starts, stops] at found
            cases found
        | ok stop =>
            simp only [starts, stops, bind, Except.bind] at found
            by_cases swapped : stop.Before start
            · rw [show Span.between? start stop = none from if_pos swapped] at found
              cases found
            · rw [Span.between?_of_not_before swapped] at found
              cases found
              exact ⟨rfl, rfl, swapped⟩

/-- A span has lines and columns from one on, and does not end before it starts. -/
theorem span_wellFormed (found : lines.span first last = .ok span) :
    (1 ≤ span.startLine ∧ 1 ≤ span.startColumn ∧ 1 ≤ span.endLine ∧ 1 ≤ span.endColumn) ∧
      ¬Position.Before ⟨span.endLine, span.endColumn⟩ ⟨span.startLine, span.startColumn⟩ := by
  obtain ⟨start, stop, ordered⟩ := ends_of_span found
  obtain ⟨startLine, startColumn⟩ := one_le_position start
  obtain ⟨endLine, endColumn⟩ := one_le_position stop
  exact ⟨⟨startLine, startColumn, endLine, endColumn⟩, ordered⟩

end LineMap

/-! ## What a problem becomes -/

/-- The diagnostic of the problem at an index: its own message, the graver one of the severities
that it is flagged with, and the span of its offsets. -/
structure Diagnostic.IsOf (unit : SourceUnit) (index : Nat) (problem : Problem)
    (diagnostic : Diagnostic) : Prop where
  present : unit.problems[index]? = some problem
  message : diagnostic.message = problem.message
  severity : diagnostic.severity =
    if problem.isError then .error else if problem.isWarning then .warning else .note
  range : (LineMap.ofText unit.source).span problem.start problem.stop = .ok diagnostic.range

/-- The failure of the problem at an index: it is about that problem, and says why its offsets have
no span. -/
structure Failure.IsOf (unit : SourceUnit) (index : Nat) (problem : Problem) (failure : Failure) :
    Prop where
  present : unit.problems[index]? = some problem
  subject : failure.subject = .problem index
  kind : failure.kind = .position
  message : ∃ error, failure.message = error.message ∧
    (LineMap.ofText unit.source).span problem.start problem.stop = .error error

namespace SourceUnit

/-- The problem at an index has a place in the text. -/
def hasPlace (unit : SourceUnit) (index : Nat) : Bool :=
  unit.problems[index]?.any fun problem =>
    ((LineMap.ofText unit.source).span problem.start problem.stop).isOk

/-- Of so many problems, those that have a place, in order. -/
def placed (unit : SourceUnit) (count : Nat) : List Nat :=
  (List.range count).filter unit.hasPlace

/-- Of so many problems, those that have no place, in order. -/
def unplaced (unit : SourceUnit) (count : Nat) : List Nat :=
  (List.range count).filter fun index => !unit.hasPlace index

section Split

variable {unit : SourceUnit} {index count : Nat} {problem : Problem}

theorem hasPlace_of_present (present : unit.problems[index]? = some problem) :
    unit.hasPlace index =
      ((LineMap.ofText unit.source).span problem.start problem.stop).isOk := by
  rw [hasPlace, present, Option.any_some]

theorem split_succ_of_ok (present : unit.problems[count]? = some problem) {range : Span}
    (located : (LineMap.ofText unit.source).span problem.start problem.stop = .ok range) :
    unit.placed (count + 1) = unit.placed count ++ [count] ∧
      unit.unplaced (count + 1) = unit.unplaced count := by
  have here : unit.hasPlace count = true := by
    rw [hasPlace_of_present present, located]
    rfl
  simp [placed, unplaced, List.range_succ, here]

theorem split_succ_of_error (present : unit.problems[count]? = some problem)
    {error : PositionError}
    (located : (LineMap.ofText unit.source).span problem.start problem.stop = .error error) :
    unit.placed (count + 1) = unit.placed count ∧
      unit.unplaced (count + 1) = unit.unplaced count ++ [count] := by
  have here : unit.hasPlace count = false := by
    rw [hasPlace_of_present present, located]
    rfl
  simp [placed, unplaced, List.range_succ, here]

end Split

end SourceUnit

/-! ## One problem after another -/

namespace Findings

/-- What is found in the first problems of a unit: a diagnostic for each one that has a place and a
failure for each one that has none, in order. -/
structure Split (unit : SourceUnit) (count : Nat) (found : Findings) : Prop where
  diagnostics : List.Forall₂ (fun index diagnostic => ∃ problem,
    Diagnostic.IsOf unit index problem diagnostic) (unit.placed count) found.diagnostics.toList
  failures : List.Forall₂ (fun index failure => ∃ problem,
    Failure.IsOf unit index problem failure) (unit.unplaced count) found.problemFailures.toList

namespace Split

variable {unit : SourceUnit} {count : Nat} {found : Findings}

theorem nothing : Split unit 0 {} where
  diagnostics := .nil
  failures := .nil

/-- One more problem gives a diagnostic or a failure, and leaves the other list as it is. -/
theorem next (split : Split unit count found) {problem : Problem}
    (present : unit.problems[count]? = some problem) :
    Split unit (count + 1)
      (found.next unit (.problem (LineMap.ofText unit.source) count problem)).1 := by
  rw [next_problem]
  cases located : (LineMap.ofText unit.source).span problem.start problem.stop with
  | ok range =>
      obtain ⟨placed, unplaced⟩ := SourceUnit.split_succ_of_ok present located
      have diagnosed : problem.diagnose (LineMap.ofText unit.source) count =
          .ok ⟨problem.message, problem.severity, range⟩ := by rw [Problem.diagnose, located]
      have spared : problem.failure? (LineMap.ofText unit.source) count = none := by
        rw [Problem.failure?, located]
      constructor
      · rw [placed, diagnosed, Array.toList_append]
        exact List.rel_append split.diagnostics (.cons ⟨problem, present, rfl, rfl, located⟩ .nil)
      · rw [unplaced, spared, Option.toArray_none, Array.append_empty]
        exact split.failures
  | error error =>
      obtain ⟨placed, unplaced⟩ := SourceUnit.split_succ_of_error present located
      have diagnosed : problem.diagnose (LineMap.ofText unit.source) count =
          .error (.ofPosition (.problem count) error) := by rw [Problem.diagnose, located]
      have failed : problem.failure? (LineMap.ofText unit.source) count =
          some (.ofPosition (.problem count) error) := by rw [Problem.failure?, located]
      constructor
      · rw [placed, diagnosed, Except.toOption, Option.toArray_none, Array.append_empty]
        exact split.diagnostics
      · rw [unplaced, failed, Array.toList_append]
        exact List.rel_append split.failures
          (.cons ⟨problem, present, rfl, rfl, ⟨error, rfl, located⟩⟩ .nil)

/-- All other problems, one after another. -/
theorem after (split : Split unit count found) {rest : List Problem}
    (left : rest = unit.problems.toList.drop count) :
    Split unit (count + rest.length) (found.after unit ((rest.zipIdx count).map
      fun (problem, index) => .problem (LineMap.ofText unit.source) index problem)) := by
  induction rest generalizing count found with
  | nil => exact split
  | cons problem rest ih =>
      have present : unit.problems[count]? = some problem := by
        rw [← Array.getElem?_toList, ← List.head?_drop, ← left, List.head?_cons]
      have others : rest = unit.problems.toList.drop (count + 1) := by
        rw [← List.drop_drop, ← left, List.drop_succ_cons, List.drop_zero]
      have further := ih (split.next present) others
      rw [Nat.add_right_comm, Nat.add_assoc] at further
      exact further

end Split

/-- The work on the problems of a unit splits them. -/
theorem split_problemWork (unit : SourceUnit) :
    Split unit unit.problems.size (({} : Findings).after unit unit.problemWork) := by
  have all : Split unit (0 + unit.problems.toList.length)
      (({} : Findings).after unit unit.problemWork) := Split.nothing.after List.drop_zero.symm
  rwa [Nat.zero_add, Array.length_toList] at all

end Findings

namespace SourceUnit

/-- The problems of a unit are split without loss, and no log has a say in it.

* `diagnostics`, `failures`: one diagnostic for each problem that has a place and one failure for
  each of the others, both in the order of the problems.
* `each`: every problem is in exactly one of the two lists of indexes; `total`: so the lengths of
  the two results add up.
* `located`: a problem has a place if its offsets have a span, `inText`: and in a text that is not
  too long they have one if they lie in the text and are in order.
* `counted`, `ordered`: the range of every diagnostic has lines and columns from one on, and does
  not end before it starts.
* `logged`: the work on the problems finds this with every log; `extracted`: and an extraction hands
  it on. -/
structure ProblemsSplit (unit : SourceUnit) : Prop where
  diagnostics : List.Forall₂ (fun index diagnostic => ∃ problem,
    Diagnostic.IsOf unit index problem diagnostic) (unit.placed unit.problems.size) unit.diagnostics
  failures : List.Forall₂ (fun index failure => ∃ problem,
    Failure.IsOf unit index problem failure) (unit.unplaced unit.problems.size) unit.problemFailures
  each : (unit.placed unit.problems.size ++ unit.unplaced unit.problems.size).Perm
    (List.range unit.problems.size)
  increasing : (unit.placed unit.problems.size).Pairwise (· < ·) ∧
    (unit.unplaced unit.problems.size).Pairwise (· < ·)
  total : unit.diagnostics.length + unit.problemFailures.length = unit.problems.size
  located : ∀ index problem, unit.problems[index]? = some problem →
    (index ∈ unit.placed unit.problems.size ↔
      ∃ range, (LineMap.ofText unit.source).span problem.start problem.stop = .ok range)
  inText : unit.source.length ≤ 2 ^ 32 - 2 → ∀ index problem,
    unit.problems[index]? = some problem →
      (index ∈ unit.placed unit.problems.size ↔
        problem.start ≤ problem.stop ∧ problem.stop ≤ unit.source.length)
  counted : ∀ diagnostic ∈ unit.diagnostics,
    1 ≤ diagnostic.range.startLine ∧ 1 ≤ diagnostic.range.startColumn ∧
      1 ≤ diagnostic.range.endLine ∧ 1 ≤ diagnostic.range.endColumn
  ordered : ∀ diagnostic ∈ unit.diagnostics,
    ¬Position.Before ⟨diagnostic.range.endLine, diagnostic.range.endColumn⟩
      ⟨diagnostic.range.startLine, diagnostic.range.startColumn⟩
  logged : ∀ {σ : Type} (log : BuildLog σ) (state : σ),
    (log.workThrough unit {} state unit.problemWork).result = {
      diagnostics := unit.diagnostics.toArray
      problemFailures := unit.problemFailures.toArray }
  extracted : ∀ {σ : Type} (config : Config) (log : BuildLog σ) (state : σ), ∃ extraction,
    (Extractor.extract ⟨config, log⟩ state (some unit)).result = .ok extraction ∧
      extraction.diagnostics = unit.diagnostics ∧
      extraction.failures = (unit.build config).failures ++ unit.problemFailures

/-! ## All problems of a unit -/

section Problems

variable (unit : SourceUnit)

/-- The diagnostics and failures of a unit are those of its problems with and without a place. -/
theorem split_problems : Findings.Split unit unit.problems.size {
    diagnostics := unit.diagnostics.toArray
    problemFailures := unit.problemFailures.toArray } := by
  have found := unit.after_problemWork {}
  simp only [Array.empty_append] at found
  rw [← found]
  exact Findings.split_problemWork unit

theorem placed_append_unplaced (count : Nat) :
    (unit.placed count ++ unit.unplaced count).Perm (List.range count) :=
  List.filter_append_perm unit.hasPlace _

variable {unit} in
theorem mem_placed_iff {index : Nat} {problem : Problem}
    (present : unit.problems[index]? = some problem) :
    index ∈ unit.placed unit.problems.size ↔
      ∃ range, (LineMap.ofText unit.source).span problem.start problem.stop = .ok range := by
  have inRange : index < unit.problems.size := (Array.getElem?_eq_some_iff.mp present).1
  rw [placed, List.mem_filter, List.mem_range, hasPlace_of_present present,
    and_iff_right inRange]
  cases (LineMap.ofText unit.source).span problem.start problem.stop with
  | ok range => exact iff_of_true rfl ⟨range, rfl⟩
  | error error => exact iff_of_false Bool.false_ne_true fun ⟨_, found⟩ => by cases found

variable {unit} in
/-- The range of a diagnostic is the span of some offsets. -/
theorem span_of_mem_diagnostics {diagnostic : Diagnostic} (member : diagnostic ∈ unit.diagnostics) :
    ∃ first last, (LineMap.ofText unit.source).span first last = .ok diagnostic.range := by
  obtain ⟨place, inside, rfl⟩ := List.mem_iff_getElem.mp member
  have all := List.forall₂_iff_get.mp unit.split_problems.diagnostics
  obtain ⟨problem, isOf⟩ := all.2 place (all.1 ▸ inside) inside
  exact ⟨_, _, isOf.range⟩

end Problems

/-- The problems of every unit are split: each one gives a diagnostic or a failure of its own, in
order, whatever the log does. -/
theorem problems_split (unit : SourceUnit) : ProblemsSplit unit where
  diagnostics := unit.split_problems.diagnostics
  failures := unit.split_problems.failures
  each := unit.placed_append_unplaced _
  increasing := ⟨List.pairwise_lt_range.filter _, List.pairwise_lt_range.filter _⟩
  total := by
    have split := unit.split_problems
    rw [← split.diagnostics.length_eq, ← split.failures.length_eq, ← List.length_append,
      (unit.placed_append_unplaced _).length_eq, List.length_range]
  located := fun _ _ present => mem_placed_iff present
  inText := by
    intro short index problem present
    rw [mem_placed_iff present]
    constructor
    · rintro ⟨range, found⟩
      obtain ⟨ordered, inText, _⟩ := (LineMap.span_eq_ok_iff short).mp found
      exact ⟨ordered, inText⟩
    · rintro ⟨ordered, inText⟩
      exact ⟨_, LineMap.span_of_le short ordered inText⟩
  counted := by
    intro diagnostic member
    obtain ⟨_, _, found⟩ := span_of_mem_diagnostics member
    exact (LineMap.span_wellFormed found).1
  ordered := by
    intro diagnostic member
    obtain ⟨_, _, found⟩ := span_of_mem_diagnostics member
    exact (LineMap.span_wellFormed found).2
  logged := by
    intro σ log state
    rw [(workThrough_eq log unit {} state unit.problemWork).1, after_problemWork]
    simp only [Array.empty_append]
  extracted := fun config log state =>
    ⟨unit.extraction config, unit.extract_result config log state, rfl, rfl⟩

/-- Problems with a place, past the end, the wrong way round, and with a place once more. -/
def mixedProblems : SourceUnit where
  fileId := ⟨1⟩
  source := "ab\nc"
  problems := #[
    { message := "unused", isWarning := true, start := 0, stop := 2 },
    { message := "missing", isError := true, start := 3, stop := 9 },
    { message := "swapped", start := 2, stop := 1 },
    { message := "open", isError := true, isWarning := true, start := 1, stop := 4 }]

example : mixedProblems.placed 4 = [0, 3] ∧ mixedProblems.unplaced 4 = [1, 2] ∧
    mixedProblems.diagnostics.map (·.severity) = [.warning, .error] ∧
    mixedProblems.problemFailures.map (·.subject) = [.problem 1, .problem 2] := by
  decide +kernel

end SourceUnit

end CodeIndex

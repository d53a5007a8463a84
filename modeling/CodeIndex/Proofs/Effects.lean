import CodeIndex.Command.Answer
import Mathlib

/-!
# Effects of commands

What each part of a command does to what has been left behind, one lemma for each primitive, and how
this adds up when parts are put one after the other.

* `run_bind_ok`, `run_bind_error`: a part goes on from the effects of the one before, and an error
  ends a command without undoing them.
* `Command.Keeps` is an invariant of the effects: whatever a part gives, it holds behind the part if
  it held in front. Parts that only look at files keep every invariant.
-/

namespace CodeIndex.Command

variable {α β : Type} {part : Command α} {effects next : Effects}

/-! ## Runs -/

theorem run_bind_ok {value : α} (ran : part.run effects = .ok value next) (rest : α → Command β) :
    (part >>= rest).run effects = (rest value).run next := by
  rw [EStateM.run_bind, ran]

theorem run_bind_error {error : Error} (ran : part.run effects = .error error next)
    (rest : α → Command β) : (part >>= rest).run effects = .error error next := by
  rw [EStateM.run_bind, ran]

section Primitives

variable (effects)

@[simp] theorem run_print (text : String) :
    (print text).run effects = .ok () { effects with output := effects.output ++ text } := rfl

@[simp] theorem run_report (lines : List String) :
    (report lines).run effects = .ok () { effects with errors := effects.errors ++ lines } := rfl

@[simp] theorem run_change (step : FileChange) :
    (change step).run effects = .ok () { effects with changes := effects.changes ++ [step] } := rfl

@[simp] theorem run_expect_ok (value : α) :
    (expect (.ok value)).run effects = .ok value effects := rfl

@[simp] theorem run_expect_error (error : Error) :
    (expect (.error error) : Command α).run effects = .error error effects := rfl

@[simp] theorem run_hasFile (workspace : Workspace) (path : String) :
    (hasFile workspace path).run effects =
      .ok (workspace.isFile effects.changes path) effects := rfl

@[simp] theorem run_read (workspace : Workspace) (path : String) :
    (read workspace path).run effects = .ok (workspace.read effects.changes path) effects := rfl

end Primitives

/-- A file that can be opened for output is changed by that. -/
theorem run_create (workspace : Workspace) (path : String) (effects : Effects) :
    (create workspace path).run effects =
      match workspace.create effects.changes path with
      | .error cause => .error (.io cause) effects
      | .ok device =>
        .ok device { effects with changes := effects.changes ++ [.create path] } := by
  rw [create, run_bind_ok (EStateM.run_get effects)]
  cases workspace.create effects.changes path <;> rfl

/-! ## Invariants -/

/-- What is left behind a part, whether it gives something or ends the command. -/
def left (part : Command α) (effects : Effects) : Effects :=
  match part.run effects with
  | .ok _ next => next
  | .error _ next => next

/-- A part keeps an invariant of the effects. -/
def Keeps (invariant : Effects → Prop) (part : Command α) : Prop :=
  ∀ effects, invariant effects → invariant (part.left effects)

namespace Keeps

variable {invariant : Effects → Prop}

theorem pure (value : α) : Keeps invariant (pure value : Command α) := fun _ holds => holds

theorem throw (error : Error) : Keeps invariant (throw error : Command α) := fun _ holds => holds

theorem expect (result : Except Error α) : Keeps invariant (expect result) := by
  cases result with
  | error error => exact throw error
  | ok value => exact pure value

theorem hasFile (workspace : Workspace) (path : String) :
    Keeps invariant (hasFile workspace path) := fun _ holds => holds

theorem read (workspace : Workspace) (path : String) : Keeps invariant (read workspace path) :=
  fun _ holds => holds

theorem modify {step : Effects → Effects}
    (kept : ∀ effects, invariant effects → invariant (step effects)) :
    Keeps invariant (modify step : Command Unit) := kept

/-- Parts that keep an invariant keep it one after the other. -/
theorem bind {rest : α → Command β} (first : Keeps invariant part)
    (later : ∀ value, Keeps invariant (rest value)) : Keeps invariant (part >>= rest) := by
  intro effects holds
  have between := first effects holds
  unfold left at between ⊢
  rw [EStateM.run_bind]
  cases ran : part.run effects with
  | error error next =>
      rw [ran] at between
      exact between
  | ok value next =>
      rw [ran] at between
      exact later value next between

/-- Opening a file is the change that it makes, if it succeeds. -/
theorem create {workspace : Workspace} {path : String}
    (kept : Keeps invariant (change (.create path))) :
    Keeps invariant (create workspace path) := by
  intro effects holds
  unfold left
  rw [run_create]
  cases workspace.create effects.changes path with
  | error cause => exact holds
  | ok device => exact kept effects holds

end Keeps

end CodeIndex.Command

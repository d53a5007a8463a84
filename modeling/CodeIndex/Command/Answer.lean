import CodeIndex.Failure
import CodeIndex.JsonLines
import CodeIndex.Text.Lines

/-!
# Commands and what they leave behind

A command looks at files, prints, and changes files, and it may end with an error at any point.
What it has done until then stays: `Effects` has the text on standard output, the lines on standard
error, and each change to a file, in order. A file that is opened for output is changed by that
alone, since it is created or emptied.

A command sees files through a `Workspace`. What is seen there depends on what was changed before.
-/

namespace CodeIndex

/-- A change to a file: it is created, or emptied if it is there already, or a text is written
behind what it holds. -/
inductive FileChange where
  | create (path : String)
  | append (path text : String)
deriving DecidableEq, Repr

/-- The path of the file that is changed. -/
def FileChange.path : FileChange → String
  | .create path => path
  | .append path _ => path

/-- What a command has left behind. -/
structure Effects where
  output : String := ""
  errors : List String := []
  changes : List FileChange := []
deriving DecidableEq, Repr

/-- What a command leaves behind in the end, with its exit code. -/
structure Answer extends Effects where
  exit : Nat := 0
deriving DecidableEq, Repr

/-- The files that a command can see, after some changes: whether there is a regular file at a
path, what there is to read, and where a text goes that is written to a file created there. -/
structure Workspace where
  isFile : List FileChange → String → Bool
  read : List FileChange → String → Except IoCause ByteArray
  create : List FileChange → String → Except IoCause Device

/-- The lines on standard error for an error and its causes. -/
def Error.report (error : Error) : List String :=
  ("error: " ++ error.message) :: error.causes.map ("  caused by: " ++ ·)

/-- The answer with an error reported behind its lines. -/
def Answer.fail (answer : Answer) (error : Error) : Answer :=
  { answer with exit := 1, errors := answer.errors ++ error.report }

/-- What is read on standard error, line by line: a line feed in a name begins a new line. -/
def Answer.errorLines (answer : Answer) : List String := answer.errors.flatMap Text.linesOf

/-! ## Parts of commands -/

/-- A part of a command. Whether it gives something or ends the command, its effects are kept. -/
abbrev Command (α : Type) := EStateM Error Effects α

namespace Command

variable {α : Type}

/-- Prints a text on standard output. -/
def print (text : String) : Command Unit :=
  modify fun effects => { effects with output := effects.output ++ text }

/-- Prints lines on standard error. -/
def report (lines : List String) : Command Unit :=
  modify fun effects => { effects with errors := effects.errors ++ lines }

/-- Changes a file. -/
def change (change : FileChange) : Command Unit :=
  modify fun effects => { effects with changes := effects.changes ++ [change] }

/-- Goes on with a result, or ends the command with an error. -/
def expect : Except Error α → Command α
  | .ok result => pure result
  | .error error => throw error

/-- There is a regular file at a path. -/
def hasFile (workspace : Workspace) (path : String) : Command Bool :=
  return workspace.isFile (← get).changes path

/-- What is read at a path. -/
def read (workspace : Workspace) (path : String) : Command (Except IoCause ByteArray) :=
  return workspace.read (← get).changes path

/-- Opens a file for output. -/
def create (workspace : Workspace) (path : String) : Command Device := do
  match workspace.create (← get).changes path with
  | .error cause => throw (.io cause)
  | .ok device =>
    change (.create path)
    return device

/-- The answer of a whole command. -/
def answer (command : Command Unit) : Answer :=
  match command.run {} with
  | .ok () effects => { effects with exit := 0 }
  | .error error effects => Answer.fail { effects with exit := 0 } error

end Command

end CodeIndex

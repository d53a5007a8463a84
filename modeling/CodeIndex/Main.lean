import CodeIndex.Command.Run

/-!
# The program

Reads the files that a command line names, asks for the answer, changes the files as it says, and
prints it. Where the system refuses a change, the answer is the one for a file that cannot be
created or written.
-/

namespace CodeIndex.Program

/-- Why a file could not be used, from the code of the system, which may come negated. -/
def causeOf : IO.Error → IoCause
  | .noFileOrDirectory .. => .notFound
  | .permissionDenied _ code text => ofCode code text
  | .inappropriateType _ code text => ofCode code text
  | .resourceExhausted _ code text => ofCode code text
  | .invalidArgument _ code text => ofCode code text
  | .unsupportedOperation code text => ofCode code text
  | .resourceBusy code text => ofCode code text
  | .hardwareFault code text => ofCode code text
  | .otherError code text => ofCode code text
  | error => .system error.toString 0
where
  /-- The cause that a code stands for. Only the codes that have a wording of their own are told
  apart from the others. -/
  ofCode (code : UInt32) (text : String) : IoCause :=
    let number := min code.toNat (UInt32.size - code.toNat)
    if number = 2 then .notFound
    else if number = 12 then .outOfMemory
    else if number = 13 then .denied
    else if number = 20 then .notDirectory
    else if number = 21 then .isDirectory
    else if number = 28 then .noSpace
    else if number = 36 then .nameTooLong
    else .system text number

/-- The bytes of a file, if it can be read. -/
def readFile (path : String) : IO (Except IoCause ByteArray) := do
  try
    return .ok (← IO.FS.readBinFile path)
  catch error => return .error (causeOf error)

/-- There is a regular file at a path, perhaps behind links. -/
def isFile (path : String) : IO Bool := do
  try
    return (← (← IO.FS.realPath path).metadata).type == .file
  catch _ => return false

/-- The paths that a request reads. -/
def pathsOf : Request → List String
  | .extract request => request.config.getD defaultConfigPath :: request.units
  | _ => []

/-- The files that a command line names, as they are on disk. They are read before any change. -/
def workspaceFor (line : List String) : IO Workspace := do
  let paths :=
    match Request.read line with
    | .ok request => pathsOf request
    | .error _ => []
  let files ← paths.mapM fun path => return (path, ← readFile path)
  let regular ← paths.filterM isFile
  return {
    isFile := fun _ path => path ∈ regular
    read := fun _ path => (files.lookup path).getD (.error .notFound)
    create := fun _ _ => .ok (.memory "") }

/-- Makes a change to a file. -/
def change : FileChange → IO Unit
  | .create path => discard (IO.FS.Handle.mk path .write)
  | .append path text => do
    let file ← IO.FS.Handle.mk path .append
    file.putStr text
    file.flush

/-- Makes some changes, up to the first one that is refused, and says why it was. -/
def changeAll : List FileChange → IO (Option (FileChange × IoCause))
  | [] => return none
  | next :: rest => do
    try
      change next
    catch error => return some (next, causeOf error)
    changeAll rest

/-- The workspace with the device on which a change was refused. -/
def refusing (workspace : Workspace) : FileChange × IoCause → Workspace
  | (.create _, cause) => { workspace with create := fun _ _ => .error cause }
  | (.append _ _, cause) =>
    { workspace with create := fun _ _ => .ok (.refusing ⟨cause, false⟩) }

/-- The answer to a command line, with its changes made. -/
def perform (line : List String) (workspace : Workspace) : IO Answer := do
  let answer := runCommand line workspace
  match ← changeAll answer.changes with
  | none => return answer
  | some refused => return runCommand line (refusing workspace refused)

end CodeIndex.Program

def main (line : List String) : IO UInt32 := do
  let workspace ← CodeIndex.Program.workspaceFor line
  let answer ← CodeIndex.Program.perform line workspace
  (← IO.getStdout).putStr answer.output
  for text in answer.errors do
    IO.eprintln text
  return UInt32.ofNat answer.exit

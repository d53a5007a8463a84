import CodeIndex.Command.Extract
import CodeIndex.Command.Key

/-!
# Running a command line

From the words of a command line and the files in sight to the answer.
-/

namespace CodeIndex

/-- How the command is called. -/
def usageLines : List String :=
  ["Usage: tessera [-v]... <COMMAND>",
    "",
    "  extract <UNITS>... [-c <CONFIG>] [-o <OUTPUT>]",
    "  key type <QUALIFIED_NAME> [-p <PARAM>]...",
    "  key method <ENCLOSING> <RETURN_TYPE> <NAME> [PARAMS]... [-t <PARAM>]... [-l <OFFSET>]",
    "  key field <ENCLOSING> <FIELD_TYPE> <NAME> [-t <PARAM>]...",
    "  key variable <METHOD> <VAR_TYPE> <NAME>",
    "  key enum-constant <ENUM_NAME> <NAME>"]

/-- The version of the program. -/
def versionText : String := "0.1.0"

/-- The answer to a request. -/
def Request.answer (workspace : Workspace) : Request → Answer
  | .key request => request.answer
  | .extract request => request.answer workspace
  | .help => { output := String.join (usageLines.map (· ++ "\n")) }
  | .version path =>
    { output := "-".intercalate ("tessera" :: path) ++ " " ++ versionText ++ "\n" }

/-- The answer to a command line. A line that cannot be read has exit code 2. -/
def runCommand (line : List String) (workspace : Workspace) : Answer :=
  match Request.read line with
  | .ok request => request.answer workspace
  | .error error => { exit := 2, errors := ("error: " ++ error.message) :: "" :: usageLines }

end CodeIndex

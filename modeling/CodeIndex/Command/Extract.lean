import CodeIndex.Command.Answer
import CodeIndex.Command.Request
import CodeIndex.Config.Settings
import CodeIndex.HandOff.Decode
import CodeIndex.JsonLines
import CodeIndex.Report

/-!
# The extract command

Reads unit files, extracts each unit, and writes one line of JSON for each. The configuration
is loaded first, then all files are read; only then is anything extracted, and only then is the
output file created, so that input that cannot be used leaves nothing behind.

A file that holds no unit is left out. All other units are written, and the command then fails.
-/

namespace CodeIndex

/-- The configuration file that is used when none is named. -/
def defaultConfigPath : String := "tessera.yaml"

/-- What the files of an extraction hold: the units, and the paths of files without one. -/
structure LoadedUnits where
  units : List SourceUnit := []
  missing : List String := []
deriving DecidableEq, Repr

/-- What files hold, with one more file in front. -/
def LoadedUnits.cons (path : String) (document : Option SourceUnit) (later : LoadedUnits) :
    LoadedUnits :=
  match document with
  | some unit => { later with units := unit :: later.units }
  | none => { later with missing := path :: later.missing }

namespace ExtractRequest

/-- The configuration of an extraction. Where none is named, there need not be a file; but one
that is there has to be readable. -/
def loadConfig (request : ExtractRequest) (workspace : Workspace) : Command Config := do
  match request.config with
  | some path => Command.expect (Config.load (← Command.read workspace path))
  | none =>
    if ← Command.hasFile workspace defaultConfigPath then
      Command.expect (Config.load (← Command.read workspace defaultConfigPath))
    else return {}

/-- The units of some files, in their order. -/
def loadUnits (workspace : Workspace) : List String → Command LoadedUnits
  | [] => return {}
  | path :: rest => do
    let document ← Command.expect (HandOff.loadUnit path (← Command.read workspace path))
    let later ← loadUnits workspace rest
    return later.cons path document

end ExtractRequest

/-! ## Output -/

/-- Writes some values as lines, up to the first one that is refused. -/
def JsonLines.writeAll (sink : JsonLines) : List Json → JsonLines × Except Error Unit
  | [] => (sink, .ok ())
  | value :: rest =>
    match sink.write value with
    | (next, .ok ()) => next.writeAll rest
    | (next, .error error) => (next, .error error)

/-- Writes some extractions to a device, and hands everything on. -/
def writeLines (device : Device) (extractions : List UnitExtraction) :
    JsonLines × Except Error Unit :=
  match JsonLines.writeAll ⟨device, "", 0⟩ (extractions.map Report.ofExtraction) with
  | (sink, .ok ()) => sink.flush
  | refused => refused

namespace ExtractRequest

/-- Writes some extractions to the output file, which is created for them, or to standard output.
What has arrived stays there, even if more is refused. Gives the number of lines. -/
def writeOutput (request : ExtractRequest) (workspace : Workspace)
    (extractions : List UnitExtraction) : Command Nat := do
  match request.output with
  | some path =>
    let (sink, written) := writeLines (← Command.create workspace path) extractions
    Command.change (.append path sink.device.text)
    Command.expect written
    return sink.count
  | none =>
    let (sink, written) := writeLines (.memory "") extractions
    Command.print sink.device.text
    Command.expect written
    return sink.count

end ExtractRequest

/-! ## Summary -/

/-- How many items of a list are shown. -/
def shownItems : Nat := 5

/-- The first items of a list as bullets, and how many more there are. -/
def bullets (items : List String) : List String :=
  (items.take shownItems).map ("  • " ++ ·) ++
    if shownItems < items.length then
      ["  ... and " ++ toString (items.length - shownItems) ++ " more"]
    else []

/-- The sum of a number over some extractions. -/
def total (count : UnitExtraction → Nat) (extractions : List UnitExtraction) : Nat :=
  extractions.foldr (fun extraction sum => count extraction + sum) 0

/-- The number of diagnostics of a severity. -/
def countSeverity (severity : Severity) (extraction : UnitExtraction) : Nat :=
  extraction.diagnostics.countP (·.severity == severity)

/-- The lines that sum up some extractions. -/
def summary (extractions : List UnitExtraction) (lines : Nat) : List String :=
  let count (number : UnitExtraction → Nat) : String := toString (total number extractions)
  let placeholders := total (·.counts.placeholders) extractions
  let skipped := total (·.counts.skippedReferences) extractions
  let dropped := extractions.flatMap fun extraction =>
    extraction.failures.map fun failure =>
      "file " ++ toString extraction.fileId ++ ": " ++ failure.display
  ["",
    "Extracted " ++ toString lines ++ " units: " ++ count (·.records.entities.length) ++
      " entities, " ++ count (·.records.astNodes.length) ++ " AST nodes, " ++
      count (·.records.relations.length) ++ " relations",
    "Diagnostics: " ++ count (countSeverity .error) ++ " errors, " ++
      count (countSeverity .warning) ++ " warnings, " ++ count (countSeverity .note) ++
      " notes"] ++
  (if placeholders = 0 ∧ skipped = 0 then []
    else ["Unresolved: " ++ toString placeholders ++ " placeholder names, " ++
      toString skipped ++ " skipped references"]) ++
  if dropped.isEmpty then []
  else "" :: ("Dropped records (" ++ toString dropped.length ++ "):") :: bullets dropped

/-- The lines about files without a unit. -/
def missingLines (paths : List String) : List String :=
  "" :: ("No compilation unit (" ++ toString paths.length ++ "):") :: bullets paths

/-! ## The command -/

namespace ExtractRequest

/-- The rest of an extraction, once everything is loaded. -/
def extractLoaded (request : ExtractRequest) (workspace : Workspace) (config : Config)
    (loaded : LoadedUnits) : Command Unit := do
  Command.report ["Extracting " ++ toString loaded.units.length ++ " units..."]
  let extractor : Extractor Unit := ⟨config, .forwarding⟩
  let extractions ← Command.expect (extractor.extractAll () loaded.units).result
  let lines ← request.writeOutput workspace extractions
  Command.report (summary extractions lines)
  if !loaded.missing.isEmpty then
    Command.report (missingLines loaded.missing)
    throw .noUnit

/-- The extract command. -/
def command (request : ExtractRequest) (workspace : Workspace) : Command Unit := do
  let config ← request.loadConfig workspace
  let loaded ← loadUnits workspace request.units
  request.extractLoaded workspace config loaded

/-- The answer of the extract command. -/
def answer (request : ExtractRequest) (workspace : Workspace) : Answer :=
  (request.command workspace).answer

end ExtractRequest

end CodeIndex

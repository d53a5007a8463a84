import CodeIndex.Command.Directory
import CodeIndex.Command.Run
import CodeIndex.Proofs.Directory
import CodeIndex.Proofs.Effects
import CodeIndex.Proofs.Loading
import CodeIndex.Proofs.Logging
import CodeIndex.Proofs.RefusedWrites
import CodeIndex.Proofs.ReportReadBack
import Mathlib

/-!
# An extraction leaves all of its lines behind, or nothing

The extract command reads its configuration and all of its files before it creates anything. So
what is wrong with any of them is known in time, and only the files without a unit are left to
complain about in the end.

* One lemma for each stage: `loadConfig_of_configured`, `loadUnits_of_holds` and their counterparts
  where something is wrong, `writeOutput_of_created`, and `extractLoaded_of_created`.
* `answer_confined`: in every run, whatever happens in it, only the output is touched.
* `extract_all_or_nothing`: a configuration or a file that cannot be used leaves nothing behind,
  and otherwise there is one line for each unit, whether or not the command then fails.
* `opened_of_refusing`: an output that is opened and then refuses everything is there, and empty.
-/

namespace CodeIndex

open Command (run_bind_ok run_bind_error)

/-! ## Loading -/

namespace ExtractRequest

variable {request : ExtractRequest} {workspace : Workspace} {config : Config}

/-- The configuration of an extraction: that of the file that is named, or else of the default file
if there is one, or else the one without any choice. -/
def Configured (request : ExtractRequest) (workspace : Workspace) (config : Config) : Prop :=
  match request.config with
  | some path => workspace.Configures path config
  | none =>
    if workspace.isFile [] defaultConfigPath then workspace.Configures defaultConfigPath config
    else config = {}

/-- There is a file to take the configuration from, but it holds none. -/
def Misconfigured (request : ExtractRequest) (workspace : Workspace) : Prop :=
  match request.config with
  | some path => workspace.Misconfigures path
  | none => workspace.isFile [] defaultConfigPath ∧ workspace.Misconfigures defaultConfigPath

/-- The configuration cannot be loaded, or one of the files holds no document. -/
def Unusable (request : ExtractRequest) (workspace : Workspace) : Prop :=
  request.Misconfigured workspace ∨ ∃ path ∈ request.units, workspace.Unreadable path

theorem configured_or_misconfigured (request : ExtractRequest) (workspace : Workspace) :
    (∃ config, request.Configured workspace config) ∨ request.Misconfigured workspace := by
  unfold Configured Misconfigured
  cases request.config with
  | some path => exact workspace.gives_or_givesNothing path Config.Written
  | none =>
      by_cases there : workspace.isFile [] defaultConfigPath
      · simp only [there, if_true, true_and]
        exact workspace.gives_or_givesNothing defaultConfigPath Config.Written
      · exact .inl ⟨{}, by rw [if_neg there]⟩

theorem loadConfig_of_configured (configured : request.Configured workspace config) :
    (request.loadConfig workspace).run {} = .ok config {} := by
  unfold Configured at configured
  unfold loadConfig
  cases named : request.config with
  | some path =>
      rw [named] at configured
      simp only [EStateM.run_bind, Command.run_read, Workspace.load_of_configures configured,
        Command.run_expect_ok]
  | none =>
      rw [named] at configured
      simp only [EStateM.run_bind, Command.run_hasFile] at configured ⊢
      split at configured
      · next there =>
          simp only [there, if_true, EStateM.run_bind, Command.run_read,
            Workspace.load_of_configures configured, Command.run_expect_ok]
      · next absent =>
          rw [if_neg absent, configured]
          rfl

theorem loadConfig_of_misconfigured (misconfigured : request.Misconfigured workspace) :
    ∃ error, (request.loadConfig workspace).run {} = .error error {} := by
  unfold Misconfigured at misconfigured
  unfold loadConfig
  cases named : request.config with
  | some path =>
      rw [named] at misconfigured
      obtain ⟨error, failed⟩ := Workspace.load_of_misconfigures misconfigured
      refine ⟨error, ?_⟩
      simp only [EStateM.run_bind, Command.run_read, failed, Command.run_expect_error]
  | none =>
      rw [named] at misconfigured
      obtain ⟨there, misconfigures⟩ := misconfigured
      obtain ⟨error, failed⟩ := Workspace.load_of_misconfigures misconfigures
      refine ⟨error, ?_⟩
      simp only [EStateM.run_bind, Command.run_hasFile, there, if_true, Command.run_read, failed,
        Command.run_expect_error]

theorem loadUnits_cons_ok {path : String} {document : Option SourceUnit} {rest : List String}
    (read : HandOff.loadUnit path (workspace.read [] path) = .ok document) :
    (loadUnits workspace (path :: rest)).run {} =
      ((loadUnits workspace rest >>= fun later => return later.cons path document).run {}) := by
  simp only [loadUnits, EStateM.run_bind, Command.run_read, read, Command.run_expect_ok]

/-- From files with documents the units are loaded in their order, and the files without a unit
are kept apart. -/
theorem loadUnits_of_holds {paths : List String} {documents : List (Option SourceUnit)}
    (holds : List.Forall₂ workspace.Holds paths documents) :
    ∃ missing, (loadUnits workspace paths).run {} = .ok ⟨documents.reduceOption, missing⟩ {} ∧
      (missing = [] ↔ none ∉ documents) := by
  induction holds with
  | nil => exact ⟨[], rfl, by simp⟩
  | @cons path document paths documents first _ ih =>
      obtain ⟨missing, later, complete⟩ := ih
      rw [loadUnits_cons_ok (Workspace.loadUnit_of_holds first), run_bind_ok later]
      cases document with
      | none => exact ⟨path :: missing, rfl, by simp⟩
      | some unit => exact ⟨missing, rfl, by simpa using complete⟩

/-- One file without a document is enough for nothing to be loaded. -/
theorem loadUnits_of_unreadable {paths : List String} {path : String} (member : path ∈ paths)
    (unreadable : workspace.Unreadable path) :
    ∃ error, (loadUnits workspace paths).run {} = .error error {} := by
  induction paths with
  | nil => cases member
  | cons first rest ih =>
      cases read : HandOff.loadUnit first (workspace.read [] first) with
      | error error =>
          refine ⟨error, ?_⟩
          simp only [loadUnits, EStateM.run_bind, Command.run_read, read,
            Command.run_expect_error]
      | ok document =>
          rw [loadUnits_cons_ok read]
          rcases List.mem_cons.mp member with rfl | later
          · obtain ⟨error, failed⟩ := Workspace.loadUnit_of_unreadable unreadable
            exact absurd (read.symm.trans failed) (by simp)
          · obtain ⟨error, failed⟩ := ih later
            exact ⟨error, run_bind_error failed _⟩

/-- Where every file holds some document, there are documents for all files. -/
theorem exists_documents {paths : List String}
    (readable : ∀ path ∈ paths, ¬workspace.Unreadable path) :
    ∃ documents, List.Forall₂ workspace.Holds paths documents := by
  induction paths with
  | nil => exact ⟨[], .nil⟩
  | cons path rest ih =>
      obtain ⟨documents, later⟩ := ih fun other member => readable other (.tail _ member)
      rcases workspace.gives_or_givesNothing path HandOff.Written with
        ⟨document, holds⟩ | unreadable
      · exact ⟨document :: documents, .cons holds later⟩
      · exact absurd unreadable (readable path List.mem_cons_self)

end ExtractRequest

/-! ## Writing -/

/-- The lines of some extractions. -/
def extractionLines (extractions : List UnitExtraction) : List String :=
  (extractions.map Report.ofExtraction).map Json.render

namespace JsonLines

/-- All values are written to a sink over a memory, each as one line. -/
theorem CarriesLines.writeAll {sink : JsonLines} {texts : List String}
    (carries : sink.CarriesLines texts) (values : List Json) :
    ∃ next, sink.writeAll values = (next, .ok ()) ∧
      next.CarriesLines (texts ++ values.map Json.render) := by
  induction values generalizing sink texts with
  | nil => exact ⟨sink, rfl, by rwa [List.map_nil, List.append_nil]⟩
  | cons value rest ih =>
      obtain ⟨next, written, carried⟩ := carries.call (.write value)
      obtain ⟨last, later, arrived⟩ := ih carried
      refine ⟨last, ?_, ?_⟩
      · have first : sink.write value = (next, .ok ()) := written
        rw [JsonLines.writeAll, first]
        exact later
      · rw [List.append_assoc] at arrived
        exact arrived

namespace Refused

variable {refusal : Refusal} {sink : JsonLines}

/-- A line that is taken by a device which refuses everything is still in the buffer. -/
theorem buffer_of_write (refused : sink.Refused refusal) {value : Json} {next : JsonLines}
    (taken : sink.write value = (next, .ok ())) : next.buffer ≠ "" := by
  rw [refused.write, Prod.mk.injEq, verdict] at taken
  obtain ⟨rfl, taken⟩ := taken
  split at taken
  · next fit =>
      split at taken
      · next space =>
          -- the buffer holds at least the line feed
          have lineEnd : kept (sink.used + (String.join value.pieces).utf8ByteSize) ["\n"] =
              ["\n"] := if_pos (hasRoom_lineEnd.mpr space)
          intro empty
          rw [kept_append_of_fit fit, lineEnd, String.join_append] at empty
          have size := congrArg String.utf8ByteSize empty
          simp [JsonLines.keep, String.join_cons] at size
      · cases taken
  · cases taken

/-- Unless there is nothing to write, something is left in the buffer, or a write has failed. -/
theorem writeAll (refused : sink.Refused refusal) (values : List Json) :
    ∃ next result, sink.writeAll values = (next, result) ∧ next.Refused refusal ∧
      (result = .ok () → sink.buffer ≠ "" ∨ values ≠ [] → next.buffer ≠ "") := by
  induction values generalizing sink with
  | nil => exact ⟨sink, .ok (), rfl, refused, fun _ filled => filled.resolve_right (absurd rfl)⟩
  | cons value rest ih =>
      have still : (sink.write value).1.Refused refusal := refused.of_call (.write value)
      rw [JsonLines.writeAll]
      rcases written : sink.write value with ⟨next, error | _⟩
      · rw [written] at still
        exact ⟨next, .error error, rfl, still, nofun⟩
      · rw [written] at still
        obtain ⟨last, result, later, refused', filled⟩ := ih still
        have left : next.buffer ≠ "" := refused.buffer_of_write written
        exact ⟨last, result, later, refused', fun taken _ => filled taken (.inl left)⟩

end Refused

end JsonLines

/-- What is written to an empty memory is there in the end, line by line. -/
theorem writeLines_memory (extractions : List UnitExtraction) :
    ∃ sink, writeLines (.memory "") extractions = (sink, .ok ()) ∧
      sink.device.text = Text.ofLines (extractionLines extractions) ∧
      sink.count = extractions.length := by
  have start : JsonLines.CarriesLines ⟨.memory "", "", 0⟩ [] := JsonLines.carries_overMemory
  obtain ⟨sink, written, carried⟩ := start.writeAll (extractions.map Report.ofExtraction)
  rw [List.nil_append, ← extractionLines] at carried
  obtain ⟨last, flushed, counted, arrived⟩ := carried.flush
  refine ⟨last, ?_, ?_, ?_⟩
  · simp only [writeLines, written, flushed]
  · rw [arrived, Device.text]
  · rw [counted.counted, extractionLines, List.length_map, List.length_map]

/-- To a device that refuses everything nothing gets, and there is an error unless there was
nothing to write. -/
theorem writeLines_refusing (refusal : Refusal) (extractions : List UnitExtraction) :
    (writeLines (.refusing refusal) extractions).1.device.text = "" ∧
      (extractions ≠ [] → (writeLines (.refusing refusal) extractions).2 ≠ .ok ()) := by
  obtain ⟨next, result, written, refused, filled⟩ :=
    (JsonLines.refused_overRefusing refusal).writeAll (extractions.map Report.ofExtraction)
  have nowhere : next.device.text = "" := by rw [refused.device, Device.text]
  rw [JsonLines.overRefusing] at written
  rw [writeLines, written]
  cases result with
  | error error => exact ⟨nowhere, nofun⟩
  | ok _ =>
      dsimp only
      rw [refused.flush]
      refine ⟨nowhere, fun some taken => ?_⟩
      have left := filled rfl (.inr (mt List.map_eq_nil_iff.mp some))
      rw [if_neg fun empty => left empty.1] at taken
      cases taken

/-! ## What an answer leaves behind -/

namespace Answer

/-- The command failed with an error. -/
def FailsWith (answer : Answer) (error : Error) : Prop :=
  answer.exit = 1 ∧ error.report <:+ answer.errors

/-- The command failed, wrote nothing to standard output, and left all files as they were. -/
structure LeavesNothing (answer : Answer) : Prop where
  fails : answer.exit = 1
  silent : answer.output = ""
  unchanged : answer.changes = [] ∧ ∀ directory : Directory, directory.after answer = directory

/-- The command left some lines behind, and nothing else: on standard output, or in the output file
where one was named. This file is created and written to; in a directory where that is possible, it
then holds these lines, and all other files are as before. -/
structure LeavesLines (answer : Answer) (output : Option String) (lines : List String) : Prop where
  separate : ∀ line ∈ lines, Text.IsOneLine line
  stdout : output = none → answer.output = Text.ofLines lines ∧ answer.changes = []
  file : ∀ path, output = some path → answer.output = "" ∧
    answer.changes = [.create path, .append path (Text.ofLines lines)] ∧
    ∀ directory : Directory, directory.CanCreate path →
      directory.WritesFile (directory.after answer) path (Text.ofLines lines).toUTF8

/-- A command that fails in the end, unless it is complete, leaves the same behind in both cases. -/
theorem of_run {command : Command Unit} {error : Error} {left : Effects} {complete : Prop}
    [Decidable complete]
    (ran : command.run {} = if complete then .ok () left else .error error left) :
    command.answer.output = left.output ∧ command.answer.changes = left.changes ∧
      (command.answer.FailsWith error ↔ ¬complete) ∧ (command.answer.exit = 0 ↔ complete) := by
  rw [Command.answer, ran]
  by_cases whole : complete
  · rw [if_pos whole]
    exact ⟨rfl, rfl, iff_of_false (fun fails => Nat.zero_ne_one fails.1) (not_not.mpr whole),
      iff_of_true rfl whole⟩
  · rw [if_neg whole]
    exact ⟨rfl, rfl, iff_of_true ⟨rfl, List.suffix_append _ _⟩ whole,
      iff_of_false Nat.one_ne_zero whole⟩

/-- What is left of lines that were all written is left by the whole command. -/
theorem leavesLines_of_effects {answer : Answer} {output : Option String} {lines : List String}
    (separate : ∀ line ∈ lines, Text.IsOneLine line)
    (printed : answer.output = if output.isNone then Text.ofLines lines else "")
    (changed : answer.changes =
      output.elim [] fun path => [.create path, .append path (Text.ofLines lines)]) :
    answer.LeavesLines output lines where
  separate := separate
  stdout := by
    rintro rfl
    exact ⟨printed, changed⟩
  file := by
    rintro path rfl
    refine ⟨printed, changed, fun directory creatable => ?_⟩
    rw [Directory.after, changed]
    exact Directory.writesFile_changed creatable (Text.ofLines lines)

/-- An error before anything was written leaves nothing. -/
theorem leavesNothing_of_run {command : Command Unit} {error : Error} {effects : Effects}
    (failed : command.run {} = .error error effects) (silent : effects.output = "")
    (unchanged : effects.changes = []) : command.answer.LeavesNothing := by
  have left : command.answer.changes = [] := by
    rw [Command.answer, failed]
    exact unchanged
  refine ⟨?_, ?_, left, fun directory => ?_⟩
  · rw [Command.answer, failed]
    rfl
  · rw [Command.answer, failed]
    exact silent
  · rw [Directory.after, left]
    rfl

end Answer

/-! ## The output is all that is touched -/

namespace ExtractRequest

open Command (Keeps)

variable {request : ExtractRequest} {workspace : Workspace}

/-- Files are changed only at the path of the output, and there is something on standard output
only if no output is named. -/
structure Confined (request : ExtractRequest) (effects : Effects) : Prop where
  files : ∀ change ∈ effects.changes, request.output = some change.path
  stdout : effects.output ≠ "" → request.output = none

theorem Confined.change {effects : Effects} (confined : request.Confined effects)
    {change : FileChange} (named : request.output = some change.path) :
    request.Confined { effects with changes := effects.changes ++ [change] } where
  files := by
    rw [List.forall_mem_append, List.forall_mem_singleton]
    exact ⟨confined.files, named⟩
  stdout := confined.stdout

theorem keeps_loadConfig {invariant : Effects → Prop} :
    Keeps invariant (request.loadConfig workspace) := by
  unfold loadConfig
  cases request.config with
  | some path => exact (Keeps.read workspace path).bind fun found => .expect (Config.load found)
  | none =>
      refine (Keeps.hasFile workspace defaultConfigPath).bind fun there => ?_
      cases there with
      | true =>
          exact (Keeps.read workspace defaultConfigPath).bind fun found =>
            .expect (Config.load found)
      | false => exact .pure ({} : Config)

theorem keeps_loadUnits {invariant : Effects → Prop} (paths : List String) :
    Keeps invariant (loadUnits workspace paths) := by
  induction paths with
  | nil => exact .pure ({} : LoadedUnits)
  | cons path rest ih =>
      exact (Keeps.read workspace path).bind fun found =>
        (Keeps.expect (HandOff.loadUnit path found)).bind fun document =>
          ih.bind fun later => .pure (later.cons path document)

theorem keeps_writeOutput (extractions : List UnitExtraction) :
    Keeps request.Confined (request.writeOutput workspace extractions) := by
  unfold writeOutput
  cases named : request.output with
  | some path =>
      -- both changes, the creation and the text behind it, are made to this file
      have touches {step : FileChange} (same : step.path = path) :
          Keeps request.Confined (Command.change step) :=
        .modify fun _ confined => confined.change (named.trans (congrArg some same.symm))
      exact (Keeps.create (touches rfl)).bind fun device => (touches rfl).bind fun _ =>
        (Keeps.expect _).bind fun _ => .pure _
  | none =>
      have prints (text : String) : Keeps request.Confined (Command.print text) :=
        .modify fun _ confined => ⟨confined.files, fun _ => named⟩
      exact (prints _).bind fun _ => (Keeps.expect _).bind fun _ => .pure _

theorem keeps_command : Keeps request.Confined (request.command workspace) := by
  have reports (lines : List String) : Keeps request.Confined (Command.report lines) :=
    .modify fun _ confined => ⟨confined.files, confined.stdout⟩
  refine keeps_loadConfig.bind fun config => (keeps_loadUnits _).bind fun loaded => ?_
  refine (reports _).bind fun _ => (Keeps.expect _).bind fun extractions => ?_
  refine (keeps_writeOutput extractions).bind fun lines => (reports _).bind fun _ => ?_
  split
  · exact (reports _).bind fun _ => .throw .noUnit
  · exact .pure ()

/-- Whatever happens in a run, only the output is touched. -/
theorem answer_confined (request : ExtractRequest) (workspace : Workspace) :
    request.Confined (request.answer workspace).toEffects := by
  have kept : request.Confined ((request.command workspace).left {}) :=
    keeps_command {} ⟨nofun, absurd rfl⟩
  rw [Command.left] at kept
  rw [answer, Command.answer]
  cases ran : (request.command workspace).run {} with
  | ok value effects =>
      rw [ran] at kept
      exact kept
  | error error effects =>
      rw [ran] at kept
      exact ⟨kept.files, kept.stdout⟩

/-- With a device for output, every run leaves all files as they were. -/
theorem after_of_device (request : ExtractRequest) (workspace : Workspace) (directory : Directory)
    {path : String} (named : request.output = some path)
    (device : Directory.IsDevice (Place.ofPath path)) :
    directory.after (request.answer workspace) = directory := by
  refine Directory.changed_of_device device fun change member => ?_
  exact Option.some.inj
    (((answer_confined request workspace).files change member).symm.trans named)

/-! ## The command -/

variable {config : Config}

/-- Where the output can be created, all lines arrive there. -/
theorem writeOutput_of_created (effects : Effects)
    (creatable : ∀ path, request.output = some path →
      workspace.create effects.changes path = .ok (.memory ""))
    (extractions : List UnitExtraction) :
    (request.writeOutput workspace extractions).run effects = .ok extractions.length {
      effects with
      output := effects.output ++
        if request.output.isNone then Text.ofLines (extractionLines extractions) else ""
      changes := effects.changes ++ request.output.elim [] fun path =>
        [.create path, .append path (Text.ofLines (extractionLines extractions))] } := by
  obtain ⟨sink, written, arrived, counted⟩ := writeLines_memory extractions
  unfold writeOutput
  cases named : request.output with
  | some path =>
      simp [EStateM.run_bind, Command.run_create, creatable path named, written, arrived, counted]
  | none => simp [EStateM.run_bind, written, arrived, counted]

/-- Where the output cannot be created, nothing is left of it. -/
theorem writeOutput_of_refused (effects : Effects) {path : String} {cause : IoCause}
    (named : request.output = some path)
    (refused : workspace.create effects.changes path = .error cause)
    (extractions : List UnitExtraction) :
    (request.writeOutput workspace extractions).run effects = .error (.io cause) effects := by
  simp only [writeOutput, named, EStateM.run_bind, Command.run_create, refused]

/-- Where the output refuses everything, it is empty once it is opened. -/
theorem writeOutput_of_refusing (effects : Effects) {path : String} {refusal : Refusal}
    (named : request.output = some path)
    (opened : workspace.create effects.changes path = .ok (.refusing refusal))
    (extractions : List UnitExtraction) :
    (request.writeOutput workspace extractions).run effects =
      let left := { effects with changes := effects.changes ++ [.create path, .append path ""] }
      match (writeLines (.refusing refusal) extractions).2 with
      | .error error => .error error left
      | .ok _ => .ok (writeLines (.refusing refusal) extractions).1.count left := by
  obtain ⟨nowhere, _⟩ := writeLines_refusing refusal extractions
  simp only [writeOutput, named, EStateM.run_bind, Command.run_create, opened, nowhere,
    Command.run_change, List.append_assoc, List.singleton_append]
  cases (writeLines (.refusing refusal) extractions).2 <;> rfl

/-- The lines of some units. -/
def unitLines (config : Config) (units : List SourceUnit) : List String :=
  units.map fun unit => (Report.ofExtraction (unit.extraction config)).render

theorem extractionLines_map (config : Config) (units : List SourceUnit) :
    extractionLines (units.map (·.extraction config)) = unitLines config units := by
  simp only [extractionLines, unitLines, List.map_map, Function.comp_def]

/-- Each line is read as the extraction of its unit. -/
theorem ofLine?_unitLines (config : Config) (units : List SourceUnit) :
    (unitLines config units).map Report.ofLine? =
      units.map fun unit => some (unit.extraction config) := by
  rw [unitLines, List.map_map]
  exact List.map_congr_left fun unit _ => Report.ofLine?_render (unit.extraction config)

/-- What is on standard error before anything is written. -/
def started (loaded : LoadedUnits) : Effects :=
  { errors := ["Extracting " ++ toString loaded.units.length ++ " units..."] }

/-- Once everything is loaded it is written, and only then is a missing unit complained about. -/
theorem extractLoaded_run (request : ExtractRequest) (workspace : Workspace) (config : Config)
    (loaded : LoadedUnits) :
    ∃ errors, (request.extractLoaded workspace config loaded).run {} =
      match (request.writeOutput workspace (loaded.units.map (·.extraction config))).run
        (started loaded) with
      | .error error left => .error error left
      | .ok _ left =>
        if loaded.missing = [] then .ok () { left with errors }
        else .error .noUnit { left with errors } := by
  unfold extractLoaded
  simp only [EStateM.run_bind, Command.run_report, extractAll_result, Command.run_expect_ok,
    List.nil_append, started]
  cases (request.writeOutput workspace (loaded.units.map (·.extraction config))).run
    { errors := ["Extracting " ++ toString loaded.units.length ++ " units..."] } with
  | error error left => exact ⟨[], rfl⟩
  | ok lines left =>
      cases loaded.missing with
      | nil => exact ⟨_, rfl⟩
      | cons path rest => exact ⟨_, rfl⟩

theorem not_misconfigured_of_configured (configured : request.Configured workspace config) :
    ¬request.Misconfigured workspace := by
  intro misconfigured
  obtain ⟨error, failed⟩ := loadConfig_of_misconfigured misconfigured
  rw [loadConfig_of_configured configured] at failed
  cases failed

theorem usable_of_holds (config : Config) {documents : List (Option SourceUnit)}
    (configured : request.Configured workspace config)
    (holds : List.Forall₂ workspace.Holds request.units documents) :
    ¬request.Unusable workspace := by
  rintro (misconfigured | ⟨path, member, unreadable⟩)
  · exact not_misconfigured_of_configured configured misconfigured
  · obtain ⟨missing, loaded, _⟩ := loadUnits_of_holds holds
    obtain ⟨error, failed⟩ := loadUnits_of_unreadable member unreadable
    rw [loaded] at failed
    cases failed

theorem leavesNothing_of_unusable (unusable : request.Unusable workspace) :
    (request.answer workspace).LeavesNothing := by
  have failed : ∃ error, (request.command workspace).run {} = .error error {} := by
    rcases request.configured_or_misconfigured workspace with
      ⟨config, configured⟩ | misconfigured
    · rcases unusable with misconfigured | ⟨path, member, unreadable⟩
      · obtain ⟨error, failed⟩ := loadConfig_of_misconfigured misconfigured
        exact ⟨error, run_bind_error failed _⟩
      · obtain ⟨error, failed⟩ := loadUnits_of_unreadable member unreadable
        refine ⟨error, ?_⟩
        rw [command, run_bind_ok (loadConfig_of_configured configured)]
        exact run_bind_error failed _
    · obtain ⟨error, failed⟩ := loadConfig_of_misconfigured misconfigured
      exact ⟨error, run_bind_error failed _⟩
  obtain ⟨error, failed⟩ := failed
  exact Answer.leavesNothing_of_run failed rfl rfl

/-- What can be used is loaded before anything else happens. -/
theorem command_of_usable (usable : ¬request.Unusable workspace) :
    ∃ config documents missing, request.Configured workspace config ∧
      List.Forall₂ workspace.Holds request.units documents ∧ (missing = [] ↔ none ∉ documents) ∧
      (request.command workspace).run {} =
        (request.extractLoaded workspace config ⟨documents.reduceOption, missing⟩).run {} := by
  -- what is not unusable has a configuration, and a document at each path
  obtain ⟨wellConfigured, readable⟩ := not_or.mp usable
  obtain ⟨config, configured⟩ :=
    (request.configured_or_misconfigured workspace).resolve_right wellConfigured
  obtain ⟨documents, holds⟩ := exists_documents fun path member unreadable =>
    readable ⟨path, member, unreadable⟩
  obtain ⟨missing, loaded, complete⟩ := loadUnits_of_holds holds
  refine ⟨config, documents, missing, configured, holds, complete, ?_⟩
  rw [command, run_bind_ok (loadConfig_of_configured configured), run_bind_ok loaded]

/-- An output that cannot be created leaves nothing behind either. -/
theorem leavesNothing_of_refused {path : String} {cause : IoCause}
    (named : request.output = some path) (refused : workspace.create [] path = .error cause) :
    (request.answer workspace).LeavesNothing := by
  by_cases usable : request.Unusable workspace
  · exact leavesNothing_of_unusable usable
  · obtain ⟨config, documents, missing, _, _, _, ran⟩ := command_of_usable usable
    obtain ⟨errors, written⟩ := request.extractLoaded_run workspace config
      ⟨documents.reduceOption, missing⟩
    rw [writeOutput_of_refused (started _) named refused] at written
    exact Answer.leavesNothing_of_run (ran.trans written) rfl rfl

/-- An extraction leaves all of its lines behind, or nothing.

If the configuration cannot be loaded, or a file is missing, holds no text or no document, the
command fails, writes nothing to standard output, and neither creates nor changes any file; and so
it does if the output file cannot be created. In all other cases there is one line for each unit,
in the order of the files, from which the unit's own extraction is read; and the command then fails,
for want of a unit, exactly if there is a file without one. -/
theorem extract_all_or_nothing (request : ExtractRequest) (workspace : Workspace) :
    (request.Unusable workspace → (request.answer workspace).LeavesNothing) ∧
      (∀ path cause, request.output = some path → workspace.create [] path = .error cause →
        (request.answer workspace).LeavesNothing) ∧
      (¬request.Unusable workspace →
        (∀ path, request.output = some path → workspace.create [] path = .ok (.memory "")) →
        ∃ config documents, request.Configured workspace config ∧
          List.Forall₂ workspace.Holds request.units documents ∧
          (request.answer workspace).LeavesLines request.output
            (unitLines config documents.reduceOption) ∧
          (unitLines config documents.reduceOption).map Report.ofLine? =
            documents.reduceOption.map (fun unit => some (unit.extraction config)) ∧
          ((request.answer workspace).FailsWith .noUnit ↔ none ∈ documents) ∧
          ((request.answer workspace).exit = 0 ↔ none ∉ documents)) := by
  refine ⟨leavesNothing_of_unusable, fun _ _ => leavesNothing_of_refused,
    fun usable creatable => ?_⟩
  obtain ⟨config, documents, missing, configured, holds, complete, ran⟩ :=
    command_of_usable usable
  obtain ⟨errors, written⟩ := request.extractLoaded_run workspace config
    ⟨documents.reduceOption, missing⟩
  rw [writeOutput_of_created (started _) creatable, extractionLines_map] at written
  obtain ⟨printed, changed, fails, succeeds⟩ := Answer.of_run (ran.trans written)
  refine ⟨config, documents, configured, holds, ?_, ofLine?_unitLines config _, ?_,
    succeeds.trans complete⟩
  · refine Answer.leavesLines_of_effects (fun line member => ?_) ?_ changed
    · obtain ⟨unit, _, rfl⟩ := List.mem_map.mp member
      exact Json.isOneLine_render _
    · exact printed.trans String.empty_append
  · exact fails.trans ((not_congr complete).trans not_not)

/-- A directory with a file that holds a unit, and one that holds none. -/
def handedFiles : Directory :=
  ⟨[("unit.json", "\x7b\"file_id\": 7, \"source\": \"\"\x7d".toUTF8),
    ("none.json", "null".toUTF8)]⟩

/-- The unit in the first of these files. -/
def handedUnit : SourceUnit := ⟨⟨7⟩, "", none, "", #[], #[]⟩

theorem handedFiles_hold :
    List.Forall₂ handedFiles.workspace.Holds ["unit.json", "none.json"]
      [some handedUnit, none] := by
  have unit : HandOff.readUnit? "\x7b\"file_id\": 7, \"source\": \"\"\x7d" =
      some handedUnit := by cbv
  have null : HandOff.readUnit? "null" = some none := by cbv
  exact .cons ⟨_, _, rfl, by decide +kernel, HandOff.readUnit?_eq_some.mp unit⟩
    (.cons ⟨_, _, rfl, by decide +kernel, HandOff.readUnit?_eq_some.mp null⟩ .nil)

/-- From these files the line of the unit is written, and the command then fails. With a file that
is not there, or for an output in a directory that is not there, nothing is written at all. -/
theorem handedFiles_extracted :
    (∃ config documents,
      List.Forall₂ handedFiles.workspace.Holds ["unit.json", "none.json"] documents ∧
      handedFiles.WritesFile
        (handedFiles.after (ExtractRequest.answer
          ⟨["unit.json", "none.json"], none, some "lines.jsonl"⟩ handedFiles.workspace))
        "lines.jsonl" (Text.ofLines (unitLines config documents.reduceOption)).toUTF8) ∧
    (ExtractRequest.answer ⟨["unit.json", "absent.json"], none, some "lines.jsonl"⟩
      handedFiles.workspace).LeavesNothing ∧
    (ExtractRequest.answer ⟨["unit.json"], none, some "absent/lines.jsonl"⟩
      handedFiles.workspace).LeavesNothing := by
  have usable : ¬Unusable ⟨["unit.json", "none.json"], none, some "lines.jsonl"⟩
      handedFiles.workspace := usable_of_holds {} rfl handedFiles_hold
  have creatable : handedFiles.CanCreate "lines.jsonl" := by
    have place : Place.ofPath "lines.jsonl" = ⟨.above 0, ["lines.jsonl"]⟩ := rfl
    have null : Place.nullDevice = ⟨.root, ["null", "dev"]⟩ := rfl
    refine ⟨rfl, ?_⟩
    rw [place, null]
    nofun
  have nothing : handedFiles.workspace.read [] "absent.json" = .error .notFound := rfl
  refine ⟨?_, ?_, ?_⟩
  · obtain ⟨config, documents, _, holds, lines, _⟩ :=
      (extract_all_or_nothing _ handedFiles.workspace).2.2 usable fun path named => by
        cases named
        exact creatable.1
    exact ⟨config, documents, holds, (lines.file "lines.jsonl" rfl).2.2 handedFiles creatable⟩
  · exact (extract_all_or_nothing _ handedFiles.workspace).1
      (.inr ⟨"absent.json", by decide, .unreadable nothing⟩)
  · exact (extract_all_or_nothing _ handedFiles.workspace).2.1 "absent/lines.jsonl" .notFound
      rfl rfl

/-- An output that is opened and then refuses everything is created, or emptied if it was there, and
stays empty; and the command fails if there was a unit to write. -/
theorem opened_of_refusing {path : String} {refusal : Refusal}
    (usable : ¬request.Unusable workspace) (named : request.output = some path)
    (opened : workspace.create [] path = .ok (.refusing refusal)) :
    ∃ documents, List.Forall₂ workspace.Holds request.units documents ∧
      (request.answer workspace).output = "" ∧
      (request.answer workspace).changes = [.create path, .append path ""] ∧
      (documents.reduceOption ≠ [] → (request.answer workspace).exit = 1) := by
  obtain ⟨config, documents, missing, _, holds, _, ran⟩ := command_of_usable usable
  obtain ⟨errors, written⟩ := request.extractLoaded_run workspace config
    ⟨documents.reduceOption, missing⟩
  rw [← ran, writeOutput_of_refusing (started _) named opened] at written
  obtain ⟨_, fails⟩ := writeLines_refusing refusal
    (documents.reduceOption.map (·.extraction config))
  refine ⟨documents, holds, ?_⟩
  cases result : (writeLines (.refusing refusal)
    (documents.reduceOption.map (·.extraction config))).2 with
  | error error =>
      rw [result] at written
      rw [answer, Command.answer, written]
      exact ⟨rfl, rfl, fun _ => rfl⟩
  | ok _ =>
      rw [result] at written fails
      obtain ⟨printed, changed, _⟩ := Answer.of_run written
      exact ⟨printed, changed, fun some => absurd rfl (fails (mt List.map_eq_nil_iff.mp some))⟩

end ExtractRequest

end CodeIndex

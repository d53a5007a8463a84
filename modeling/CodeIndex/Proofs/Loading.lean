import CodeIndex.Command.Answer
import CodeIndex.Config.Settings
import CodeIndex.HandOff.Decode
import Mathlib

/-!
# What can be loaded

A configuration and a document are each read from the bytes of a file in the same way: there has to
be something to read, it has to be text in UTF-8, and the text has to have a meaning. Here is which
texts have one, without the order in which a reader looks at them.

* `Config.Written` is a text with a configuration: blanks, or a mapping with `Config.Given` entries.
  `ofText_eq_ok` and `ofText_eq_error` are when reading one succeeds and when it fails.
* `HandOff.Written`, `readUnit?_eq_some` and `readUnit?_eq_none` are the same for documents.
* `Workspace.Holds` and `Workspace.Configures` are files that can be loaded, `Workspace.Unreadable`
  and `Workspace.Misconfigures` those that cannot. There is nothing between them
  (`gives_or_givesNothing`).
-/

namespace CodeIndex

/-! ## Configurations -/

namespace Config

open Yaml (Scalar)

variable {α : Type} {decode : Scalar → Option α}

/-- What the value of a name stands for, or a default where the name is not given. -/
def Chosen (decode : Scalar → Option α) (default : α) (given : Option Scalar) (chosen : α) : Prop :=
  match given with
  | none => chosen = default
  | some value => decode value = some chosen

/-- Entries that give a configuration: no name is repeated or unknown, and each choice is the value
of its name, or the default. -/
structure Given (entries : List (String × Scalar)) (config : Config) : Prop where
  distinct : (entries.map (·.1)).Nodup
  known : ∀ name ∈ entries.map (·.1),
    name ∈ ["emit-doc-comments", "emit-usages", "max-ast-value-chars"]
  docComments : Chosen flag? true (entries.lookup "emit-doc-comments") config.emitDocComments
  usages : Chosen flag? true (entries.lookup "emit-usages") config.emitUsages
  limit : Chosen limit? none (entries.lookup "max-ast-value-chars") config.maxValueLength

/-- A text that holds a configuration: blanks, for that without any choice, or a mapping. -/
def Written (text : String) (config : Config) : Prop :=
  if text.toList.all Text.isBlank then config = {}
  else ∃ entries, Yaml.mapping? text = some entries ∧ Given entries config

/-- Entries that choose a configuration when some names were given before, and the choices so far
are those of another configuration. -/
structure Chooses (start : Config) (given : List String) (entries : List (String × Scalar))
    (config : Config) : Prop where
  distinct : (entries.map (·.1)).Nodup
  fresh : ∀ name ∈ entries.map (·.1), name ∉ given
  known : ∀ name ∈ entries.map (·.1),
    name ∈ ["emit-doc-comments", "emit-usages", "max-ast-value-chars"]
  docComments : Chosen flag? start.emitDocComments (entries.lookup "emit-doc-comments")
    config.emitDocComments
  usages : Chosen flag? start.emitUsages (entries.lookup "emit-usages") config.emitUsages
  limit : Chosen limit? start.maxValueLength (entries.lookup "max-ast-value-chars")
    config.maxValueLength

/-- A name that is not given again is chosen by its first entry. -/
theorem chosen_cons {name key : String} {value : Scalar} {rest : List (String × Scalar)}
    {default chosen : α} (fresh : name ∉ rest.map (·.1)) :
    Chosen decode default (((name, value) :: rest).lookup key) chosen ↔
      ∃ next, Chosen decode default ([(name, value)].lookup key) next ∧
        Chosen decode next (rest.lookup key) chosen := by
  by_cases same : key = name
  · have absent : rest.lookup key = none := by
      rw [List.lookup_eq_none_iff, same]
      intro entry member
      rw [bne_iff_ne]
      rintro rfl
      exact fresh (List.mem_map_of_mem member)
    subst same
    simp [List.lookup_cons_self, absent, Chosen]
  · simp [List.lookup_cons, beq_false_of_ne same, Chosen]

theorem chooses_cons {start config : Config} {given : List String} {name : String}
    {value : Scalar} {rest : List (String × Scalar)} :
    Chooses start given ((name, value) :: rest) config ↔
      name ∉ given ∧ ∃ next, Chooses start [] [(name, value)] next ∧
        Chooses next (name :: given) rest config := by
  constructor
  · rintro ⟨distinct, fresh, known, docComments, usages, limit⟩
    obtain ⟨once, distinct⟩ := List.nodup_cons.mp distinct
    obtain ⟨here, fresh⟩ := List.forall_mem_cons.mp fresh
    obtain ⟨knownHere, known⟩ := List.forall_mem_cons.mp known
    obtain ⟨nextDocComments, docCommentsHere, docComments⟩ := (chosen_cons once).mp docComments
    obtain ⟨nextUsages, usagesHere, usages⟩ := (chosen_cons once).mp usages
    obtain ⟨nextLimit, limitHere, limit⟩ := (chosen_cons once).mp limit
    -- what the first entry makes of each choice, put together
    refine ⟨here, ⟨nextDocComments, nextUsages, nextLimit⟩, ?_, ?_⟩
    · exact ⟨List.nodup_singleton name, fun _ _ => List.not_mem_nil,
        List.forall_mem_singleton.mpr knownHere, docCommentsHere, usagesHere, limitHere⟩
    · refine ⟨distinct, fun other member => ?_, known, docComments, usages, limit⟩
      rw [List.mem_cons, not_or]
      exact ⟨fun same => once (same ▸ member), fresh other member⟩
  · rintro ⟨here, next, first, later⟩
    have once : name ∉ rest.map (·.1) := fun member =>
      later.fresh name member List.mem_cons_self
    exact {
      distinct := List.nodup_cons.mpr ⟨once, later.distinct⟩
      fresh := List.forall_mem_cons.mpr
        ⟨here, fun other member => fun before => later.fresh other member (.tail _ before)⟩
      known := List.forall_mem_cons.mpr ⟨first.known name List.mem_cons_self, later.known⟩
      docComments := (chosen_cons once).mpr ⟨_, first.docComments, later.docComments⟩
      usages := (chosen_cons once).mpr ⟨_, first.usages, later.usages⟩
      limit := (chosen_cons once).mpr ⟨_, first.limit, later.limit⟩ }

/-- A name that is known sets its own choice and leaves the others. -/
theorem set?_eq_some {start next : Config} {name : String} {value : Scalar} :
    start.set? name value = some next ↔ Chooses start [] [(name, value)] next := by
  constructor
  · intro set
    unfold set? at set
    split_ifs at set with docComments usages limit
    all_goals
      subst name
      obtain ⟨choice, decoded, rfl⟩ := Option.map_eq_some_iff.mp set
    · exact ⟨List.nodup_singleton _, by simp, by simp, decoded, rfl, rfl⟩
    · exact ⟨List.nodup_singleton _, by simp, by simp, rfl, decoded, rfl⟩
    · exact ⟨List.nodup_singleton _, by simp, by simp, rfl, rfl, decoded⟩
  · rintro ⟨_, _, known, docComments, usages, limit⟩
    obtain ⟨nextDocComments, nextUsages, nextLimit⟩ := next
    have known := known name List.mem_cons_self
    simp only [List.mem_cons, List.not_mem_nil, or_false] at known
    rcases known with rfl | rfl | rfl
    · have decoded : flag? value = some nextDocComments := docComments
      cases usages
      cases limit
      simp [set?, decoded]
    · have decoded : flag? value = some nextUsages := usages
      cases docComments
      cases limit
      simp [set?, decoded]
    · have decoded : limit? value = some nextLimit := limit
      cases docComments
      cases usages
      simp [set?, decoded]

theorem setAll?_eq_some {start config : Config} {given : List String}
    {entries : List (String × Scalar)} :
    start.setAll? given entries = some config ↔ Chooses start given entries config := by
  induction entries generalizing start given with
  | nil =>
      constructor
      · intro set
        obtain rfl := Option.some.inj set
        exact ⟨List.nodup_nil, nofun, nofun, rfl, rfl, rfl⟩
      · rintro ⟨_, _, _, docComments, usages, limit⟩
        cases start
        cases config
        cases docComments
        cases usages
        cases limit
        rfl
  | cons entry rest ih =>
      obtain ⟨name, value⟩ := entry
      rw [chooses_cons, setAll?]
      by_cases repeated : name ∈ given
      · simp [repeated]
      · rw [if_neg repeated]
        simp only [repeated, not_false_eq_true, true_and, ← set?_eq_some, ← ih]
        cases start.set? name value <;> simp

theorem chooses_iff_given {entries : List (String × Scalar)} {config : Config} :
    Chooses {} [] entries config ↔ Given entries config :=
  ⟨fun chooses => ⟨chooses.distinct, chooses.known, chooses.docComments, chooses.usages,
      chooses.limit⟩,
    fun given => ⟨given.distinct, fun _ _ => List.not_mem_nil, given.known, given.docComments,
      given.usages, given.limit⟩⟩

theorem ofText_eq_ok {text : String} {config : Config} :
    ofText text = .ok config ↔ Written text config := by
  unfold ofText Written
  split_ifs with blank
  · exact ⟨fun read => (Except.ok.inj read).symm, fun same => congrArg Except.ok same.symm⟩
  · simp only [← chooses_iff_given, ← setAll?_eq_some, ← Option.bind_eq_some_iff]
    cases (Yaml.mapping? text).bind (({} : Config).setAll? []) <;> simp

/-- A text that holds no configuration is an error of configuration, and there is no other. -/
theorem ofText_eq_error {text : String} {error : Error} :
    ofText text = .error error ↔ error = .config ∧ ∀ config, ¬Written text config := by
  simp only [← ofText_eq_ok]
  unfold ofText
  split_ifs with blank
  · simp
  · cases (Yaml.mapping? text).bind (({} : Config).setAll? []) <;> simp [eq_comm]

end Config

/-! ## Documents -/

namespace HandOff

variable {text : String}

/-- No kind of a node in a document holds what cannot be read, or is nested too deep. -/
def HasReadableKinds (document : Json) : Prop :=
  ∀ kind ∈ payloads document, kind.isReadable ∧ kind.depth ≤ maxPayloadDepth

/-- A text that is a document: the word for nothing, where there is no unit, or a unit. -/
def Written (text : String) : Option SourceUnit → Prop
  | none => Json.parse? text = some .null
  | some unit => ∃ document, Json.parse? text = some document ∧ HasReadableKinds document ∧
      unit? document = some unit

theorem nullable_eq_none {α : Type} {decode : Json → Option α} {value : Json} :
    nullable decode value = some none ↔ value = .null := by
  constructor
  · intro none
    unfold nullable at none
    split at none
    · rfl
    · simp at none
  · rintro rfl
    rfl

theorem nullable_eq_unit {document : Json} {unit : SourceUnit} :
    nullable unit? document = some (some unit) ↔ unit? document = some unit := by
  unfold nullable
  split
  · exact iff_of_false nofun nofun
  · simp

theorem readUnit?_eq_some {found : Option SourceUnit} :
    readUnit? text = some found ↔ Written text found := by
  have read : readUnit? text = some found ↔ ∃ document, Json.parse? text = some document ∧
      HasReadableKinds document ∧ nullable unit? document = some found := by
    simp [readUnit?, HasReadableKinds, Option.bind_eq_some_iff]
  rw [read]
  cases found with
  | some unit => simp only [nullable_eq_unit, Written]
  | none =>
      simp only [nullable_eq_none]
      constructor
      · rintro ⟨_, parsed, _, rfl⟩
        exact parsed
      · intro parsed
        exact ⟨.null, parsed, nofun, rfl⟩

/-- What is no document is no JSON, or else a value that is not nothing and either holds kinds that
cannot be read or is no unit. -/
theorem readUnit?_eq_none :
    readUnit? text = none ↔ ∀ document, Json.parse? text = some document →
      document ≠ .null ∧ (HasReadableKinds document → unit? document = none) := by
  have silent : readUnit? text = none ↔ ∀ found, ¬Written text found := by
    simp only [← readUnit?_eq_some, Option.eq_none_iff_forall_ne_some]
  rw [silent]
  constructor
  · intro refused document parsed
    refine ⟨?_, fun kinds => Option.eq_none_iff_forall_ne_some.mpr fun unit decoded => ?_⟩
    · rintro rfl
      exact refused none parsed
    · exact refused (some unit) ⟨document, parsed, kinds, decoded⟩
  · intro refused found written
    cases found with
    | none => exact (refused .null written).1 rfl
    | some unit =>
        obtain ⟨document, parsed, kinds, decoded⟩ := written
        rw [(refused document parsed).2 kinds] at decoded
        cases decoded

end HandOff

/-! ## Files -/

namespace Workspace

variable {workspace : Workspace} {path : String}

/-- The file at a path can be read, and its text means a value. Nothing is changed before. -/
def Gives {α : Type} (workspace : Workspace) (path : String) (means : String → α → Prop)
    (value : α) : Prop :=
  ∃ bytes text, workspace.read [] path = .ok bytes ∧ String.fromUTF8? bytes = some text ∧
    means text value

/-- Why there is no value at a path: there is nothing that can be read, or no text in UTF-8, or the
text means no value. -/
inductive GivesNothing {α : Type} (workspace : Workspace) (path : String)
    (means : String → α → Prop) : Prop
  | unreadable {cause : IoCause} : workspace.read [] path = .error cause →
      GivesNothing workspace path means
  | notText {bytes : ByteArray} : workspace.read [] path = .ok bytes →
      String.fromUTF8? bytes = none → GivesNothing workspace path means
  | malformed {bytes : ByteArray} {text : String} : workspace.read [] path = .ok bytes →
      String.fromUTF8? bytes = some text → (∀ value, ¬means text value) →
      GivesNothing workspace path means

/-- There is nothing between a file that gives a value and one that gives none. -/
theorem gives_or_givesNothing {α : Type} (workspace : Workspace) (path : String)
    (means : String → α → Prop) :
    (∃ value, workspace.Gives path means value) ∨ workspace.GivesNothing path means := by
  cases read : workspace.read [] path with
  | error cause => exact .inr (.unreadable read)
  | ok bytes =>
      cases decoded : String.fromUTF8? bytes with
      | none => exact .inr (.notText read decoded)
      | some text =>
          by_cases silent : ∀ value, ¬means text value
          · exact .inr (.malformed read decoded silent)
          · obtain ⟨value, meant⟩ := not_forall_not.mp silent
            exact .inl ⟨value, bytes, text, read, decoded, meant⟩

/-- The file at a path holds a document, with a unit or without. -/
def Holds (workspace : Workspace) (path : String) (document : Option SourceUnit) : Prop :=
  workspace.Gives path HandOff.Written document

/-- There is no document at a path. -/
def Unreadable (workspace : Workspace) (path : String) : Prop :=
  workspace.GivesNothing path HandOff.Written

theorem loadUnit_of_holds {document : Option SourceUnit} (holds : workspace.Holds path document) :
    HandOff.loadUnit path (workspace.read [] path) = .ok document := by
  obtain ⟨bytes, text, read, decoded, written⟩ := holds
  simp only [HandOff.loadUnit, read, decoded, HandOff.readUnit?_eq_some.mpr written]

theorem loadUnit_of_unreadable (unreadable : workspace.Unreadable path) :
    ∃ error, HandOff.loadUnit path (workspace.read [] path) = .error error := by
  cases unreadable with
  | @unreadable cause read => exact ⟨.io cause, by rw [read]; rfl⟩
  | notText read undecoded =>
      exact ⟨.io .invalidText, by simp only [HandOff.loadUnit, read, undecoded]⟩
  | malformed read decoded silent =>
      have unparsed := Option.eq_none_iff_forall_ne_some.mpr fun found parsed =>
        silent found (HandOff.readUnit?_eq_some.mp parsed)
      exact ⟨.malformedUnit path, by simp only [HandOff.loadUnit, read, decoded, unparsed]⟩

/-- The file at a path holds a configuration. -/
def Configures (workspace : Workspace) (path : String) (config : Config) : Prop :=
  workspace.Gives path Config.Written config

/-- There is no configuration at a path. -/
def Misconfigures (workspace : Workspace) (path : String) : Prop :=
  workspace.GivesNothing path Config.Written

theorem load_of_configures {config : Config} (configures : workspace.Configures path config) :
    Config.load (workspace.read [] path) = .ok config := by
  obtain ⟨bytes, text, read, decoded, written⟩ := configures
  simp only [Config.load, read, decoded, Config.ofText_eq_ok.mpr written]

theorem load_of_misconfigures (misconfigures : workspace.Misconfigures path) :
    ∃ error, Config.load (workspace.read [] path) = .error error := by
  cases misconfigures with
  | @unreadable cause read => exact ⟨.io cause, by rw [read]; rfl⟩
  | notText read undecoded =>
      exact ⟨.io .invalidText, by simp only [Config.load, read, undecoded]⟩
  | malformed read decoded silent =>
      exact ⟨.config, by
        simp only [Config.load, read, decoded, Config.ofText_eq_error.mpr ⟨rfl, silent⟩]⟩

end Workspace

end CodeIndex

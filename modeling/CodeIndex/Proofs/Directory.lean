import CodeIndex.Command.Directory
import CodeIndex.Proofs.Result
import Mathlib.Data.List.Basic

/-!
# A file that was written is read again

Creating a file at a path and reading that path later lead to one place, although what was
written changes what there is on the way: a new file is new at its own place, and every directory
on the way to it was there before.

* `Directory.CanCreate`: a path at which a file, and not a device, can be created or replaced.
* `Writable` is what this means for the way to the file. Putting a file at its end changes nothing
  else: no way opens or closes (`follow_put`), and all other files are as before
  (`read_put_of_ne`).
* `WritesFile`, and `writesFile_changed`: what is written behind the creation of a file is read
  again, and nothing else has changed.
-/

namespace CodeIndex

/-! ## The last name on a path -/

/-- The last part of a text that is cut is empty only where the text ends with the mark. -/
theorem Text.getLast?_pieces {mark : Char} {text : List Char}
    (last : (pieces mark text).getLast? = some []) : text = [] ∨ text.getLast? = some mark := by
  induction text with
  | nil => exact .inl rfl
  | cons c rest ih =>
      right
      rw [pieces] at last
      split at last
      · next same =>
          rw [List.getLast?_cons_of_ne_nil (pieces_ne_nil mark rest)] at last
          rcases ih last with rfl | ends
          · rw [same]
            rfl
          · rw [List.getLast?_cons, ends]
            rfl
      · split at last
        · next none => exact absurd none (pieces_ne_nil mark rest)
        · next first later cut =>
            cases later with
            | nil => cases last
            | cons next others =>
                rw [cut, List.getLast?_cons_cons] at ih
                rw [List.getLast?_cons_cons] at last
                rcases ih last with rfl | ends
                · cases cut
                · rw [List.getLast?_cons, ends]
                  rfl

namespace Directory

variable {directory : Directory} {path : String} {bytes : ByteArray}

/-- A file can be created at a path, or one that is there can be replaced. Neither of the two
devices is such a file. -/
def CanCreate (directory : Directory) (path : String) : Prop :=
  directory.target path = .ok (.memory "") ∧ Place.ofPath path ≠ Place.nullDevice

/-! ## What there is -/

/-- The file at a place that was written last. -/
def fileAt? (directory : Directory) (place : Place) : Option (String × ByteArray) :=
  directory.files.reverse.find? fun file => Place.ofPath file.1 == place

/-- A place is a device. -/
def IsDevice (place : Place) : Prop := place ∈ [Place.nullDevice, Place.fullDevice]

theorem not_isDevice {place : Place} :
    ¬IsDevice place ↔ place ≠ Place.nullDevice ∧ place ≠ Place.fullDevice := by
  simp [IsDevice]

theorem put_of_device (device : IsDevice (Place.ofPath path)) :
    directory.put path bytes = directory := if_pos device

theorem put_of_noDevice (noDevice : ¬IsDevice (Place.ofPath path)) :
    directory.put path bytes = ⟨directory.files ++ [(path, bytes)]⟩ := if_neg noDevice

theorem fileAt?_put (noDevice : ¬IsDevice (Place.ofPath path)) (place : Place) :
    fileAt? (directory.put path bytes) place =
      if Place.ofPath path = place then some (path, bytes) else directory.fileAt? place := by
  rw [put_of_noDevice noDevice, fileAt?, List.reverse_append, List.reverse_singleton,
    List.singleton_append, List.find?_cons, fileAt?]
  by_cases here : Place.ofPath path = place
  · rw [if_pos here, beq_iff_eq.mpr here]
  · rw [if_neg here, beq_false_of_ne here]

/-- What is at a place that is no device. -/
theorem entry?_of_noDevice {place : Place} (noDevice : ¬IsDevice place) :
    directory.entry? place =
      match directory.fileAt? place with
      | some file => some (.file file.2)
      | none =>
        if place.names.isEmpty || isBelow Place.nullDevice place ||
          directory.files.any fun file => isBelow (Place.ofPath file.1) place
        then some .directory
        else none := by
  obtain ⟨null, full⟩ := not_isDevice.mp noDevice
  unfold entry?
  rw [if_neg null, if_neg full]
  rfl

/-- The file that was written last is at its place. -/
theorem entry?_put_self (noDevice : ¬IsDevice (Place.ofPath path)) :
    entry? (directory.put path bytes) (Place.ofPath path) = some (.file bytes) := by
  rw [entry?_of_noDevice noDevice, fileAt?_put noDevice, if_pos rfl]

/-- A device is at its place, whatever files there are. -/
theorem entry?_of_device {place : Place} (device : IsDevice place) (other : Directory) :
    directory.entry? place = other.entry? place := by
  simp only [IsDevice, List.mem_cons, List.not_mem_nil, or_false] at device
  rcases device with rfl | rfl <;> rfl

/-! ## The way to a file -/

theorem expectDirectory_eq_ok {place : Place} :
    directory.expectDirectory place = .ok () ↔ directory.entry? place = some .directory := by
  rw [expectDirectory]
  rcases directory.entry? place with _ | _ | _ | _ | _ <;> simp

/-- Names are followed one after the other, from directory to directory. -/
theorem follow_cons_eq_ok {place reached : Place} {name : String} {names : List String} :
    directory.follow place (name :: names) = .ok reached ↔
      directory.entry? place = some .directory ∧ name.utf8ByteSize ≤ maxName ∧
        directory.follow (place.enter name) names = .ok reached := by
  rw [follow, ← expectDirectory_eq_ok]
  rcases directory.expectDirectory place with cause | _
  · simp [bind, Except.bind]
  · by_cases long : maxName < name.utf8ByteSize
    · simp [bind, Except.bind, long, Nat.not_le.mpr long]
    · simp [bind, Except.bind, long, Nat.le_of_not_lt long]

theorem follow_eq_ok {place reached : Place} {names : List String}
    (followed : directory.follow place names = .ok reached) :
    reached = names.foldl Place.enter place := by
  induction names generalizing place with
  | nil =>
      cases followed
      rfl
  | cons name rest ih => exact ih (follow_cons_eq_ok.mp followed).2.2

theorem follow_append_eq_ok {place outer reached : Place} {names more : List String}
    (followed : directory.follow place names = .ok outer)
    (further : directory.follow outer more = .ok reached) :
    directory.follow place (names ++ more) = .ok reached := by
  induction names generalizing place with
  | nil =>
      cases followed
      exact further
  | cons name rest ih =>
      obtain ⟨isDirectory, short, later⟩ := follow_cons_eq_ok.mp followed
      exact follow_cons_eq_ok.mpr ⟨isDirectory, short, ih later⟩

/-! ## What a file changes -/

/-- All places that a place lies below are directories. -/
def IsInside (directory : Directory) (place : Place) : Prop :=
  ∀ outer, isBelow place outer → directory.entry? outer = some .directory

theorem isBelow_iff {inner outer : Place} :
    isBelow inner outer ↔ inner.origin = outer.origin ∧
      outer.names.length < inner.names.length ∧ outer.names <:+ inner.names := by
  simp [isBelow, and_assoc]

/-- What lies around a place lies around what is entered from it, or is the place itself. -/
theorem isBelow_enter {place outer : Place} {name : String}
    (below : isBelow (place.enter name) outer) : outer = place ∨ isBelow place outer := by
  unfold Place.enter at below
  split at below
  · exact .inr below
  · split at below
    · obtain ⟨origin, names⟩ := place
      right
      cases names with
      | cons first rest =>
          obtain ⟨same, shorter, suffix⟩ := isBelow_iff.mp below
          exact isBelow_iff.mpr
            ⟨same, Nat.lt_succ_of_lt shorter, suffix.trans (List.suffix_cons first rest)⟩
      | nil =>
          -- around the outermost place of a tree there is nothing
          cases origin <;> exact absurd (isBelow_iff.mp below).2.1 (Nat.not_lt_zero _)
    · obtain ⟨same, shorter, suffix⟩ := isBelow_iff.mp below
      rcases List.suffix_cons_iff.mp suffix with whole | inside
      · rw [whole] at shorter
        exact absurd shorter (Nat.lt_irrefl _)
      · rcases Nat.lt_or_ge outer.names.length place.names.length with further | near
        · exact .inr (isBelow_iff.mpr ⟨same, further, inside⟩)
        · left
          have names : outer.names = place.names :=
            inside.eq_of_length (Nat.le_antisymm inside.length_le near)
          obtain ⟨origin, names⟩ := place
          cases outer
          cases same
          cases names
          rfl

/-- Whoever follows names is always inside of directories. -/
theorem isInside_follow {place reached : Place} {names : List String}
    (inside : directory.IsInside place) (followed : directory.follow place names = .ok reached) :
    directory.IsInside reached := by
  induction names generalizing place with
  | nil =>
      cases followed
      exact inside
  | cons name rest ih =>
      obtain ⟨isDirectory, _, later⟩ := follow_cons_eq_ok.mp followed
      refine ih (fun outer below => ?_) later
      rcases isBelow_enter below with rfl | around
      · exact isDirectory
      · exact inside outer around

/-- Nothing lies around the place where a path begins. -/
theorem isInside_start (path : String) : directory.IsInside (Place.start path) := by
  intro outer below
  have empty : (Place.start path).names = [] := by
    unfold Place.start
    split <;> rfl
  have shorter := (isBelow_iff.mp below).2.1
  rw [empty] at shorter
  exact absurd shorter (Nat.not_lt_zero _)

/-- A path has an allowed length and leads to a place at which there is a file or nothing. -/
structure Writable (directory : Directory) (path : String) : Prop where
  length : checkLength path = .ok ()
  way : directory.follow (Place.start path) (Place.namesOn path) = .ok (Place.ofPath path)
  noDirectory : directory.entry? (Place.ofPath path) ≠ some .directory
  noDevice : ¬IsDevice (Place.ofPath path)

namespace Writable

variable (writable : directory.Writable path)

include writable

/-- At all other places there is what was there before. A place around the file was a directory
already. -/
theorem entry?_put_of_ne {place : Place} (elsewhere : place ≠ Place.ofPath path) :
    entry? (directory.put path bytes) place = directory.entry? place := by
  by_cases device : IsDevice place
  · exact entry?_of_device device directory
  -- a file could make a directory of a place around it, but there each place is one already
  have around : isBelow (Place.ofPath path) place → directory.entry? place = some .directory :=
    isInside_follow (isInside_start path) writable.way place
  rw [entry?_of_noDevice device] at around
  rw [entry?_of_noDevice device, entry?_of_noDevice device, fileAt?_put writable.noDevice,
    if_neg elsewhere.symm, put_of_noDevice writable.noDevice]
  cases found : directory.fileAt? place with
  | some file => rfl
  | none =>
      rw [found] at around
      by_cases below : isBelow (Place.ofPath path) place
      · simp [List.any_append, below, around below]
      · rw [List.any_append, List.any_cons, List.any_nil, eq_false_of_ne_true below, Bool.or_false,
          Bool.or_false]

/-- A way leads to a place exactly if it did before. -/
theorem follow_put {place reached : Place} {names : List String} :
    (directory.put path bytes).follow place names = .ok reached ↔
      directory.follow place names = .ok reached := by
  induction names generalizing place with
  | nil => exact Iff.rfl
  | cons name rest ih =>
      have same : entry? (directory.put path bytes) place = some .directory ↔
          directory.entry? place = some .directory := by
        -- no way leads on from the file, neither before nor now
        by_cases here : place = Place.ofPath path
        · rw [here, entry?_put_self writable.noDevice]
          exact iff_of_false nofun writable.noDirectory
        · rw [writable.entry?_put_of_ne here]
      rw [follow_cons_eq_ok, follow_cons_eq_ok, same, ih]

theorem put : (directory.put path bytes).Writable path where
  length := writable.length
  way := writable.follow_put.mpr writable.way
  noDirectory := by
    rw [entry?_put_self writable.noDevice]
    nofun
  noDevice := writable.noDevice

end Writable

/-- Bytes are read where a path of allowed length leads to a file with these bytes, or to the null
device. -/
theorem read_eq_ok :
    directory.read path = .ok bytes ↔ checkLength path = .ok () ∧
      directory.follow (Place.start path) (Place.namesOn path) = .ok (Place.ofPath path) ∧
        (bytes = .empty ∧ directory.entry? (Place.ofPath path) = some .null ∨
          directory.entry? (Place.ofPath path) = some (.file bytes)) := by
  have located (place : Place) : directory.locate path = .ok place ↔ checkLength path = .ok () ∧
      directory.follow (Place.start path) (Place.namesOn path) = .ok place := check_bind_eq_ok_iff
  rw [read, bind_eq_ok_iff]
  simp only [located]
  constructor
  · rintro ⟨place, ⟨length, followed⟩, found⟩
    obtain rfl : place = Place.ofPath path := follow_eq_ok followed
    refine ⟨length, followed, ?_⟩
    split at found <;> simp_all
  · rintro ⟨length, followed, found⟩
    refine ⟨_, ⟨length, followed⟩, ?_⟩
    rcases found with ⟨rfl, null⟩ | file
    · rw [null]
    · rw [file]

namespace Writable

variable (writable : directory.Writable path)

include writable

/-- What was put into a file is read again. -/
theorem read_put : (directory.put path bytes).read path = .ok bytes :=
  read_eq_ok.mpr
    ⟨writable.length, writable.put.way, .inr (entry?_put_self writable.noDevice)⟩

/-- All other files are read as before, and there are no others. -/
theorem read_put_of_ne {other : String} {found : ByteArray}
    (elsewhere : Place.ofPath other ≠ Place.ofPath path) :
    (directory.put path bytes).read other = .ok found ↔ directory.read other = .ok found := by
  rw [read_eq_ok, read_eq_ok, writable.follow_put, writable.entry?_put_of_ne elsewhere]

end Writable

/-! ## Main statement -/

/-- The last name on a path is empty only if the path is, or ends with a slash. -/
theorem getLast?_namesOn (filled : path ≠ "") (noSlash : path.toList.getLast? ≠ some '/') :
    (Place.namesOn path).getLast? ≠ some "" := by
  intro empty
  rw [Place.namesOn, List.getLast?_map, Option.map_eq_some_iff] at empty
  obtain ⟨piece, last, none⟩ := empty
  rw [String.ofList_eq_empty_iff] at none
  rw [none] at last
  rcases Text.getLast?_pieces last with nothing | slash
  · exact filled (String.toList_eq_nil_iff.mp nothing)
  · exact noSlash slash

/-- Only empty names at the end are trimmed. -/
theorem trimmed_of_getLast? {names : List String} (filled : names.getLast? ≠ some "") :
    (names.reverse.dropWhile (·.isEmpty)).reverse = names := by
  have kept : names.reverse.dropWhile (·.isEmpty) = names.reverse := by
    rw [List.getLast?_eq_head?_reverse] at filled
    cases reversed : names.reverse with
    | nil => rfl
    | cons last rest =>
        rw [reversed, List.head?_cons] at filled
        have named : ¬last.isEmpty = true := fun empty =>
          filled (congrArg some (String.isEmpty_iff.mp empty))
        exact List.dropWhile_cons_of_neg named
  rw [kept, List.reverse_reverse]

theorem ne_empty_of_checkLength (allowed : checkLength path = .ok ()) : path ≠ "" := by
  rintro rfl
  cases allowed

/-- Where a file can be created, the path can be written to. -/
theorem CanCreate.writable (create : directory.CanCreate path) : directory.Writable path := by
  obtain ⟨created, notNull⟩ := create
  rw [target, check_bind_eq_ok_iff, bind_eq_ok_iff] at created
  obtain ⟨length, outer, followed, around⟩ := created
  rw [check_bind_eq_ok_iff, expectDirectory_eq_ok] at around
  obtain ⟨isDirectory, last⟩ := around
  dsimp only at last
  split at last
  · cases last
  · next named =>
      obtain ⟨noSlash, plain⟩ := not_or.mp named
      rw [trimmed_of_getLast? (getLast?_namesOn (ne_empty_of_checkLength length) noSlash)]
        at followed last plain
      split at last
      · cases last
      · next short =>
          cases final : (Place.namesOn path).getLast? with
          | none =>
              rw [final] at plain
              exact absurd List.mem_cons_self plain
          | some name =>
              rw [final, Option.getD_some] at last short
              have whole : (Place.namesOn path).dropLast ++ [name] = Place.namesOn path :=
                List.dropLast_append_getLast? name final
              have step : directory.follow outer [name] = .ok (outer.enter name) :=
                follow_cons_eq_ok.mpr ⟨isDirectory, Nat.not_lt.mp short, rfl⟩
              have way := follow_append_eq_ok followed step
              rw [whole] at way
              have place : outer.enter name = Place.ofPath path := follow_eq_ok way
              rw [place] at way last
              refine ⟨length, way, fun found => ?_, not_isDevice.mpr ⟨notNull, fun full => ?_⟩⟩
              · rw [found] at last
                cases last
              · rw [full] at last
                cases last

/-- What is changed at a device changes no file. -/
theorem changed_of_device {changes : List FileChange} (device : IsDevice (Place.ofPath path))
    (there : ∀ change ∈ changes, change.path = path) : directory.changed changes = directory := by
  induction changes with
  | nil => rfl
  | cons step rest ih =>
      obtain ⟨here, later⟩ := List.forall_mem_cons.mp there
      have same : directory.change step = directory := by
        rw [← here] at device
        cases step with
        | create => exact put_of_device device
        | append => exact put_of_device device
      rw [changed, List.foldl_cons, same]
      exact ih later

/-- A directory is as another one, but for a file with some bytes at a path. -/
structure WritesFile (before after : Directory) (path : String) (bytes : ByteArray) : Prop where
  written : after.read path = .ok bytes
  others : ∀ other found, Place.ofPath other ≠ Place.ofPath path →
    (after.read other = .ok found ↔ before.read other = .ok found)

/-- A file that is created and then written to holds what was written, and nothing else has
changed. -/
theorem writesFile_changed (create : directory.CanCreate path) (text : String) :
    directory.WritesFile (directory.changed [.create path, .append path text]) path
      text.toUTF8 := by
  have opened : (directory.put path .empty).Writable path := create.writable.put
  have empty : (directory.put path .empty).bytesAt path = .empty := by
    rw [bytesAt, entry?_put_self create.writable.noDevice]
  have after : directory.changed [.create path, .append path text] =
      (directory.put path .empty).put path text.toUTF8 := by
    show (directory.put path .empty).put path
      ((directory.put path .empty).bytesAt path ++ text.toUTF8) = _
    rw [empty, ByteArray.empty_append]
  rw [after]
  refine ⟨opened.read_put, fun other found elsewhere => ?_⟩
  rw [opened.read_put_of_ne elsewhere, create.writable.read_put_of_ne elsewhere]

end Directory

end CodeIndex

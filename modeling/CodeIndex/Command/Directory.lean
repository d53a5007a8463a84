import CodeIndex.Command.Answer

/-!
# Directories in memory

Files are held in memory, by their paths. A path is followed name by name from the directory, or
from the root if it begins with a slash: every place on the way has to be a directory, a dot
stays where it is, and two dots lead outwards. Outside the directory there is nothing else than
its parents and two devices: the null device is empty and swallows everything, the full device
takes nothing and never ends, so that no memory is large enough to read it.

* `Directory.locate` follows a path;
* `Directory.read` and `Directory.target` say what reading and creating a file gives;
* `Directory.change` is a change to a file, and `Directory.after` all changes of a command.
-/

namespace CodeIndex

/-- Files with their bytes, by path. The last file with a path counts. -/
structure Directory where
  files : List (String × ByteArray) := []

/-- Where the names of a place begin: some levels above the directory, or at the root. -/
inductive Origin where
  | above (levels : Nat)
  | root
deriving DecidableEq, Repr

/-- A place in the tree of files. The innermost name comes first. -/
structure Place where
  origin : Origin
  names : List String := []
deriving DecidableEq, Repr

/-- What is at a place. -/
inductive Entry where
  | directory
  | file (bytes : ByteArray)
  | null
  | full

namespace Place

/-- The directory around a place. The root is around itself. -/
def outer (place : Place) : Place :=
  match place.origin, place.names with
  | origin, _ :: names => ⟨origin, names⟩
  | .above levels, [] => ⟨.above (levels + 1), []⟩
  | .root, [] => ⟨.root, []⟩

/-- The place that a name leads to. No name stands for the place itself, and so does a dot. -/
def enter (place : Place) (name : String) : Place :=
  if name = "" ∨ name = "." then place
  else if name = ".." then place.outer
  else { place with names := name :: place.names }

/-- Where a path begins. -/
def start (path : String) : Place :=
  if path.toList.head? = some '/' then ⟨.root, []⟩ else ⟨.above 0, []⟩

/-- The names on a path, separated by slashes. -/
def namesOn (path : String) : List String := (Text.pieces '/' path.toList).map String.ofList

/-- The place that a path names if everything on it is there. -/
def ofPath (path : String) : Place := (namesOn path).foldl enter (start path)

/-- The device that is empty and swallows everything. -/
def nullDevice : Place := ofPath "/dev/null"

/-- The device on which there is no space. -/
def fullDevice : Place := ofPath "/dev/full"

end Place

namespace Directory

/-- One place lies in the tree below another. -/
def isBelow (inner outer : Place) : Bool :=
  inner.origin == outer.origin && outer.names.length < inner.names.length &&
    outer.names.isSuffixOf inner.names

/-- What is at a place. -/
def entry? (directory : Directory) (place : Place) : Option Entry :=
  if place = Place.nullDevice then some .null
  else if place = Place.fullDevice then some .full
  else
    match directory.files.reverse.find? fun file => Place.ofPath file.1 == place with
    | some file => some (.file file.2)
    | none =>
      if place.names.isEmpty || isBelow Place.nullDevice place ||
        directory.files.any fun file => isBelow (Place.ofPath file.1) place
      then some .directory
      else none

/-- The longest name in bytes. -/
def maxName : Nat := 255

/-- The longest path in bytes. -/
def maxPath : Nat := 4095

/-- A place is a directory. -/
def expectDirectory (directory : Directory) (place : Place) : Except IoCause Unit :=
  match directory.entry? place with
  | some .directory => .ok ()
  | some _ => .error .notDirectory
  | none => .error .notFound

/-- Follows some names from a place. The last one may be missing. -/
def follow (directory : Directory) (place : Place) : List String → Except IoCause Place
  | [] => .ok place
  | name :: rest => do
    directory.expectDirectory place
    if maxName < name.utf8ByteSize then .error .nameTooLong
    else directory.follow (place.enter name) rest

/-- A path has a length at all and no more than it may have. -/
def checkLength (path : String) : Except IoCause Unit :=
  if path.isEmpty then .error .notFound
  else if maxPath < path.utf8ByteSize then .error .nameTooLong
  else .ok ()

/-- The place that a path leads to. There may be nothing. -/
def locate (directory : Directory) (path : String) : Except IoCause Place := do
  checkLength path
  directory.follow (Place.start path) (Place.namesOn path)

/-- There is a regular file at a path, and no directory or device. -/
def isFile (directory : Directory) (path : String) : Bool :=
  match (directory.locate path).map directory.entry? with
  | .ok (some (.file _)) => true
  | _ => false

/-- The bytes that are read at a path. -/
def read (directory : Directory) (path : String) : Except IoCause ByteArray := do
  match directory.entry? (← directory.locate path) with
  | some (.file bytes) => .ok bytes
  | some .null => .ok .empty
  | some .full => .error .outOfMemory
  | some .directory => .error .isDirectory
  | none => .error .notFound

/-- Where a text goes that is written to a path. A path with a slash or only dots at its end
names a directory, whether there is one or not; all else on it has to be there. -/
def target (directory : Directory) (path : String) : Except IoCause Device := do
  checkLength path
  let names := ((Place.namesOn path).reverse.dropWhile (·.isEmpty)).reverse
  let outer ← directory.follow (Place.start path) names.dropLast
  directory.expectDirectory outer
  let name := names.getLast?.getD ""
  if path.toList.getLast? = some '/' ∨ name ∈ ["", ".", ".."] then .error .isDirectory
  else if maxName < name.utf8ByteSize then .error .nameTooLong
  else
    match directory.entry? (outer.enter name) with
    | some .directory => .error .isDirectory
    | some .full => .ok (.refusing .full)
    | _ => .ok (.memory "")

/-- The directory with some bytes in the file at a path. A device stays as it is. -/
def put (directory : Directory) (path : String) (bytes : ByteArray) : Directory :=
  if Place.ofPath path ∈ [Place.nullDevice, Place.fullDevice] then directory
  else ⟨directory.files ++ [(path, bytes)]⟩

/-- The bytes of the file at a path, if there is one. -/
def bytesAt (directory : Directory) (path : String) : ByteArray :=
  match directory.entry? (Place.ofPath path) with
  | some (.file bytes) => bytes
  | _ => .empty

/-- The directory after a change to a file. -/
def change (directory : Directory) : FileChange → Directory
  | .create path => directory.put path .empty
  | .append path text => directory.put path (directory.bytesAt path ++ text.toUTF8)

/-- The directory after some changes, one after the other. -/
def changed (directory : Directory) (changes : List FileChange) : Directory :=
  changes.foldl change directory

/-- The directory as a command sees it, with the changes that it has made. -/
def workspace (directory : Directory) : Workspace where
  isFile changes := (directory.changed changes).isFile
  read changes := (directory.changed changes).read
  create changes := (directory.changed changes).target

/-- The directory that a command leaves behind. -/
def after (directory : Directory) (answer : Answer) : Directory :=
  directory.changed answer.changes

end Directory

end CodeIndex

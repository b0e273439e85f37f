import NetActivation.Files.FileSystem
import NetActivation.Text.Fields

set_option autoImplicit false

/-! # Disks

A file system in memory: a directory with files and directories in it, each at its location. A path
leads through directories to a file or a directory; its text holds the names on the way, with
separators between them. A path that leads through a missing directory or through a file fails. -/

namespace NetActivation

/-! ## Texts of paths -/

/-- A path: the names on the way, and whether a separator follows the last one, so that it can only
    lead to a directory. -/
structure Path where
  names : List String
  closed : Bool
  deriving DecidableEq, Repr

namespace Path

/-- The name that leads from a directory to itself. -/
def here : String := "."

/-- The name that leads from a directory to the one around it. -/
def up : String := ".."

/-- The path that a text describes. A separator may be repeated. -/
def ofText (s : String) : Path :=
  let names := Text.fields '/' s.toList
  ⟨(names.filter (!·.isEmpty)).map String.ofList, names.getLast? == some []⟩

/-- The text of a path without what leads nowhere at its two ends. -/
def trimmed (s : String) : String :=
  let idle (name : List Char) : Bool := name.isEmpty || name == here.toList
  let names := (Text.fields '/' s.toList).dropWhile idle
  String.ofList (['/'].intercalate (names.reverse.dropWhile idle).reverse)

end Path

/-! ## Locations -/

/-- Where something is: the names of the directories around it and its own, from the directory that
    holds everything. One that leaves this directory begins with `Path.up`. -/
abbrev Location : Type := List String

/-- Whether a location is the directory that holds everything or one around it. -/
def Location.isOuter (l : Location) : Bool := l.all (· == Path.up)

/-- The directory around a location. -/
def Location.parent (l : Location) : Location :=
  if Location.isOuter l then l ++ [Path.up] else l.dropLast

/-- What may be at a location. -/
inductive FileNode where
  | file (bytes : Codec.Bytes)
  | directory
  deriving DecidableEq, Repr

/-- What is on a disk, except for the directory that holds everything. -/
structure Disk where
  nodes : List (Location × FileNode) := []
  deriving DecidableEq, Repr

namespace Disk

/-- What is at a location. -/
def get? (d : Disk) (l : Location) : Option FileNode :=
  if Location.isOuter l then some .directory else d.nodes.lookup l

/-- The disk with nothing at a location. -/
def erase (d : Disk) (l : Location) : Disk := ⟨d.nodes.filter fun (k, _) => k != l⟩

/-- The disk with something at a location. -/
def put (d : Disk) (l : Location) (n : FileNode) : Disk := ⟨(l, n) :: (d.erase l).nodes⟩

/-! ## Following a path -/

/-- How long a name may be, in bytes. -/
def maxName : Nat := 255

/-- Fails if no directory can hold a name. -/
def checkName (name : String) : Except FileError Unit :=
  if maxName < name.utf8ByteSize then .error .nameTooLong else .ok ()

/-- Goes from a directory to another by its name. -/
def enter (d : Disk) (l : Location) (name : String) : Except FileError Location :=
  if name = Path.here then .ok l
  else if name = Path.up then .ok (Location.parent l)
  else do
    checkName name
    match d.get? (l ++ [name]) with
    | some .directory => .ok (l ++ [name])
    | some (.file _) => .error .notADirectory
    | none => .error .notFound

/-- Follows a path as far as the directory in which its last name stands, and gives the location of
    that name. There is none if the last name leads to a directory with another name. -/
def locate (d : Disk) (p : Path) : Except FileError (Option Location) := do
  if p.names.any fun name => name.toList.contains '\x00' then throw .nameWithNul
  match p.names.getLast? with
  | none => return none
  | some name =>
    let around ← p.names.dropLast.foldlM d.enter []
    if name = Path.here || name = Path.up then return none
    checkName name
    return some (around ++ [name])

/-! ## Files -/

/-- The location and the bytes of a file. -/
def file (d : Disk) (p : Path) : Except FileError (Location × Codec.Bytes) := do
  match ← d.locate p with
  | none => throw .isADirectory
  | some l =>
    match d.get? l with
    | none => throw .notFound
    | some .directory => throw .isADirectory
    | some (.file bytes) => if p.closed then throw .notADirectory else return (l, bytes)

def read (d : Disk) (p : Path) : Except FileError Codec.Bytes := (d.file p).map (·.2)

/-- Makes a file of bytes. -/
def write (d : Disk) (p : Path) (bytes : Codec.Bytes) : Except FileError Unit × Disk :=
  match d.locate p with
  | .error e => (.error e, d)
  | .ok none => (.error .isADirectory, d)
  | .ok (some l) =>
    if p.closed || d.get? l == some .directory then (.error .isADirectory, d)
    else (.ok (), d.put l (.file bytes))

/-- Gives a file another path. Directories are not renamed. -/
def rename (d : Disk) (source target : Path) : Except FileError Unit × Disk :=
  match d.file source, d.locate target with
  | .error e, _ => (.error e, d)
  | .ok _, .error e => (.error e, d)
  | .ok _, .ok none => (.error .busy, d)
  | .ok (old, bytes), .ok (some new) =>
    if target.closed then (.error .notADirectory, d)
    else if d.get? new == some .directory then (.error .isADirectory, d)
    else (.ok (), (d.erase old).put new (.file bytes))

def remove (d : Disk) (p : Path) : Except FileError Unit × Disk :=
  match d.file p with
  | .error e => (.error e, d)
  | .ok (l, _) => (.ok (), d.erase l)

def modify (d : Disk) (p : Path) (f : Codec.Bytes → Codec.Bytes) : Disk :=
  match d.file p with
  | .error _ => d
  | .ok (l, bytes) => d.put l (.file (f bytes))

instance : FileSystem Disk where
  read d path := d.read (.ofText path)
  write d path := d.write (.ofText path)
  rename d source target := d.rename (.ofText source) (.ofText target)
  remove d path := d.remove (.ofText path)

/-! ## Directories -/

/-- Follows names from a directory and makes the directories that are missing, up to a name that
    cannot be one. -/
def makeDirectories (d : Disk) (l : Location) : List String → Disk
  | [] => d
  | name :: names =>
    match d.enter l name with
    | .ok inner => makeDirectories d inner names
    | .error .notFound => makeDirectories (d.put (l ++ [name]) .directory) (l ++ [name]) names
    | .error _ => d

/-- Makes a directory and the ones on the way to it. A path with `Path.here` at its end makes only
    the ones on the way, because the last name then has to be there already. -/
def makeDirectory (d : Disk) (p : Path) : Disk :=
  match d.locate p with
  | .error .nameWithNul => d
  | _ =>
    if p.names.getLast? = some Path.here then
      d.makeDirectories [] (p.names.filter (· != Path.here)).dropLast
    else d.makeDirectories [] p.names

/-- Removes a directory that is there and empty. -/
def removeDirectory (d : Disk) (p : Path) : Disk :=
  match d.locate p with
  | .ok (some l) =>
    if d.get? l == some .directory && !d.nodes.any fun (k, _) => l.isPrefixOf k && k != l then
      d.erase l
    else d
  | _ => d

/-- The names in the directory that holds everything, in ascending order. -/
def names (d : Disk) : List String :=
  let tops := d.nodes.filterMap fun (l, _) => if l.length = 1 then l.head? else none
  tops.mergeSort fun a b => !decide (b < a)

end Disk

end NetActivation

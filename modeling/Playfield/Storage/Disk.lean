import Playfield.Storage.Entry
import Playfield.Storage.Path

/-!
Files and folders held in memory. They stand for the folder that a program works in and for what
that folder may lead to: `..` goes to the folders above it, of which nothing is known but that
they are there, and a path that starts with a slash to the folder that holds all others, which
has the folders and the null device that every system has. The failures are those that a file
system reports.
-/

namespace Playfield

inductive FileError where
  | notFound
  | notADirectory
  | isADirectory
  | nameTooLong
  | invalidName
  | invalidText
  | other (description : String)
  deriving DecidableEq

namespace FileError

def message : FileError → String
  | notFound => "No such file or directory (os error 2)"
  | notADirectory => "Not a directory (os error 20)"
  | isADirectory => "Is a directory (os error 21)"
  | nameTooLong => "File name too long (os error 36)"
  | invalidName => "file name contained an unexpected NUL byte"
  | invalidText => "stream did not contain valid UTF-8"
  | other description => description

def isAbsence : FileError → Bool
  | notFound | notADirectory | nameTooLong | invalidName => true
  | _ => false

end FileError

abbrev FileContent := Except FileError ByteArray

def decodeText (bytes : ByteArray) : Except FileError String :=
  match String.fromUTF8? bytes with
  | some text => .ok text
  | none => .error .invalidText

inductive Origin where
  /-- The folder that many levels above the working folder. -/
  | above (levels : Nat)
  | top
  deriving DecidableEq

structure Place where
  origin : Origin
  names : List (List Char)
  deriving DecidableEq

namespace Place

def start (path : String) : Place :=
  if Path.isAbsolute path then ⟨.top, []⟩ else ⟨.above 0, []⟩

def child (place : Place) (name : List Char) : Place :=
  { place with names := place.names ++ [name] }

/-- The folder around this place. The folder that holds all others is around itself. -/
def parent (place : Place) : Place :=
  match place.names, place.origin with
  | [], .above levels => ⟨.above (levels + 1), []⟩
  | [], .top => place
  | names, origin => ⟨origin, names.dropLast⟩

end Place

/-- The tree below each origin that something is known of. -/
structure Disk where
  trees : List (Origin × Entry)

namespace Disk

def empty : Disk := ⟨[]⟩

def tree (disk : Disk) (origin : Origin) : Entry :=
  (disk.trees.lookup origin).getD .emptyFolder

def entry? (disk : Disk) (place : Place) : Option Entry :=
  (disk.tree place.origin).find? place.names

def set (disk : Disk) (place : Place) (entry : Entry) : Disk :=
  ⟨assign place.origin (entry.put place.names (disk.tree place.origin)) disk.trees⟩

inductive Target where
  | file (place : Place) (bytes : ByteArray)
  | sink
  | folder (place : Place)
  /-- Nothing, but in a folder that exists. -/
  | free (place : Place)

/-- Follows the pieces of a path from a folder. Only the last piece may name a file or nothing. -/
def follow (disk : Disk) (place : Place) : List (List Char) → Except FileError Target
  | [] => .ok (.folder place)
  | [] :: rest | ['.'] :: rest => disk.follow place rest
  | ['.', '.'] :: rest => disk.follow place.parent rest
  | name :: rest =>
      if Path.nameLimit < Path.byteLength name then .error .nameTooLong
      else
        let here := place.child name
        match disk.entry? here with
        | some (.folder _) => disk.follow here rest
        | some (.file bytes) => if rest = [] then .ok (.file here bytes) else .error .notADirectory
        | some .sink => if rest = [] then .ok .sink else .error .notADirectory
        | none => if rest = [] then .ok (.free here) else .error .notFound

def checkPath (path : String) : Except FileError Unit :=
  if path.toList.contains '\x00' then .error .invalidName
  else if path.isEmpty then .error .notFound
  else if Path.pathLimit < Path.byteLength path.toList then .error .nameTooLong
  else .ok ()

def resolve (disk : Disk) (path : String) : Except FileError Target := do
  checkPath path
  disk.follow (.start path) (Path.pieces path)

def read (disk : Disk) (path : String) : FileContent :=
  match disk.resolve path with
  | .ok (.file _ bytes) => .ok bytes
  | .ok .sink => .ok .empty
  | .ok (.folder _) => .error .isADirectory
  | .ok (.free _) => .error .notFound
  | .error error => .error error

/-- Creates or replaces a file. A path that ends in a slash cannot name one, whatever its last
name is; only the folders on the way are looked at then. -/
def write (disk : Disk) (path : String) (bytes : ByteArray) : Except FileError Disk := do
  checkPath path
  if Path.endsInSlash path then
    let _ ← disk.follow (.start path) (Path.folders path)
    throw .isADirectory
  match ← disk.follow (.start path) (Path.pieces path) with
  | .folder _ => throw .isADirectory
  | .sink => return disk
  | .file place _ | .free place => return disk.set place (.file bytes)

/-! Setting up a tree. -/

def enter (current : Disk × Place) (piece : List Char) : Disk × Place :=
  if piece = [] ∨ piece = ['.'] then current
  else if piece = ['.', '.'] then (current.1, current.2.parent)
  else
    let disk := current.1
    let here := current.2.child piece
    match disk.entry? here with
    | some _ => (disk, here)
    | none => (disk.set here .emptyFolder, here)

def addFolder (disk : Disk) (path : String) : Disk :=
  ((Path.pieces path).foldl enter (disk, .start path)).1

def addFile (disk : Disk) (path : String) (bytes : ByteArray) : Disk :=
  let pieces := Path.pieces path
  let folder := pieces.dropLast.foldl enter (disk, .start path)
  folder.1.set (folder.2.child (pieces.getLastD [])) (.file bytes)

def standardFolders : List String :=
  ["/bin", "/boot", "/dev", "/etc", "/home", "/lib", "/media", "/mnt", "/opt", "/root", "/run",
   "/sbin", "/srv", "/tmp", "/usr", "/usr/bin", "/usr/lib", "/usr/local", "/usr/sbin",
   "/usr/share", "/var", "/var/cache", "/var/lib", "/var/log", "/var/spool", "/var/tmp"]

def nullDevice : Place := ⟨.top, ["dev".toList, "null".toList]⟩

def fresh : Disk :=
  (standardFolders.foldl addFolder empty).set nullDevice .sink

end Disk

end Playfield

/-
Files and directories.

A file system is what an absolute location holds: a file with its bytes, a
directory, or nothing.  All of it can be read, but at some locations nothing can
be written.  A path is followed piece by piece from a directory; `..` leads to
the directory above, and only a directory can be passed through.

* **`find?`** — what is at a path;
* **`makeParents`** — making the directories on the way to a path;
* **`writeFile`** — writing a file into a directory that is there;
* **`save`** — both together.
-/
import Dotfile.Path

namespace Dotfile

/-- A place in the tree of directories: the names on the way from its root. -/
abbrev Location := List String

-- one equality of bytes, whatever else is imported
local instance (priority := 2000) decidableEqBytes : DecidableEq ByteArray :=
  ByteArray.instDecidableEq

inductive Node where
  | file (bytes : ByteArray)
  | directory
  deriving DecidableEq

structure FileSystem where
  /-- What is at which location, the latest first.  The root is always a directory. -/
  nodes : List (Location × Node) := []
  /-- Is writing refused at a location, be it over a file or where nothing is? -/
  readOnly : Location → Bool := fun _ => false

/-- Why files could not be changed. -/
inductive FileError where
  | notFound
  | occupied
  | notDirectory
  | isDirectory
  | nameTooLong
  | denied
  deriving DecidableEq, Repr

def FileError.message : FileError → String
  | notFound => "No such file or directory (os error 2)"
  | occupied => "File exists (os error 17)"
  | notDirectory => "Not a directory (os error 20)"
  | isDirectory => "Is a directory (os error 21)"
  | nameTooLong => "File name too long (os error 36)"
  | denied => "Permission denied (os error 13)"

/-- What an attempt to change files leaves, and why it did not succeed. -/
structure Attempt where
  files : FileSystem
  error : Option FileError := none

namespace FileSystem

def get? (fs : FileSystem) (loc : Location) : Option Node :=
  if loc = [] then some .directory else fs.nodes.lookup loc

/-- Puts a node at a location. -/
def set (fs : FileSystem) (loc : Location) (node : Node) : FileSystem :=
  { fs with nodes := (loc, node) :: fs.nodes.filter (·.1 ≠ loc) }

/-- The bytes of the file at a location. -/
def bytes? (fs : FileSystem) (loc : Location) : Option ByteArray :=
  match fs.get? loc with
  | some (.file bytes) => some bytes
  | _ => none

/-- The files of `fs` that are new or whose bytes differ from those in `old`. -/
def changes (old fs : FileSystem) : List (Location × ByteArray) :=
  fs.nodes.filterMap fun (loc, node) =>
    match node with
    | .file bytes => if old.bytes? loc = some bytes then none else some (loc, bytes)
    | .directory => none

/-- The directories of `fs` that are not in `old`. -/
def newDirectories (old fs : FileSystem) : List Location :=
  fs.nodes.filterMap fun (loc, node) =>
    if node = .directory ∧ old.get? loc = none then some loc else none

/-- The most bytes that a name may have. -/
def nameLimit : Nat := 255

/-- The most bytes that a path may have. -/
def pathLimit : Nat := 4095

def bytesOf (piece : List Char) : Nat := (String.ofList piece).utf8ByteSize

/-- The bytes of a path, with its slashes. -/
def pathBytes (pieces : List (List Char)) : Nat :=
  pieces.foldr (fun piece n => bytesOf piece + n) (pieces.length - 1)

/-- Follows the pieces of a path from `loc`.  All but the last have to be there. -/
def walk (fs : FileSystem) (loc : Location) : List (List Char) → Except FileError Location
  | [] => .ok loc
  | piece :: rest =>
    match fs.get? loc with
    | none => .error .notFound
    | some (.file _) => .error .notDirectory
    | some .directory =>
      if Path.isIdle piece then walk fs loc rest
      else if piece = ['.', '.'] then walk fs loc.dropLast rest
      else if nameLimit < bytesOf piece then .error .nameTooLong
      else walk fs (loc ++ [String.ofList piece]) rest

/-- Where a path starts: at the root if it is absolute. -/
def start (cwd : Location) (pieces : List (List Char)) : Location :=
  if pieces.head? = some [] then [] else cwd

/-- Where a path leads.  There may be nothing. -/
def locate (fs : FileSystem) (cwd : Location) (pieces : List (List Char)) :
    Except FileError Location :=
  if pathLimit < pathBytes pieces then .error .nameTooLong
  else if pieces = [[]] then .error .notFound
  else fs.walk (start cwd pieces) pieces

/-- What is at a path. -/
def at? (fs : FileSystem) (cwd : Location) (pieces : List (List Char)) : Option Node :=
  match fs.locate cwd pieces with
  | .ok loc => fs.get? loc
  | .error _ => none

def find? (fs : FileSystem) (cwd : Location) (path : String) : Option Node :=
  fs.at? cwd (Path.pieces path.toList)

/-- The directory that a path ends in, and its last piece; there is none in the root's path. -/
def locateEnd (fs : FileSystem) (cwd : Location) (pieces : List (List Char)) :
    Except FileError (Location × List Char) :=
  if pathLimit < pathBytes pieces then .error .nameTooLong
  else if pieces = [[]] then .error .notFound
  else
    match Path.splitEnd? pieces with
    | none => .ok ([], [])
    | some (before, last) =>
      -- the idle piece at the end asks for a directory
      (fs.walk (start cwd pieces) (before ++ [['.']])).map fun loc => (loc, last)

/-- A last piece that names no entry of the directory it is in, but that
directory itself or the one above. -/
def isDots (piece : List Char) : Bool :=
  Path.isIdle piece || piece = ['.', '.']

/-- Makes one directory. -/
def makeDir (fs : FileSystem) (cwd : Location) (pieces : List (List Char)) :
    Except FileError FileSystem :=
  match fs.locateEnd cwd pieces with
  | .error e => .error e
  | .ok (loc, last) =>
    let next := loc ++ [String.ofList last]
    if isDots last then .error .occupied
    else if nameLimit < bytesOf last then .error .nameTooLong
    else if (fs.get? next).isSome then .error .occupied
    else if fs.readOnly next then .error .denied
    else .ok (fs.set next .directory)

/-- Makes one directory unless it is there. -/
def ensureDir (fs : FileSystem) (cwd : Location) (pieces : List (List Char)) :
    Except FileError FileSystem :=
  match fs.makeDir cwd pieces with
  | .ok fs => .ok fs
  | .error e => if fs.at? cwd pieces = some .directory then .ok fs else .error e

/-- Makes a directory and, if they are missing, those above it; `dirs` lists it
and them from the nearest on.  What has been made stays if a later one fails. -/
def makeDirs (fs : FileSystem) (cwd : Location) : (dirs : List (List (List Char))) → Attempt
  | [] => { files := fs }
  | dir :: above =>
    match fs.ensureDir cwd dir with
    | .ok files => { files }
    | .error .notFound =>
      let made := makeDirs fs cwd above
      match made.error with
      | some _ => made
      | none =>
        match made.files.ensureDir cwd dir with
        | .ok files => { files }
        | .error e => { made with error := some e }
    | .error e => { files := fs, error := some e }

/-- Makes the directory that the last piece of a path is in, and those above it. -/
def makeParents (fs : FileSystem) (cwd : Location) (path : String) : Attempt :=
  fs.makeDirs cwd (Path.parents (Path.pieces path.toList))

/-- Puts `bytes` into the file at a path, whose directory has to be there.  A
slash after the name asks for a directory, which is no file. -/
def writeFile (fs : FileSystem) (cwd : Location) (path : String) (bytes : ByteArray) :
    Except FileError FileSystem :=
  let pieces := Path.pieces path.toList
  match fs.locateEnd cwd pieces with
  | .error e => .error e
  | .ok (loc, last) =>
    let next := loc ++ [String.ofList last]
    if isDots last || pieces.getLast? = some [] then .error .isDirectory
    else if nameLimit < bytesOf last then .error .nameTooLong
    else if fs.get? next = some .directory then .error .isDirectory
    else if fs.readOnly next then .error .denied
    else .ok (fs.set next (.file bytes))

/-- Writes a file, making its directory if need be. -/
def save (fs : FileSystem) (cwd : Location) (path : String) (bytes : ByteArray) : Attempt :=
  let made := fs.makeParents cwd path
  match made.error with
  | some _ => made
  | none =>
    match made.files.writeFile cwd path bytes with
    | .ok files => { files }
    | .error e => { made with error := some e }

end FileSystem

end Dotfile

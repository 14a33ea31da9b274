/-
The program on real files.

What a run looks at is read beforehand, the run itself is the pure one, and
what it changed is written afterwards.
-/
import Dotfile.Program

namespace Dotfile

/-- What is at a path.  A file that cannot be read counts as one that is no text. -/
def probe (path : String) : IO (Option Node) := do
  try
    return some (.file (← IO.FS.readBinFile path))
  catch e =>
    match e with
    | .noFileOrDirectory .. => return none
    | .permissionDenied .. => return some (.file ⟨#[0xFF]⟩)
    | _ => return some .directory

/-- The text of an absolute path to a location. -/
def Location.path (loc : Location) : String :=
  "/" ++ "/".intercalate loc

/-- Can the file at a path be written?  It is opened for that, and left as it is. -/
def isWritable (path : String) : IO Bool := do
  try
    discard (IO.FS.Handle.mk path .append)
    return true
  catch _ => return false

/-- Adds what is at a location and at those above it. -/
def observe (files : FileSystem) (loc : Location) : IO FileSystem :=
  (List.range loc.length).foldlM
    (fun files n => do
      let here := loc.take (n + 1)
      match ← probe (Location.path here) with
      | some (.file bytes) =>
        let files := files.set here (.file bytes)
        if ← isWritable (Location.path here) then return files
        else return { files with readOnly := fun l => l = here || files.readOnly l }
      | some .directory => return files.set here .directory
      | none => return files)
    files

/-- The locations that following a path passes through. -/
def passed (cwd : Location) (path : String) : List Location :=
  let start := if Path.isAbsolute path then [] else cwd
  let next (loc : Location) (piece : List Char) : Location :=
    if Path.isIdle piece then loc
    else if piece = ['.', '.'] then loc.dropLast
    else loc ++ [String.ofList piece]
  let pieces := Path.pieces path.toList
  (List.range (pieces.length + 1)).map fun n => (pieces.take n).foldl next start

/-- Are colours shown?  The user's wish decides, and failing that the terminal. -/
def wantsColor : IO Bool := do
  if (← IO.getEnv "NO_COLOR").isSome then return false
  match ← IO.getEnv "CLICOLOR_FORCE" with
  | some s => return s ≠ "0"
  | none => (← IO.getStdout).isTty

/-- The world around a run of `words`. -/
def surroundings (words : List String) : IO World := do
  let cwd := toString (← IO.currentDir)
  let home := (← IO.getEnv "HOME").getD "/"
  let world : World :=
    { files := {}
      home
      cwd
      configHome := ← IO.getEnv "XDG_CONFIG_HOME"
      logLevel := ← IO.getEnv "SHELLEDIT_LOG"
      color := ← wantsColor }
  let seen := (Program.paths world words).flatMap (passed world.location)
  return { world with files := ← (world.location :: seen).foldlM observe {} }

/-- Makes the directories that a run made, and writes the files that it changed. -/
def keep (before after : FileSystem) : IO Unit := do
  for loc in FileSystem.newDirectories before after do
    IO.FS.createDirAll (Location.path loc)
  for (loc, bytes) in FileSystem.changes before after do
    IO.FS.writeBinFile (Location.path loc) bytes

end Dotfile

open Dotfile in
def main (words : List String) : IO UInt32 := do
  let world ← surroundings words
  let outcome := Program.run world words
  keep world.files outcome.files
  for event in outcome.log do
    IO.eprintln event.text
  IO.print outcome.stdout
  IO.eprint outcome.stderr
  return outcome.status.toUInt32

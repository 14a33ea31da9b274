/-
What a run of the program finds around it, and what it leaves.
-/
import Dotfile.FileSystem
import Dotfile.Log
import Dotfile.Registry
import Dotfile.Settings.Reader
import Dotfile.Style

namespace Dotfile

/-- What a run finds around it. -/
structure World where
  files : FileSystem
  /-- The home directory. -/
  home : String
  /-- The working directory. -/
  cwd : String
  /-- The directory for settings of all programs, where the user has chosen one. -/
  configHome : Option String := none
  /-- The log level that the user has chosen for this run. -/
  logLevel : Option String := none
  /-- Are colours shown? -/
  color : Bool := false

/-- What a run leaves. -/
structure Outcome where
  status : Nat := 0
  stdout : String := ""
  stderr : String := ""
  log : List Log.Event := []
  files : FileSystem

/-- Why a run stops. -/
inductive Failure where
  | settingsUnreadable (path : String)
  | settingsInvalid (path : String)
  | unknownFormat (e : UnknownFormat)
  | fileNotFound (path : String)
  | notAFile (path : String)
  | fileUnreadable (path : String)
  | fileUnwritable (path : String)
  | files (e : FileError)
  deriving DecidableEq, Repr

def Failure.message : Failure → String
  | settingsUnreadable path => "Failed to read settings: " ++ path
  | settingsInvalid path => "Failed to parse settings: " ++ path
  | unknownFormat e => e.message
  | fileNotFound path => "File not found: " ++ path
  | notAFile path => "Not a file: " ++ path
  | fileUnreadable path => "Failed to read " ++ path
  | fileUnwritable path => "Failed to write " ++ path
  | files e => e.message

namespace World

/-- The working directory as a location. -/
def location (w : World) : Location :=
  ((Path.pieces w.cwd.toList).filter (!Path.isIdle ·)).map String.ofList

/-- What is at a path. -/
def find? (w : World) (path : String) : Option Node :=
  w.files.find? w.location path

/-- The absolute path that a path means. -/
def resolve (w : World) (path : String) : String :=
  Path.resolve w.home w.cwd path

/-- The settings file that is used where the user names none. -/
def settingsPath (w : World) : String :=
  let base := match w.configHome with
    | some dir => if Path.isAbsolute dir then dir else Path.join w.home ".config"
    | none => Path.join w.home ".config"
  Path.join (Path.join base "shelledit") "config.toml"

/-- The text of a startup file. -/
def read (w : World) (path : String) : Except Failure String :=
  match w.find? path with
  | none => .error (.fileNotFound path)
  | some .directory => .error (.notAFile path)
  | some (.file bytes) =>
    match String.fromUTF8? bytes with
    | some text => .ok text
    | none => .error (.fileUnreadable path)

/-- The settings in a file; those of a file that is not there are the defaults. -/
def readSettings (w : World) (path : String) : Except Failure Settings :=
  match w.find? path with
  | none => .ok {}
  | some .directory => .error (.settingsUnreadable path)
  | some (.file bytes) =>
    match String.fromUTF8? bytes with
    | none => .error (.settingsUnreadable path)
    | some text =>
      match Settings.ofToml text with
      | .ok s => .ok s
      | .error _ => .error (.settingsInvalid path)

/-- The outcome of a run that changes no file. -/
def print (w : World) (stdout : String) (status : Nat := 0) : Outcome :=
  { status, stdout, files := w.files }

/-- The outcome of a run that stops.  Only the outermost reason is printed; the lines
on what caused it in turn are left out. -/
def fail (w : World) (f : Failure) : Outcome :=
  { status := 1, stderr := "Error: " ++ f.message ++ "\n", files := w.files }

/-- A line about a success. -/
def success (w : World) (message : String) : String :=
  Style.green.paint w.color "✓" ++ " " ++ message ++ "\n"

/-- A line about something odd. -/
def warning (w : World) (message : String) : String :=
  Style.yellow.paint w.color "⚠" ++ " " ++ message ++ "\n"

/-- The outcome of a command that refuses. -/
def refuse (w : World) (message : String) : Outcome :=
  { status := 1, stderr := Style.red.paint w.color "✗" ++ " " ++ message ++ "\n", files := w.files }

end World

namespace Outcome

/-- The outcome with something printed before it. -/
def printedBefore (o : Outcome) (text : String) : Outcome :=
  { o with stdout := text ++ o.stdout }

/-- The outcome with events before it. -/
def loggedBefore (o : Outcome) (events : List Log.Event) : Outcome :=
  { o with log := events ++ o.log }

end Outcome

end Dotfile

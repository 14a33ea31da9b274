/-
Writing a startup file.

The variables come first, then the directories, then the lines that were kept,
with an empty line between two of these sections that are not empty, and a
newline at the end.
-/
import Dotfile.Config
import Dotfile.Shell
import Dotfile.Text.Blank
import Dotfile.Text.Lines

namespace Dotfile

open Text

/-- The characters, besides blanks, that a shell could interpret in a value. -/
def specialChars : List Char :=
  ['$', '\x60', '"', '\\', '!', '#', '&', '|', ';', '(', ')', '<', '>']

/-- Does a value with `c` in it need quotes? -/
def isTrigger (c : Char) : Bool :=
  isBlank c || specialChars.contains c

/-- Is `value` written between quotes? -/
def needsQuotes (value : String) : Bool :=
  value.toList.isEmpty || value.toList.any isTrigger

/-- The line that assigns a variable. -/
def EnvVar.text (v : EnvVar) : String :=
  if needsQuotes v.value then "export " ++ v.name ++ "=\"" ++ v.value ++ "\""
  else "export " ++ v.name ++ "=" ++ v.value

/-- The line that adds a directory to PATH. -/
def PathEntry.text (ref : PathRef) (e : PathEntry) : String :=
  match e.position with
  | .prepend => "export PATH=\"" ++ e.path ++ ":" ++ ref.text ++ "\""
  | .append => "export PATH=\"" ++ ref.text ++ ":" ++ e.path ++ "\""

namespace Config

/-- The lines of the three sections. -/
def sections (c : Config) (ref : PathRef) : List (List String) :=
  [c.envVars.map EnvVar.text, c.pathEntries.map (PathEntry.text ref), c.rawLines.map RawLine.content]

/-- All lines in order: the sections that have lines, an empty line between two. -/
def lines (c : Config) (ref : PathRef) : List String :=
  (((c.sections ref).filter fun s => !s.isEmpty).intersperse [""]).flatten

/-- The text of the file that holds `c`. -/
def render (c : Config) (ref : PathRef) : String :=
  String.ofList (Lines.join ((c.lines ref).map String.toList) ++ ['\n'])

end Config

end Dotfile

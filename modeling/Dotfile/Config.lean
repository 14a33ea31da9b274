/-
The configuration held by a startup file, and its edits.

A name may be assigned several times; the last assignment is the one in force,
so looking a variable up, and setting it, mean its last assignment, while
removing it removes them all.
-/
import Dotfile.Entry

namespace Dotfile

/-- The entries of a startup file by kind, each kind in the order of the file. -/
structure Config where
  envVars : List EnvVar := []
  pathEntries : List PathEntry := []
  rawLines : List RawLine := []
  deriving DecidableEq, Repr

/-- How many entries of each kind a configuration has. -/
structure Summary where
  envVars : Nat
  pathEntries : Nat
  rawLines : Nat
  deriving DecidableEq, Repr

/-- `f` applied to the last item that satisfies `p`, if there is one. -/
def modifyLast? (p : α → Bool) (f : α → α) : List α → Option (List α)
  | [] => none
  | a :: as =>
    match modifyLast? p f as with
    | some bs => some (a :: bs)
    | none => if p a then some (f a :: as) else none

namespace Config

/-- The configuration of a file that says nothing. -/
def empty : Config := {}

def summary (c : Config) : Summary :=
  ⟨c.envVars.length, c.pathEntries.length, c.rawLines.length⟩

/-- Has the configuration no entry of any kind? -/
def isEmpty (c : Config) : Bool :=
  c.envVars.isEmpty && c.pathEntries.isEmpty && c.rawLines.isEmpty

/-- The assignment of `name` that is in force: the last one. -/
def lookup? (c : Config) (name : String) : Option EnvVar :=
  c.envVars.reverse.find? (·.name == name)

/-- Is `dir` among the directories added to PATH? -/
def hasPath (c : Config) (dir : String) : Bool :=
  c.pathEntries.any (·.path == dir)

/-- Gives the assignment of `name` in force a new value, and keeps its line and
source; a name that is not assigned yet gets an assignment at the end. -/
def setEnv (c : Config) (name value : String) (source : String := manualSource) : Config :=
  let vars := modifyLast? (·.name == name) (fun v => { v with value }) c.envVars
  { c with envVars := vars.getD (c.envVars ++ [⟨name, value, none, source⟩]) }

/-- Drops every assignment of `name`. -/
def removeEnv (c : Config) (name : String) : Config :=
  { c with envVars := c.envVars.filter (·.name != name) }

/-- Adds `dir` after the directories that are there. -/
def addPath (c : Config) (dir : String) (position : Position)
    (source : String := manualSource) : Config :=
  { c with pathEntries := c.pathEntries ++ [⟨dir, position, none, source⟩] }

/-- Drops every entry for `dir`. -/
def removePath (c : Config) (dir : String) : Config :=
  { c with pathEntries := c.pathEntries.filter (·.path != dir) }

/-- Puts every entry for `dir` at `position`. -/
def movePath (c : Config) (dir : String) (position : Position) : Config :=
  { c with
    pathEntries := c.pathEntries.map fun e => if e.path == dir then { e with position } else e }

/-- Adds a line that is kept as it is. -/
def addRaw (c : Config) (content : String) (line : Option Nat := none)
    (source : String := manualSource) : Config :=
  { c with rawLines := c.rawLines ++ [⟨content, line, source⟩] }

end Config

end Dotfile

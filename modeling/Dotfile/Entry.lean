/-
What a startup file is made of.

A line of the file either assigns an environment variable, adds a directory to
PATH, or is kept as it is.  Each entry knows the line it came from, if it came
from one, and the file or the agent that it is due to.
-/
import Dotfile.Text.Match

namespace Dotfile

/-- Where a directory is put into PATH. -/
inductive Position where
  | prepend
  | append
  deriving DecidableEq, Repr

namespace Position

/-- The name of a position in messages and on the command line. -/
def name : Position → String
  | prepend => "prepend"
  | append => "append"

/-- The position that `s` names; case does not matter, and `pre` and `post`
are short for the two. -/
def ofName? (s : String) : Option Position :=
  match Text.lower s with
  | "prepend" | "pre" => some prepend
  | "append" | "post" => some append
  | _ => none

/-- What is said of a text that names no position. -/
def unknownMessage (s : String) : String :=
  "Unknown PATH position: " ++ s ++ ". Must be prepend or append"

end Position

/-- An assignment of an environment variable. -/
structure EnvVar where
  name : String
  value : String
  line : Option Nat
  source : String
  deriving DecidableEq, Repr

/-- A directory that is added to PATH. -/
structure PathEntry where
  path : String
  position : Position
  line : Option Nat
  source : String
  deriving DecidableEq, Repr

/-- A line that is neither, kept as it was written. -/
structure RawLine where
  content : String
  line : Option Nat
  source : String
  deriving DecidableEq, Repr

/-- What one line of a file gives. -/
inductive Entry where
  | env (var : EnvVar)
  | path (entry : PathEntry)
  | raw (line : RawLine)
  deriving DecidableEq, Repr

namespace Entry

def env? : Entry → Option EnvVar
  | env v => some v
  | _ => none

def path? : Entry → Option PathEntry
  | path e => some e
  | _ => none

def raw? : Entry → Option RawLine
  | raw l => some l
  | _ => none

end Entry

/-- The source of an entry that was not read from a file. -/
def manualSource : String := "<cli>"

end Dotfile

/-
The formats that a configuration can be written in.

A formatter has a name and turns a configuration into text.  A registry lists
formatters in the order in which their names were first registered, and names
the one that is used when none is asked for.
-/
import Dotfile.Config.Writer

namespace Dotfile

/-- A named way to write a configuration. -/
structure Formatter where
  name : String
  format : Config → String

/-- The formatter that writes for `shell`. -/
def Shell.formatter (shell : Shell) : Formatter where
  name := shell.name
  format c := c.render shell.pathRef

/-- A format was asked for that is not registered. -/
structure UnknownFormat where
  name : String
  available : List String
  deriving DecidableEq, Repr

def UnknownFormat.message (e : UnknownFormat) : String :=
  "Unknown format: \"" ++ e.name ++ "\". Available formats: " ++ ", ".intercalate e.available

/-- The known formatters and the name of the default one. -/
structure Registry where
  formatters : List Formatter
  default : String

namespace Registry

/-- `f` in the place of the formatter of its name, or at the end if there is none. -/
def insert (f : Formatter) : List Formatter → List Formatter
  | [] => [f]
  | g :: gs => if g.name = f.name then f :: gs else g :: insert f gs

def register (r : Registry) (f : Formatter) : Registry :=
  { r with formatters := insert f r.formatters }

/-- The formatters that are registered from the start. -/
def builtIn : List Formatter :=
  [Shell.zsh.formatter, Shell.bash.formatter]

/-- The two shells, with zsh as the default. -/
def initial : Registry :=
  builtIn.foldl register ⟨[], Shell.zsh.name⟩

def names (r : Registry) : List String :=
  r.formatters.map Formatter.name

def unknown (r : Registry) (name : String) : UnknownFormat :=
  ⟨name, r.names⟩

/-- The formatter called `name`, or the default one. -/
def get (r : Registry) (name : Option String) : Except UnknownFormat Formatter :=
  let name := name.getD r.default
  match r.formatters.find? (·.name == name) with
  | some f => .ok f
  | none => .error (r.unknown name)

/-- Makes the format called `name` the default, and answers whether there is one. -/
def setDefault (r : Registry) (name : String) : Registry × Except UnknownFormat Unit :=
  if r.formatters.any (·.name == name) then ({ r with default := name }, .ok ())
  else (r, .error (r.unknown name))

end Registry

end Dotfile

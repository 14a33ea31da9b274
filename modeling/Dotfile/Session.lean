/-
Editing sessions.

A session holds a configuration with its earlier versions, the formats it can
be written in and the rules it is checked against.  Every edit can be undone,
also one that changed nothing.
-/
import Dotfile.Config.Edit
import Dotfile.Config.Reader
import Dotfile.Lint.Linter
import Dotfile.Registry

namespace Dotfile

structure Session where
  config : Config
  /-- The versions before each edit, the latest first. -/
  history : List Config := []
  registry : Registry := .initial
  linter : Lint.Linter := .initial

namespace Session

/-- The session after an edit that leads to `next`. -/
def commit (s : Session) (next : Config) : Session :=
  { s with config := next, history := s.config :: s.history }

def edit (s : Session) (e : Edit) : Session :=
  s.commit (e.apply s.config)

/-- Goes back to the version before the last edit, if there was one. -/
def undo? (s : Session) : Option Session :=
  match s.history with
  | [] => none
  | old :: older => some { s with config := old, history := older }

/-- The text of the configuration in the given or the default format, with the format's name. -/
def format (s : Session) (name : Option String) : Except UnknownFormat (String × String) :=
  (s.registry.get name).map fun f => (f.name, f.format s.config)

/-- Writes the configuration and reads it again, as content of `source`. -/
def reparse (s : Session) (name : Option String) (source : String) : Except UnknownFormat Session :=
  (s.format name).map fun (_, text) => s.commit (Config.parse text source)

/-- Drops the rules of that name, and tells whether there were any. -/
def disable (s : Session) (rule : String) : Bool × Session :=
  (s.linter.has rule, { s with linter := s.linter.disable rule })

end Session

end Dotfile

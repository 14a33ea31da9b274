/-
Edits of a configuration as data, so that they can be listed and run.
-/
import Dotfile.Config

namespace Dotfile

/-- An edit of a configuration. -/
inductive Edit where
  | setEnv (name value : String) (source : String := manualSource)
  | removeEnv (name : String)
  | addPath (dir : String) (position : Position) (source : String := manualSource)
  | removePath (dir : String)
  | movePath (dir : String) (position : Position)
  deriving DecidableEq, Repr

namespace Edit

def apply (c : Config) : Edit → Config
  | setEnv name value source => c.setEnv name value source
  | removeEnv name => c.removeEnv name
  | addPath dir position source => c.addPath dir position source
  | removePath dir => c.removePath dir
  | movePath dir position => c.movePath dir position

/-- Applies edits one after the other. -/
def run (c : Config) (edits : List Edit) : Config :=
  edits.foldl apply c

end Edit

end Dotfile

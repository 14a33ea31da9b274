/-
The commands of the program.
-/
import Dotfile.Entry

namespace Dotfile

/-- What the user can ask for.  The file is a startup file; a format is asked
for or left to be chosen. -/
inductive Command where
  /-- Says what was found in a file. -/
  | load (file : String)
  | envList (file : String)
  | envGet (file name : String)
  | envSet (file name value : String) (format : Option String)
  | envRemove (file name : String) (format : Option String)
  | pathList (file : String)
  | pathAdd (file dir : String) (position : Position) (format : Option String)
  | pathRemove (file dir : String) (format : Option String)
  | pathMove (file dir : String) (position : Position) (format : Option String)
  /-- Checks a file against the rules. -/
  | lint (file : String)
  /-- Prints a file as it would be written. -/
  | printAs (file : String) (format : Option String)
  /-- Lists the formats. -/
  | formats
  /-- Writes a settings file with the default values. -/
  | configInit (force : Bool)
  /-- Says where the settings file is. -/
  | configPath
  deriving DecidableEq, Repr

/-- The startup file that a command is about. -/
def Command.file? : Command → Option String
  | load file | envList file | envGet file _ | envSet file _ _ _ | envRemove file _ _
  | pathList file | pathAdd file _ _ _ | pathRemove file _ _ | pathMove file _ _ _
  | lint file | printAs file _ => some file
  | formats | configInit _ | configPath => none

/-- A command with the options that all commands share. -/
structure Invocation where
  command : Command
  /-- The settings file to use in place of the usual one. -/
  config : Option String := none
  verbose : Bool := false
  deriving DecidableEq, Repr

end Dotfile

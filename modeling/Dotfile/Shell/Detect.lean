/-
Guessing the shell from the name of a startup file.
-/
import Dotfile.Path
import Dotfile.Shell

namespace Dotfile.Shell

/-- Words in the names of zsh's startup files. -/
def zshNames : List String := ["zshrc", "zprofile", "zshenv", "zlogin"]

/-- Words in the names of bash's startup files. -/
def bashNames : List String := ["bashrc", "bash_profile", "bash_aliases"]

/-- The shell that an extension stands for; case does not matter. -/
def ofExtension? (ext : String) : Option Shell :=
  match Text.lower ext with
  | "zsh" => some zsh
  | "sh" | "bash" => some bash
  | _ => none

/-- The shell of a file of that name: a known word in the name decides, and
failing that its extension. -/
def ofFileName? (name : String) : Option Shell :=
  if zshNames.any (Text.isWithin · name) then some zsh
  else if bashNames.any (Text.isWithin · name) then some bash
  else (Path.extension? name).bind ofExtension?

/-- The shell whose startup file `path` is, as far as its name shows. -/
def detect? (path : String) : Option Shell :=
  (Path.fileName? path).bind ofFileName?

/-- The format to write `path` in: the one asked for, or else the one that its
name shows. -/
def formatFor? (asked path : Option String) : Option String :=
  asked.or ((path.bind detect?).map name)

end Dotfile.Shell

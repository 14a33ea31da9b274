/-
The settings of the program, and the TOML file that they are kept in.

The file has three tables, one for each part of the settings.
-/
import Dotfile.Lint.Diagnostic
import Dotfile.Shell
import Dotfile.Toml.Writer

namespace Dotfile

/-- Which format is written when none is asked for and the file's name shows none. -/
structure FormatSettings where
  default : String := Shell.zsh.name
  deriving DecidableEq, Repr

/-- Which rules are left out, and from which severity on a finding is a failure. -/
structure LintSettings where
  disabled : List String := []
  failOn : Lint.Severity := .error
  deriving DecidableEq, Repr

/-- What is logged. -/
structure LogSettings where
  level : String := "warn"
  deriving DecidableEq, Repr

structure Settings where
  format : FormatSettings := {}
  lint : LintSettings := {}
  log : LogSettings := {}
  deriving DecidableEq, Repr

namespace Settings

/-- The text of the settings file. -/
def toml (s : Settings) : String :=
  "[format]\ndefault = " ++ Toml.quoted s.format.default ++
  "\n\n[lint]\ndisabled = " ++ Toml.listed s.lint.disabled ++
  "\nfail_on = " ++ Toml.quoted s.lint.failOn.name ++
  "\n\n[log]\nlevel = " ++ Toml.quoted s.log.level ++ "\n"

end Settings

end Dotfile

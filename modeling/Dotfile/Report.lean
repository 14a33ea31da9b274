/-
What the program says: the events that it logs and the lines that it prints.
-/
import Dotfile.Config
import Dotfile.Lint.Diagnostic
import Dotfile.Log
import Dotfile.Registry
import Dotfile.Style

namespace Dotfile

/-- Says that a formatter is registered. -/
def registeringEvent (f : Formatter) : Log.Event :=
  ⟨.debug, "shelledit::formatter::registry", "registering formatter", [("format", .quoted f.name)]⟩

/-- Says that a rule is to be left out that there is none of, or none of any more. -/
def ignoringEvent (rule : String) : Log.Event :=
  ⟨.warn, "shelledit::cli::context", "ignoring unknown lint rule in settings", [("rule", .bare rule)]⟩

/-- Says that a file was read.  Every file is read by the rules of one shell. -/
def parsedEvent (source : String) (s : Summary) : Log.Event :=
  ⟨.debug, "shelledit::parser::posix", "parsed shell config",
    [("source", .quoted source), ("shell", .bare Shell.zsh.name),
     ("env_vars", .bare (toString s.envVars)), ("path_entries", .bare (toString s.pathEntries)),
     ("raw_lines", .bare (toString s.rawLines))]⟩

/-- Says that a file was written. -/
def savedEvent (path format : String) : Log.Event :=
  ⟨.debug, "shelledit::cli::context", "saved shell config",
    [("path", .bare path), ("format", .quoted format)]⟩

/-- Says that a file was checked. -/
def lintedEvent (rules findings : Nat) : Log.Event :=
  ⟨.debug, "shelledit::linter", "lint finished",
    [("rules", .bare (toString rules)), ("diagnostics", .bare (toString findings))]⟩

/-- A finding as it is printed. -/
def Lint.Diagnostic.text (d : Lint.Diagnostic) (color : Bool) (path : String) : String :=
  let style : Style := match d.severity with
    | .error => .red
    | .warning => .yellow
    | .info => .cyan
  let source := d.source.getD path
  let place := match d.line with
    | some n => source ++ ":" ++ toString n
    | none => source
  style.paint color ("[" ++ d.severity.name ++ "]") ++ " " ++ place ++
    " (" ++ Style.dimmed.paint color d.rule ++ "): " ++ d.message ++ "\n"

/-- The report on a file that was checked. -/
def lintReport (color : Bool) (path : String) (ds : List Lint.Diagnostic) : String :=
  let tally := Lint.Tally.ofDiagnostics ds
  String.join (ds.map (·.text color path)) ++ "\nFound " ++ toString tally.errors ++ " error(s), " ++
    toString tally.warnings ++ " warning(s), " ++ toString tally.infos ++ " info(s).\n"

/-- A directory of PATH as it is printed. -/
def PathEntry.listed (e : PathEntry) (color : Bool) : String :=
  let style : Style := match e.position with
    | .prepend => .green
    | .append => .blue
  "[" ++ style.paint color e.position.name ++ "] " ++ e.path ++ "\n"

/-- A format as it is listed. -/
def Registry.listed (r : Registry) (color : Bool) (name : String) : String :=
  if name = r.default then
    "  " ++ Style.bold.paint color name ++ " " ++ Style.dimmed.paint color "(default)" ++ "\n"
  else "  " ++ name ++ "\n"

end Dotfile

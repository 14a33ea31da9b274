/-
The program: from the words of a command line to what is printed and written.

* **`Program.execute`** — a command, after the settings are read;
* **`Program.run`** — a command line.
-/
import Dotfile.Command.Parser
import Dotfile.Command.Run

namespace Dotfile

namespace Program

/-- What is printed about the version. -/
def versionText : String := "shelledit 0.1.0\n"

/-- The level up to which a run logs: the one chosen for the run, or else all
details if they were asked for, or else the one in the settings. -/
def logFilter (w : World) (verbose : Bool) (settings : Settings) : Log.Filter :=
  match w.logLevel.bind Log.Filter.ofName? with
  | some filter => filter
  | none =>
    if verbose then ⟨some .debug⟩ else (Log.Filter.ofName? settings.log.level).getD ⟨none⟩

/-- Carries out an understood command line. -/
def execute (w : World) (i : Invocation) : Outcome :=
  let settingsPath := i.config.getD w.settingsPath
  match w.readSettings settingsPath with
  | .error f => w.fail f
  | .ok settings =>
    let (ctx?, events) := Context.build settings settingsPath
    let outcome := match ctx? with
      | .error e => w.fail (.unknownFormat e)
      | .ok ctx => i.command.run w ctx
    let outcome := outcome.loggedBefore events
    { outcome with log := outcome.log.filter (logFilter w i.verbose settings).shows }

/-- The paths that a run looks at: the settings file, and the startup file of its command. -/
def paths (w : World) (words : List String) : List String :=
  match Invocation.parse words with
  | .ok i => i.config.getD w.settingsPath :: (i.command.file?.map w.resolve).toList
  | .error _ => []

/-- Runs the program on the words of a command line. -/
def run (w : World) (words : List String) : Outcome :=
  match Invocation.parse words with
  | .ok i => execute w i
  | .error .versionAsked => w.print versionText
  | .error .helpAsked => w.print ""
  | .error _ => w.print "" 2

end Program

end Dotfile

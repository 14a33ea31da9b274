/-
The state that commands work with: settings and what they choose.

Building it can fail, as the settings may name a default format that there is
none of.
-/
import Dotfile.Lint.Linter
import Dotfile.Registry
import Dotfile.Report
import Dotfile.Settings

namespace Dotfile

structure Context where
  settings : Settings
  settingsPath : String
  registry : Registry
  linter : Lint.Linter

namespace Context

/-- Leaves out the rules of a list one after the other, and says which there were none of. -/
def silence (l : Lint.Linter) : List String → Lint.Linter × List Log.Event
  | [] => (l, [])
  | rule :: rules =>
    let (rest, events) := silence (l.disable rule) rules
    (rest, if l.has rule then events else ignoringEvent rule :: events)

/-- The context that settings choose, and the events on the way. -/
def build (settings : Settings) (settingsPath : String) :
    Except UnknownFormat Context × List Log.Event :=
  let registered := Registry.builtIn.map registeringEvent
  match Registry.initial.setDefault settings.format.default with
  | (_, .error e) => (.error e, registered)
  | (registry, .ok ()) =>
    let (linter, warnings) := silence .initial settings.lint.disabled
    (.ok ⟨settings, settingsPath, registry, linter⟩, registered ++ warnings)

end Context

end Dotfile

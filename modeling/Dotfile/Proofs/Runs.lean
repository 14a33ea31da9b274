/-
What a run of the program comes down to.

The settings are read, and a context is built from them; then the command is
carried out.  Either step can fail, and what is left to say of a run that gets
through both is said of the command.

* `Context.build_of_mem`, `Context.build_of_not_mem` — settings make a context
  exactly if their default format is that of a shell;
* `execute_cases`, `run_matches` — a run is that of its command, but for the log,
  or fails before it.
-/
import Dotfile.Program
import Dotfile.Proofs.Formats

namespace Dotfile

/-- Are two outcomes the same but for the log? -/
structure Outcome.Matches (o o' : Outcome) : Prop where
  status : o.status = o'.status
  stdout : o.stdout = o'.stdout
  stderr : o.stderr = o'.stderr
  files : o.files = o'.files

theorem Outcome.matches_loggedBefore (o : Outcome) (events : List Log.Event) :
    (o.loggedBefore events).Matches o :=
  ⟨rfl, rfl, rfl, rfl⟩

/-! ### Contexts -/

namespace Context

/-- The context that settings choose, if there is the format that they name. -/
def chosen (settings : Settings) (settingsPath : String) : Context where
  settings
  settingsPath
  registry := { Registry.initial with default := settings.format.default }
  linter := (silence .initial settings.lint.disabled).1

variable {settings : Settings} {settingsPath : String}

theorem build_of_mem (h : settings.format.default ∈ ["zsh", "bash"]) :
    (build settings settingsPath).1 = .ok (chosen settings settingsPath) := by
  rw [build]
  dsimp only
  rw [Registry.setDefault_of_mem h]
  rfl

theorem build_of_not_mem (h : settings.format.default ∉ ["zsh", "bash"]) :
    (build settings settingsPath).1 =
      .error ⟨settings.format.default, ["zsh", "bash"]⟩ := by
  rw [build]
  dsimp only
  rw [Registry.setDefault_of_not_mem h]
  rfl

end Context

/-! ### Files that are read -/

variable {w : World} {file : String} {next : String → Config → Outcome}

theorem withConfig_of_ok {text : String} (h : w.read (w.resolve file) = .ok text) :
    (withConfig w file next).Matches
      (next (w.resolve file) (Config.parse text (w.resolve file))) := by
  delta withConfig
  dsimp only
  rw [h]
  exact Outcome.matches_loggedBefore _ _

theorem withConfig_of_error {f : Failure} (h : w.read (w.resolve file) = .error f) :
    withConfig w file next = w.fail f := by
  delta withConfig
  dsimp only
  rw [h]

/-! ### Runs -/

namespace Program

variable {i : Invocation} {settings : Settings}

/-- With good settings a run is that of its command. -/
theorem execute_of_mem (hsettings : w.readSettings (i.config.getD w.settingsPath) = .ok settings)
    (hdefault : settings.format.default ∈ ["zsh", "bash"]) :
    (execute w i).Matches
      (i.command.run w (.chosen settings (i.config.getD w.settingsPath))) := by
  rw [execute]
  dsimp only
  rw [hsettings]
  dsimp only
  rw [Context.build_of_mem hdefault]
  exact ⟨rfl, rfl, rfl, rfl⟩

theorem execute_of_error {f : Failure}
    (hsettings : w.readSettings (i.config.getD w.settingsPath) = .error f) :
    (execute w i).Matches (w.fail f) := by
  rw [execute]
  dsimp only
  rw [hsettings]
  exact ⟨rfl, rfl, rfl, rfl⟩

theorem execute_of_not_mem
    (hsettings : w.readSettings (i.config.getD w.settingsPath) = .ok settings)
    (hdefault : settings.format.default ∉ ["zsh", "bash"]) :
    (execute w i).Matches
      (w.fail (.unknownFormat ⟨settings.format.default, ["zsh", "bash"]⟩)) := by
  rw [execute]
  dsimp only
  rw [hsettings]
  dsimp only
  rw [Context.build_of_not_mem hdefault]
  exact ⟨rfl, rfl, rfl, rfl⟩

theorem execute_cases (w : World) (i : Invocation) :
    (∃ f, (execute w i).Matches (w.fail f)) ∨
      ∃ settings, (execute w i).Matches
        (i.command.run w (.chosen settings (i.config.getD w.settingsPath))) := by
  cases hsettings : w.readSettings (i.config.getD w.settingsPath) with
  | error f => exact .inl ⟨f, execute_of_error hsettings⟩
  | ok settings =>
    by_cases hdefault : settings.format.default ∈ ["zsh", "bash"]
    · exact .inr ⟨settings, execute_of_mem hsettings hdefault⟩
    · exact .inl ⟨_, execute_of_not_mem hsettings hdefault⟩

theorem run_of_parse {words : List String} (h : Invocation.parse words = .ok i) :
    run w words = execute w i := by
  rw [run, h]

/-- With good settings, words do what their command does. -/
theorem run_matches {words : List String} {command : Command} {config : Option String}
    {verbose : Bool} (hparse : Invocation.parse words = .ok ⟨command, config, verbose⟩)
    (hsettings : w.readSettings (config.getD w.settingsPath) = .ok settings)
    (hdefault : settings.format.default ∈ ["zsh", "bash"]) :
    (run w words).Matches
      (command.run w (.chosen settings (config.getD w.settingsPath))) := by
  rw [run_of_parse hparse]
  exact execute_of_mem hsettings hdefault

theorem files_run_of_error {words : List String} {e : Command.UsageError}
    (h : Invocation.parse words = .error e) : (run w words).files = w.files := by
  rw [run, h]
  cases e <;> rfl

end Program

end Dotfile

/-
Writing the default settings over a settings file.

The command for it is carried out, as every command is, after the old settings
are read and a context is built from them.  So whether it gets to write depends
on what it would write over.

* `settingsFault?` — what is wrong with the content of a settings file;
* `run_configInit_force` — the file is repaired exactly if nothing is wrong with
  it and it can be written, and else the run fails for just that reason and leaves
  the file alone;
* `malformed_settings_stay` — a file that stays as it is.
-/
import Dotfile.Proofs.Export
import Dotfile.Proofs.SettingsFile

namespace Dotfile

/-- Why the settings in a file of that content cannot be used, if they cannot. -/
def settingsFault? (path : String) (bytes : ByteArray) : Option Failure :=
  match String.fromUTF8? bytes with
  | none => some (.settingsUnreadable path)
  | some text =>
    match Settings.ofToml text with
    | .error _ => some (.settingsInvalid path)
    | .ok settings =>
      if settings.format.default ∈ ["zsh", "bash"] then none
      else some (.unknownFormat ⟨settings.format.default, ["zsh", "bash"]⟩)

variable {w : World} {path : String} {bytes : ByteArray}

/-- Reading the settings depends on the content of their file alone. -/
theorem readSettings_or_fault (hfile : w.find? path = some (.file bytes)) :
    (∃ f, w.readSettings path = .error f ∧ settingsFault? path bytes = some f) ∨
      ∃ settings, w.readSettings path = .ok settings ∧
        settingsFault? path bytes =
          if settings.format.default ∈ ["zsh", "bash"] then none
          else some (.unknownFormat ⟨settings.format.default, ["zsh", "bash"]⟩) := by
  rw [World.readSettings, hfile, settingsFault?]
  dsimp only
  cases String.fromUTF8? bytes with
  | none => exact .inl ⟨_, rfl, rfl⟩
  | some text =>
    dsimp only
    cases Settings.ofToml text with
    | error e => exact .inl ⟨_, rfl, rfl⟩
    | ok settings => exact .inr ⟨settings, rfl, rfl⟩

theorem exists_settings_of_fault_eq_none (hfile : w.find? path = some (.file bytes))
    (hnone : settingsFault? path bytes = none) :
    ∃ settings, w.readSettings path = .ok settings ∧
      settings.format.default ∈ ["zsh", "bash"] := by
  rcases readSettings_or_fault hfile with ⟨f, -, hf⟩ | ⟨settings, hread, hsettings⟩
  · exact absurd (hf.symm.trans hnone) (by simp)
  · refine ⟨settings, hread, ?_⟩
    by_contra hdefault
    rw [hnone, if_neg hdefault] at hsettings
    exact absurd hsettings (by simp)

/-- Writing the default settings comes down to saving them. -/
theorem Command.run_configInit_true (w : World) (ctx : Context) :
    let saved := w.files.save w.location ctx.settingsPath ({} : Settings).toml.toUTF8
    let o := run w ctx (.configInit true)
    o.files = saved.files ∧ (saved.error = none → o.status = 0) ∧
      ∀ e, saved.error = some e → o.FailsWith (.files e) := by
  intro saved o
  have ho : o = run w ctx (.configInit true) := rfl
  rw [run, Bool.not_true, Bool.and_false, if_neg (by simp)] at ho
  dsimp only at ho
  split at ho
  · rename_i e he
    refine ⟨by rw [ho], fun hnone => ?_, fun e' he' => ?_⟩
    · exact absurd (he.symm.trans hnone) (by simp)
    · obtain rfl : e = e' := Option.some_inj.mp (he.symm.trans he')
      rw [ho]
      exact ⟨rfl, rfl⟩
  · rename_i hnone
    refine ⟨by rw [ho], fun _ => by rw [ho], fun e he => ?_⟩
    exact absurd (hnone.symm.trans he) (by simp)

namespace Program

/-- With settings that cannot be used, a run fails before its command. -/
theorem execute_of_fault {i : Invocation} {f : Failure}
    (hfile : w.find? (i.config.getD w.settingsPath) = some (.file bytes))
    (hfault : settingsFault? (i.config.getD w.settingsPath) bytes = some f) :
    (execute w i).Matches (w.fail f) := by
  rcases readSettings_or_fault hfile with ⟨g, hread, hg⟩ | ⟨settings, hread, hsettings⟩
  · obtain rfl : g = f := Option.some_inj.mp (hg.symm.trans hfault)
    exact execute_of_error hread
  · rw [hsettings] at hfault
    split at hfault
    · exact absurd hfault (by simp)
    · rename_i hdefault
      exact Option.some_inj.mp hfault ▸ execute_of_not_mem hread hdefault

/-- **Writing the default settings over a file.**  Let there be a file, of whatever
content, where the settings are, and let the working directory be in directories
only.  If the settings in the file can be used and it can be written, then the
default ones are written over it, and read back from it afterwards; and only then.
If they cannot, the run fails for the reason why, and every file stays as it was;
so it does if only the writing is refused. -/
theorem run_configInit_force {words : List String} {config : Option String} {verbose : Bool}
    (hparse : Invocation.parse words = .ok ⟨.configInit true, config, verbose⟩)
    (hcwd : w.files.Rooted w.location)
    (hfile : w.find? (config.getD w.settingsPath) = some (.file bytes)) :
    let path := config.getD w.settingsPath
    let o := run w words
    (o.status = 0 ∧ ({ w with files := o.files } : World).readSettings path = .ok {} ↔
      settingsFault? path bytes = none ∧ w.files.refuses w.location path = false) ∧
    (∀ f, settingsFault? path bytes = some f → o.FailsWith f ∧ o.files = w.files) ∧
    (settingsFault? path bytes = none → w.files.refuses w.location path = true →
      o.FailsWith (.files .denied) ∧ o.files = w.files) := by
  intro path o
  have hfault : ∀ f, settingsFault? path bytes = some f → o.FailsWith f ∧ o.files = w.files := by
    intro f hf
    have hmatches : o.Matches (w.fail f) := by
      rw [show o = execute w _ from run_of_parse hparse]
      exact execute_of_fault hfile hf
    exact ⟨⟨hmatches.status, hmatches.stderr⟩, hmatches.files⟩
  obtain ⟨hdenied, hallowed⟩ := FileSystem.save_of_file
    (FileSystem.rooted_start hcwd _) hfile ({} : Settings).toml.toUTF8
  have hrefused : settingsFault? path bytes = none → w.files.refuses w.location path = true →
      o.FailsWith (.files .denied) ∧ o.files = w.files := by
    intro hnone hrefuses
    obtain ⟨settings, hread, hdefault⟩ := exists_settings_of_fault_eq_none hfile hnone
    have hmatches := run_matches hparse hread hdefault
    obtain ⟨hfiles, -, hfails⟩ := Command.run_configInit_true w (.chosen settings path)
    have hsave := hdenied hrefuses
    exact ⟨(hfails _ (congrArg Attempt.error hsave)).of_matches hmatches,
      (hmatches.files.trans hfiles).trans (congrArg Attempt.files hsave)⟩
  refine ⟨⟨?_, ?_⟩, hfault, hrefused⟩
  · rintro ⟨hstatus, -⟩
    have hnone : settingsFault? path bytes = none := by
      by_contra hsome
      obtain ⟨f, hf⟩ := Option.ne_none_iff_exists'.mp hsome
      exact (hfault f hf).1.status_ne_zero hstatus
    refine ⟨hnone, ?_⟩
    by_contra hrefuses
    exact (hrefused hnone (by simpa using hrefuses)).1.status_ne_zero hstatus
  · rintro ⟨hnone, hrefuses⟩
    obtain ⟨settings, hread, hdefault⟩ := exists_settings_of_fault_eq_none hfile hnone
    have hsave := hallowed hrefuses
    have hmatches := run_matches hparse hread hdefault
    obtain ⟨hfiles, hstatus, -⟩ := Command.run_configInit_true w (.chosen settings path)
    refine ⟨hmatches.status.trans (hstatus hsave), ?_⟩
    rw [show o.files = _ from hmatches.files.trans hfiles]
    exact World.readSettings_of_file (FileSystem.find?_save hsave)

/-- Settings that chose another format are written over. -/
theorem run_configInit_force_sample :
    let w : World :=
      { files := { nodes :=
          [(["w", "s.toml"], .file "format.default = 'bash'".toUTF8), (["w"], .directory)] }
        home := "/w/home"
        cwd := "/w" }
    let o := run w ["--config=./s.toml", "config", "init", "--force"]
    w.readSettings "./s.toml" = .ok { format := ⟨"bash"⟩ } ∧ o.status = 0 ∧
      ({ w with files := o.files } : World).readSettings "./s.toml" = .ok {} := by
  intro w o
  have hparse : Invocation.parse ["--config=./s.toml", "config", "init", "--force"] =
      .ok ⟨.configInit true, some "./s.toml", false⟩ := by decide +kernel
  have hcwd : w.files.Rooted w.location := by
    rw [show w.location = ["w"] by decide +kernel]
    exact (FileSystem.rooted_nil w.files).concat rfl "w"
  have hfile : w.find? "./s.toml" = some (.file "format.default = 'bash'".toUTF8) := by
    decide +kernel
  have hnone : settingsFault? "./s.toml" "format.default = 'bash'".toUTF8 = none := by
    decide +kernel
  exact ⟨by decide +kernel,
    (run_configInit_force hparse hcwd hfile).1.mpr ⟨hnone, by decide +kernel⟩⟩

/-- A settings file that is no TOML can be written, but it is not written over, and
its settings cannot be read afterwards either. -/
theorem malformed_settings_stay :
    let w : World :=
      { files := { nodes := [(["w", "s.toml"], .file "[format".toUTF8), (["w"], .directory)] }
        home := "/w/home"
        cwd := "/w" }
    let o := run w ["--config", "s.toml", "config", "init", "--force"]
    w.find? "s.toml" = some (.file "[format".toUTF8) ∧
      (w.files.save w.location "s.toml" ({} : Settings).toml.toUTF8).error = none ∧
      o.status = 1 ∧ o.stderr = "Error: Failed to parse settings: s.toml\n" ∧
      ({ w with files := o.files } : World).readSettings "s.toml" =
        .error (.settingsInvalid "s.toml") := by
  decide +kernel

end Program

end Dotfile

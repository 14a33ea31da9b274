/-
Which files a run can change.

Each command has at most one file that it may write, and whatever can fail comes
before that.

* `Confined` — an outcome changes no file but the one at a path, and none at all
  if it is a failure;
* `confined_saveConfig`, `confined_run` — so it is with every command;
* `run_confined` — and with the program on any words, files and settings.
-/
import Dotfile.Proofs.Files
import Dotfile.Proofs.Runs

namespace Dotfile

/-- The path of the file that a command may write: the startup file that it
edits, or the settings file that it makes. -/
def Command.target? (w : World) (settingsPath : String) : Command → Option String
  | envSet file _ _ _ | envRemove file _ _ | pathAdd file _ _ _ | pathRemove file _ _
  | pathMove file _ _ _ => some (w.resolve file)
  | configInit _ => some settingsPath
  | load _ | envList _ | envGet _ _ | pathList _ | lint _ | printAs _ _ | formats | configPath => none

/-- Does `o`, the outcome of a run in `w`, leave the files alone, but for the one
at the path `target?` if the run succeeds? -/
structure Confined (w : World) (target? : Option String) (o : Outcome) : Prop where
  bytes?_eq_of_failed : o.status ≠ 0 → ∀ loc, o.files.bytes? loc = w.files.bytes? loc
  files_eq : target? = none → o.files = w.files
  locate_of_changed : ∀ path, target? = some path →
    ∀ loc, o.files.bytes? loc ≠ w.files.bytes? loc →
      o.files.locate w.location (Path.pieces path.toList) = .ok loc ∧
        ∀ l, w.files.locate w.location (Path.pieces path.toList) = .ok l → l = loc

namespace Confined

variable {w : World} {target? : Option String} {o : Outcome} {path : String}

theorem of_matches {o' : Outcome} (h : Confined w target? o) (hsame : o'.Matches o) :
    Confined w target? o' where
  bytes?_eq_of_failed hfailed := by
    rw [hsame.files]
    exact h.bytes?_eq_of_failed (hsame.status ▸ hfailed)
  files_eq hnone := hsame.files.trans (h.files_eq hnone)
  locate_of_changed := by
    rw [hsame.files]
    exact h.locate_of_changed

theorem of_files_eq (h : o.files = w.files) : Confined w target? o where
  bytes?_eq_of_failed _ loc := by rw [h]
  files_eq _ := h
  locate_of_changed path _ loc hne := by
    rw [h] at hne
    exact absurd rfl hne

theorem of_adds (h : w.files.Adds o.files) : Confined w (some path) o where
  bytes?_eq_of_failed _ loc := h.bytes?_eq loc
  files_eq hnone := absurd hnone (by simp)
  locate_of_changed _ _ loc hne := absurd (h.bytes?_eq loc) hne

theorem of_writeFile {files : FileSystem} {bytes : ByteArray} (hadds : w.files.Adds files)
    (hwrite : files.writeFile w.location path bytes = .ok o.files) (hstatus : o.status = 0) :
    Confined w (some path) o where
  bytes?_eq_of_failed hfailed := absurd hstatus hfailed
  files_eq hnone := absurd hnone (by simp)
  locate_of_changed p hp loc hne := by
    obtain rfl : path = p := by simpa using hp
    obtain ⟨l, hbefore, hafter, -, hothers⟩ := FileSystem.writeFile_cases hwrite
    have hloc : loc = l := by
      by_contra hother
      rw [FileSystem.bytes?_eq_of_get?_eq (hothers loc hother)] at hne
      exact hne (hadds.bytes?_eq loc)
    subst hloc
    refine ⟨hafter, ?_⟩
    intro m hm
    have hmade := FileSystem.locate_mono (fun _ => hadds.get?_directory) hm
    rw [hbefore, Except.ok.injEq] at hmade
    exact hmade.symm

theorem withConfig {file : String} {next : String → Config → Outcome}
    (h : ∀ config, Confined w target? (next (w.resolve file) config)) :
    Confined w target? (withConfig w file next) := by
  cases hread : w.read (w.resolve file) with
  | error f =>
    rw [withConfig_of_error hread]
    exact of_files_eq rfl
  | ok text =>
    exact (h (Config.parse text (w.resolve file))).of_matches (withConfig_of_ok hread)

theorem printedBefore (h : Confined w target? o) (text : String) :
    Confined w target? (o.printedBefore text) :=
  ⟨h.bytes?_eq_of_failed, h.files_eq, h.locate_of_changed⟩

end Confined

theorem confined_saveConfig (w : World) (ctx : Context) (path : String) (format : Option String)
    (config : Config) : Confined w (some path) (saveConfig w ctx path format config) := by
  have hadds := FileSystem.adds_makeParents w.files w.location path
  rw [saveConfig]
  split
  · exact .of_files_eq rfl
  · dsimp only
    split
    · exact .of_adds hadds
    · split
      · exact .of_adds hadds
      · rename_i files hwrite
        exact .of_writeFile hadds hwrite rfl

theorem confined_configInit (w : World) (ctx : Context) (force : Bool) :
    Confined w (some ctx.settingsPath) (Command.run w ctx (.configInit force)) := by
  have hadds := FileSystem.adds_makeParents w.files w.location ctx.settingsPath
  rw [Command.run]
  split_ifs
  · exact .of_files_eq rfl
  · dsimp only
    rcases w.files.save_cases w.location ctx.settingsPath ({} : Settings).toml.toUTF8 with
      ⟨e, he, hsaved⟩ | ⟨he, hwrite⟩
    · rw [he]
      exact .of_adds hsaved
    · rw [he]
      exact .of_writeFile hadds hwrite rfl

theorem confined_run (w : World) (ctx : Context) (c : Command) :
    Confined w (c.target? w ctx.settingsPath) (c.run w ctx) := by
  cases c with
  | load file =>
    rw [Command.run]
    exact Confined.withConfig fun config => .of_files_eq rfl
  | envList file =>
    rw [Command.run]
    refine Confined.withConfig fun config => .of_files_eq ?_
    split
    · rfl
    · rfl
  | envGet file name =>
    rw [Command.run]
    refine Confined.withConfig fun config => .of_files_eq ?_
    split
    · rfl
    · rfl
  | envSet file name value format =>
    rw [Command.run]
    exact Confined.withConfig fun config => confined_saveConfig w ctx _ format _
  | envRemove file name format =>
    rw [Command.run]
    refine Confined.withConfig fun config => ?_
    have hsaved := confined_saveConfig w ctx (w.resolve file) format (config.removeEnv name)
    dsimp only
    split
    · exact hsaved
    · exact hsaved.printedBefore _
  | pathList file =>
    rw [Command.run]
    refine Confined.withConfig fun config => .of_files_eq ?_
    split
    · rfl
    · rfl
  | pathAdd file dir position format =>
    rw [Command.run]
    exact Confined.withConfig fun config => confined_saveConfig w ctx _ format _
  | pathRemove file dir format =>
    rw [Command.run]
    refine Confined.withConfig fun config => ?_
    have hsaved := confined_saveConfig w ctx (w.resolve file) format (config.removePath dir)
    dsimp only
    split
    · exact hsaved
    · exact hsaved.printedBefore _
  | pathMove file dir position format =>
    rw [Command.run]
    refine Confined.withConfig fun config => ?_
    split
    · exact confined_saveConfig w ctx _ format _
    · exact .of_files_eq rfl
  | lint file =>
    rw [Command.run]
    refine Confined.withConfig fun config => .of_files_eq ?_
    dsimp only
    split
    · rfl
    · rfl
  | printAs file format =>
    rw [Command.run]
    refine Confined.withConfig fun config => .of_files_eq ?_
    split
    · rfl
    · rfl
  | formats => exact .of_files_eq rfl
  | configInit force => exact confined_configInit w ctx force
  | configPath => exact .of_files_eq rfl

namespace Program

theorem confined_execute (w : World) (i : Invocation) :
    Confined w (i.command.target? w (i.config.getD w.settingsPath)) (execute w i) := by
  rcases execute_cases w i with ⟨f, hfail⟩ | ⟨settings, hrun⟩
  · exact .of_files_eq hfail.files
  · exact (confined_run w (.chosen settings (i.config.getD w.settingsPath)) i.command).of_matches hrun

/-- **What a run can change.**  Whatever the files, the settings and the words
are: a run that fails leaves every file as it was, and so do words that make no
command, and a command that only looks.  A command that edits a startup file, or
makes the settings file, changes at most the file where the path of that one
leads: it leads there after the run, and nowhere else before it.  Printing is taken
to succeed: a run cannot fail any more once its file is written. -/
theorem run_confined (w : World) (words : List String) :
    let o := run w words
    (o.status ≠ 0 → ∀ loc, o.files.bytes? loc = w.files.bytes? loc) ∧
    (∀ e, Invocation.parse words = .error e → o.files = w.files) ∧
    ∀ i, Invocation.parse words = .ok i →
      let target? := i.command.target? w (i.config.getD w.settingsPath)
      (target? = none → o.files = w.files) ∧
      ∀ path, target? = some path → ∀ loc, o.files.bytes? loc ≠ w.files.bytes? loc →
        o.files.locate w.location (Path.pieces path.toList) = .ok loc ∧
          ∀ l, w.files.locate w.location (Path.pieces path.toList) = .ok l → l = loc := by
  intro o
  cases hparse : Invocation.parse words with
  | error e =>
    have hfiles : o.files = w.files := files_run_of_error hparse
    refine ⟨fun _ loc => by rw [hfiles], fun _ _ => hfiles, ?_⟩
    intro i hi
    exact absurd hi (by simp)
  | ok i =>
    have hconfined := confined_execute w i
    rw [← run_of_parse hparse] at hconfined
    refine ⟨hconfined.bytes?_eq_of_failed, ?_, ?_⟩
    · intro e he
      exact absurd he (by simp)
    · intro j hj
      obtain rfl : i = j := by simpa using hj
      exact ⟨hconfined.files_eq, hconfined.locate_of_changed⟩

/-- A directory that is not there cannot be moved, and nothing is written then;
setting a variable writes the file that it is set in, and no other. -/
theorem run_confined_sample :
    let w : World :=
      { files := { nodes := [(["w", "f"], .file "export A=1".toUTF8), (["w", "g"], .file ⟨#[0xFF]⟩),
          (["w"], .directory)] }
        home := "/w/home"
        cwd := "/w" }
    let moved := run w ["path", "move", "f", "/x", "append"]
    let set := run w ["env", "set", "./f", "A", "2"]
    moved.status = 1 ∧ (∀ loc, moved.files.bytes? loc = w.files.bytes? loc) ∧
    set.status = 0 ∧ set.files.bytes? ["w", "f"] = some "export A=2\n".toUTF8 ∧
      ∀ loc, loc ≠ ["w", "f"] → set.files.bytes? loc = w.files.bytes? loc := by
  intro w moved set
  have hmoved : moved.status = 1 := by decide +kernel
  refine ⟨hmoved, (run_confined w _).1 (by rw [hmoved]; simp), by decide +kernel,
    by decide +kernel, ?_⟩
  intro loc hloc
  by_contra hne
  have hparse : Invocation.parse ["env", "set", "./f", "A", "2"] =
      .ok ⟨.envSet "./f" "A" "2" none, none, false⟩ := by decide +kernel
  have hlocate := (((run_confined w _).2.2 _ hparse).2 "/w/./f" (by decide +kernel) loc hne).1
  have hthere : set.files.locate w.location (Path.pieces "/w/./f".toList) = .ok ["w", "f"] := by
    decide +kernel
  rw [hthere, Except.ok.injEq] at hlocate
  exact hloc hlocate.symm

end Program

end Dotfile

/-
Printing a file as it would be written, and writing it.

The two choose the format on their own, and the one has a file to write.  That
they agree takes two facts: a format that nobody asked for is one that there is,
and a file that can be read can be written, unless that is refused.

* `formatterFor_of_unknown`, `exists_formatterFor` — which formats there are;
* `Outcome.failsWith_unknownFormat_iff` — what is said of a format that there is
  none of;
* `saveConfig_of_read` — a file that was read is written, or the writing refused;
* `export_agrees_with_save` — what is printed is what is written;
* `readOnly_file_not_saved` — a file that is printed and cannot be written.
-/
import Dotfile.Proofs.Files
import Dotfile.Proofs.Provenance
import Dotfile.Proofs.Runs

namespace Dotfile

/-! ### The format -/

/-- Is a format asked for that there is none of? -/
def AsksUnknown (format : Option String) : Prop :=
  ∃ name, format = some name ∧ name ∉ ["zsh", "bash"]

/-- What the name of a file shows is a format that there is. -/
theorem formatFor?_eq_none_or_mem (path : Option String) :
    Shell.formatFor? none path = none ∨
      ∃ name ∈ ["zsh", "bash"], Shell.formatFor? none path = some name := by
  rw [Shell.formatFor?, Option.none_or]
  cases path.bind Shell.detect? with
  | none => exact .inl rfl
  | some shell =>
    cases shell with
    | zsh => exact .inr ⟨"zsh", by simp, rfl⟩
    | bash => exact .inr ⟨"bash", by simp, rfl⟩

namespace Context

theorem formatterFor_of_unknown (settings : Settings) (settingsPath path : String) {name : String}
    (hname : name ∉ ["zsh", "bash"]) :
    (chosen settings settingsPath).formatterFor path (some name) =
      .error ⟨name, ["zsh", "bash"]⟩ :=
  Registry.get_eq_error_iff.mpr ⟨hname, rfl⟩

theorem exists_formatterFor {settings : Settings} (settingsPath path : String)
    {format : Option String} (hdefault : settings.format.default ∈ ["zsh", "bash"])
    (hformat : ¬ AsksUnknown format) :
    ∃ f, (chosen settings settingsPath).formatterFor path format = .ok f := by
  cases hget : (chosen settings settingsPath).formatterFor path format with
  | ok f => exact ⟨f, rfl⟩
  | error e =>
    -- the name that is looked for was asked for, or is shown by the path, or is the default
    have hmem := (Registry.get_eq_error_iff.mp hget).1
    refine absurd ?_ hmem
    cases format with
    | some name =>
      by_contra hname
      exact hformat ⟨name, rfl, hname⟩
    | none =>
      rcases formatFor?_eq_none_or_mem (some path) with hnone | ⟨name, hname, hsome⟩
      · rw [hnone]
        exact hdefault
      · rw [hsome]
        exact hname

end Context

/-! ### Failures -/

/-- Does a run stop for the reason `f`? -/
structure Outcome.FailsWith (o : Outcome) (f : Failure) : Prop where
  status : o.status = 1
  stderr : o.stderr = "Error: " ++ f.message ++ "\n"

theorem Outcome.FailsWith.of_matches {o o' : Outcome} {f : Failure} (h : o.FailsWith f)
    (hsame : o'.Matches o) : o'.FailsWith f :=
  ⟨hsame.status.trans h.status, hsame.stderr.trans h.stderr⟩

theorem Outcome.FailsWith.status_ne_zero {o : Outcome} {f : Failure} (h : o.FailsWith f) :
    o.status ≠ 0 := by
  rw [h.status]
  exact Nat.one_ne_zero

/-- What is printed of a format that is neither of the two. -/
theorem Outcome.failsWith_unknownFormat_iff {o : Outcome} {name : String} :
    o.FailsWith (.unknownFormat ⟨name, ["zsh", "bash"]⟩) ↔
      o.status = 1 ∧
        o.stderr = "Error: Unknown format: \"" ++ name ++ "\". Available formats: zsh, bash\n" := by
  have htext : "Error: " ++ (Failure.unknownFormat ⟨name, ["zsh", "bash"]⟩).message ++ "\n" =
      "Error: Unknown format: \"" ++ name ++ "\". Available formats: zsh, bash\n" := by
    have hnames : ", ".intercalate ["zsh", "bash"] = "zsh, bash" := by decide +kernel
    have hstart : "Error: Unknown format: \"" = "Error: " ++ "Unknown format: \"" := by
      decide +kernel
    have hend : "\". Available formats: zsh, bash\n" =
        "\". Available formats: " ++ ("zsh, bash" ++ "\n") := by decide +kernel
    show "Error: " ++ ("Unknown format: \"" ++ name ++ "\". Available formats: " ++
      ", ".intercalate ["zsh", "bash"]) ++ "\n" = _
    rw [hnames, hstart, hend]
    simp only [String.append_assoc]
  rw [← htext]
  exact ⟨fun h => ⟨h.status, h.stderr⟩, fun h => ⟨h.1, h.2⟩⟩

/-- The first letter of the reason tells an unwritable file from an unknown format. -/
theorem Outcome.FailsWith.not_unknownFormat {o : Outcome} {path : String}
    (h : o.FailsWith (.fileUnwritable path)) (e : UnknownFormat) :
    ¬ o.FailsWith (.unknownFormat e) := by
  intro h'
  have htext : "Error: " ++ ("Failed to write " ++ path) ++ "\n" =
      "Error: " ++ ("Unknown format: \"" ++ e.name ++ "\". Available formats: " ++
        ", ".intercalate e.available) ++ "\n" := h.stderr.symm.trans h'.stderr
  have hletter := congrArg (fun s : String => s.toList[7]?) htext
  simp [String.toList_append] at hletter

/-! ### The file -/

variable {w : World} {path text : String}

theorem exists_file_of_read (h : w.read path = .ok text) :
    ∃ loc bytes, w.files.locate w.location (Path.pieces path.toList) = .ok loc ∧
      w.files.get? loc = some (.file bytes) := by
  rw [World.read] at h
  split at h
  · exact absurd h (by simp)
  · exact absurd h (by simp)
  · rename_i bytes hfind
    obtain ⟨loc, hlocate, hfile⟩ := FileSystem.exists_locate_of_find? hfind
    exact ⟨loc, bytes, hlocate, hfile⟩

/-- A file that was read is written, whatever it is to hold, or else the writing
is refused and nothing changes. -/
theorem saveConfig_of_read (habs : Path.isAbsolute path = true) (hread : w.read path = .ok text)
    {ctx : Context} {format : Option String} {f : Formatter}
    (hformat : ctx.formatterFor path format = .ok f) (config : Config) :
    let saved := saveConfig w ctx path format config
    (w.files.refuses w.location path = false →
      saved.status = 0 ∧
        saved.files.find? w.location path = some (.file (f.format config).toUTF8)) ∧
    (w.files.refuses w.location path = true →
      saved.FailsWith (.fileUnwritable path) ∧ saved.files = w.files) := by
  intro saved
  obtain ⟨loc, bytes, hlocate, hfile⟩ := exists_file_of_read hread
  have hrooted : w.files.Rooted (FileSystem.start w.location (Path.pieces path.toList)) :=
    FileSystem.rooted_start_of_isAbsolute habs
  have hwrite := FileSystem.writeFile_of_file hrooted hlocate hfile (f.format config).toUTF8
  have hsaved : saved = saveConfig w ctx path format config := rfl
  rw [saveConfig, hformat] at hsaved
  dsimp only at hsaved
  rw [FileSystem.makeParents_of_file hrooted hlocate hfile] at hsaved
  dsimp only at hsaved
  rw [FileSystem.refuses_of_locate hlocate]
  constructor
  · intro hallowed
    rw [if_neg (by simp [hallowed])] at hwrite
    rw [hsaved, hwrite]
    exact ⟨rfl, FileSystem.find?_writeFile hwrite⟩
  · intro hdenied
    rw [if_pos hdenied] at hwrite
    rw [hsaved, hwrite]
    exact ⟨⟨rfl, rfl⟩, rfl⟩

theorem Config.removeEnv_of_not_mem {c : Config} {name : String} (h : name ∉ c.names) :
    c.removeEnv name = c := by
  have hfilter : c.envVars.filter (·.name != name) = c.envVars := by
    refine List.filter_eq_self.mpr fun v hv => ?_
    have hne : v.name ≠ name := fun heq => h (heq ▸ List.mem_map_of_mem hv)
    simpa using hne
  rw [Config.removeEnv, hfilter]

/-! ### The commands -/

namespace Command

variable {ctx : Context} {file name : String} {format : Option String}

theorem run_printAs_of_error (hread : w.read (w.resolve file) = .ok text) {e : UnknownFormat}
    (hformat : ctx.formatterFor (w.resolve file) format = .error e) :
    (run w ctx (.printAs file format)).FailsWith (.unknownFormat e) := by
  rw [run]
  refine Outcome.FailsWith.of_matches ?_ (withConfig_of_ok hread)
  rw [hformat]
  exact ⟨rfl, rfl⟩

theorem run_printAs_of_ok (hread : w.read (w.resolve file) = .ok text) {f : Formatter}
    (hformat : ctx.formatterFor (w.resolve file) format = .ok f) :
    (run w ctx (.printAs file format)).status = 0 ∧
      (run w ctx (.printAs file format)).stdout =
        f.format (Config.parse text (w.resolve file)) := by
  rw [run, (withConfig_of_ok hread).status, (withConfig_of_ok hread).stdout, hformat]
  exact ⟨rfl, rfl⟩

/-- Removing a variable that is not there saves the file as it was read. -/
theorem run_envRemove_of_not_mem (ctx : Context) (format : Option String)
    (hread : w.read (w.resolve file) = .ok text)
    (hname : name ∉ (Config.parse text (w.resolve file)).names) :
    let saved := saveConfig w ctx (w.resolve file) format (Config.parse text (w.resolve file))
    let o := run w ctx (.envRemove file name format)
    o.status = saved.status ∧ o.stderr = saved.stderr ∧ o.files = saved.files := by
  intro saved o
  have ho : o = run w ctx (.envRemove file name format) := rfl
  rw [run] at ho
  rw [ho, (withConfig_of_ok hread).status, (withConfig_of_ok hread).stderr,
    (withConfig_of_ok hread).files]
  dsimp only
  rw [Config.removeEnv_of_not_mem hname]
  split
  · exact ⟨rfl, rfl, rfl⟩
  · exact ⟨rfl, rfl, rfl⟩

theorem run_envRemove_of_error (hread : w.read (w.resolve file) = .ok text)
    (hname : name ∉ (Config.parse text (w.resolve file)).names) {e : UnknownFormat}
    (hformat : ctx.formatterFor (w.resolve file) format = .error e) :
    (run w ctx (.envRemove file name format)).FailsWith (.unknownFormat e) := by
  obtain ⟨hstatus, hstderr, -⟩ := run_envRemove_of_not_mem ctx format hread hname
  rw [saveConfig, hformat] at hstatus hstderr
  exact ⟨hstatus, hstderr⟩

theorem run_envRemove_of_ok (hcwd : Path.isAbsolute w.cwd = true)
    (hread : w.read (w.resolve file) = .ok text)
    (hname : name ∉ (Config.parse text (w.resolve file)).names) {f : Formatter}
    (hformat : ctx.formatterFor (w.resolve file) format = .ok f) :
    let o := run w ctx (.envRemove file name format)
    (w.files.refuses w.location (w.resolve file) = false →
      o.status = 0 ∧ o.files.find? w.location (w.resolve file) =
        some (.file (f.format (Config.parse text (w.resolve file))).toUTF8)) ∧
    (w.files.refuses w.location (w.resolve file) = true →
      o.FailsWith (.fileUnwritable (w.resolve file)) ∧ o.files = w.files) := by
  intro o
  obtain ⟨hstatus, hstderr, hfiles⟩ := run_envRemove_of_not_mem ctx format hread hname
  have habs : Path.isAbsolute (w.resolve file) = true := Path.isAbsolute_resolve w.home hcwd file
  obtain ⟨hallowed, hdenied⟩ :=
    saveConfig_of_read habs hread hformat (Config.parse text (w.resolve file))
  rw [hstatus, hfiles]
  refine ⟨hallowed, fun hrefuses => ?_⟩
  obtain ⟨hfails, hsame⟩ := hdenied hrefuses
  exact ⟨⟨hstatus.trans hfails.status, hstderr.trans hfails.stderr⟩, hsame⟩

end Command

/-- **What is printed is what is written.**  Let a file be readable, and let the
settings be good.  If a format is asked for that there is none of, then printing
the file and removing a variable that is not in it both fail, and say the same of
that format; they fail so in no other case, and never if no format is asked for.
Else the file is printed, and if it can be written, too, then it holds the bytes
that are printed after the removal; if it cannot, the removal fails for that
reason and changes nothing. -/
theorem export_agrees_with_save {file name : String} {format config : Option String}
    {verbose verbose' : Bool} {words words' : List String} {settings : Settings}
    (hcwd : Path.isAbsolute w.cwd = true)
    (hread : w.read (w.resolve file) = .ok text)
    (hsettings : w.readSettings (config.getD w.settingsPath) = .ok settings)
    (hdefault : settings.format.default ∈ ["zsh", "bash"])
    (hname : name ∉ (Config.parse text (w.resolve file)).names)
    (hexport : Invocation.parse words = .ok ⟨.printAs file format, config, verbose⟩)
    (hremove : Invocation.parse words' = .ok ⟨.envRemove file name format, config, verbose'⟩) :
    let exported := Program.run w words
    let removed := Program.run w words'
    (∀ asked, format = some asked → asked ∉ ["zsh", "bash"] →
      let reason := "Error: Unknown format: \"" ++ asked ++ "\". Available formats: zsh, bash\n"
      exported.status = 1 ∧ exported.stderr = reason ∧
        removed.status = 1 ∧ removed.stderr = reason) ∧
    ((∃ e, exported.FailsWith (.unknownFormat e)) ↔ AsksUnknown format) ∧
    ((∃ e, removed.FailsWith (.unknownFormat e)) ↔ AsksUnknown format) ∧
    (¬ AsksUnknown format →
      exported.status = 0 ∧
      (w.files.refuses w.location (w.resolve file) = false →
        removed.status = 0 ∧ removed.files.find? w.location (w.resolve file) =
          some (.file exported.stdout.toUTF8)) ∧
      (w.files.refuses w.location (w.resolve file) = true →
        removed.status = 1 ∧ removed.files = w.files ∧
          removed.stderr = "Error: " ++ ("Failed to write " ++ w.resolve file) ++ "\n")) ∧
    (format = none →
      ∀ e, ¬ exported.FailsWith (.unknownFormat e) ∧ ¬ removed.FailsWith (.unknownFormat e)) := by
  intro exported removed
  have hexported := Program.run_matches hexport hsettings hdefault
  have hremoved := Program.run_matches hremove hsettings hdefault
  by_cases hformat : AsksUnknown format
  · have hasks := hformat
    obtain ⟨asked, rfl, hasked⟩ := hformat
    have herror := Context.formatterFor_of_unknown settings (config.getD w.settingsPath)
      (w.resolve file) hasked
    have hprinted := (Command.run_printAs_of_error hread herror).of_matches hexported
    have hsaved := (Command.run_envRemove_of_error hread hname herror).of_matches hremoved
    refine ⟨?_, iff_of_true ⟨_, hprinted⟩ hasks, iff_of_true ⟨_, hsaved⟩ hasks,
      fun hnot => absurd hasks hnot, fun hnone => absurd hnone (by simp)⟩
    intro asked' heq _ reason
    obtain rfl := Option.some_inj.mp heq
    obtain ⟨hstatus, hstderr⟩ := Outcome.failsWith_unknownFormat_iff.mp hprinted
    obtain ⟨hstatus', hstderr'⟩ := Outcome.failsWith_unknownFormat_iff.mp hsaved
    exact ⟨hstatus, hstderr, hstatus', hstderr'⟩
  · obtain ⟨f, hf⟩ := Context.exists_formatterFor (config.getD w.settingsPath)
      (w.resolve file) hdefault hformat
    obtain ⟨hprinted, hstdout⟩ := Command.run_printAs_of_ok hread hf
    obtain ⟨hallowed, hdenied⟩ := Command.run_envRemove_of_ok hcwd hread hname hf
    rw [← hexported.status] at hprinted
    rw [← hexported.stdout] at hstdout
    rw [← hremoved.status, ← hremoved.files, ← hstdout] at hallowed
    rw [← hremoved.files] at hdenied
    have hknown : ∀ e, ¬ exported.FailsWith (.unknownFormat e) ∧
        ¬ removed.FailsWith (.unknownFormat e) := by
      intro e
      refine ⟨fun he => he.status_ne_zero hprinted, fun he => ?_⟩
      -- the removal may fail, but then for another reason
      cases hrefuses : w.files.refuses w.location (w.resolve file) with
      | false => exact he.status_ne_zero (hallowed hrefuses).1
      | true => exact ((hdenied hrefuses).1.of_matches hremoved).not_unknownFormat e he
    refine ⟨fun asked hasked hnot => absurd ⟨asked, hasked, hnot⟩ hformat,
      iff_of_false (fun ⟨e, he⟩ => (hknown e).1 he) hformat,
      iff_of_false (fun ⟨e, he⟩ => (hknown e).2 he) hformat,
      fun _ => ⟨hprinted, hallowed, fun hrefuses => ?_⟩, fun _ => hknown⟩
    obtain ⟨hfails, hsame⟩ := hdenied hrefuses
    have hfails := hfails.of_matches hremoved
    exact ⟨hfails.status, hsame, hfails.stderr⟩

/-- The settings choose bash for a file whose name shows no shell, and nobody
knows fish. -/
theorem export_agrees_with_save_sample :
    let w : World :=
      { files := { nodes := [(["w", "f"], .file "export PATH=/x:$PATH".toUTF8),
          (["w", "s"], .file "format.default = 'bash'".toUTF8), (["w"], .directory)] }
        home := "/w/home"
        cwd := "/w" }
    let printed := Program.run w ["export", "f", "--config=s"]
    let saved := Program.run w ["--config=s", "env", "rm", "f", "A"]
    let refused := Program.run w ["env", "rm", "f", "A", "--config=s", "-f=fish"]
    saved.status = 0 ∧
      saved.files.find? w.location (w.resolve "f") = some (.file printed.stdout.toUTF8) ∧
      printed.stdout = "export PATH=\"/x:$\x7bPATH\x7d\"\n" ∧ refused.status = 1 ∧
      refused.stderr = "Error: Unknown format: \"fish\". Available formats: zsh, bash\n" := by
  intro w printed saved refused
  have hread : w.read (w.resolve "f") = .ok "export PATH=/x:$PATH" := by decide +kernel
  have hsettings : w.readSettings ((some "s").getD w.settingsPath) =
      .ok { format := ⟨"bash"⟩ } := by decide +kernel
  have hname : "A" ∉ (Config.parse "export PATH=/x:$PATH" (w.resolve "f")).names := by
    decide +kernel
  have hsaved : saved.status = 0 ∧
      saved.files.find? w.location (w.resolve "f") = some (.file printed.stdout.toUTF8) := by
    have hagree := export_agrees_with_save (by decide) hread hsettings (by decide) hname
      (by decide +kernel : Invocation.parse ["export", "f", "--config=s"] =
        .ok ⟨.printAs "f" none, some "s", false⟩)
      (by decide +kernel : Invocation.parse ["--config=s", "env", "rm", "f", "A"] =
        .ok ⟨.envRemove "f" "A" none, some "s", false⟩)
    refine (hagree.2.2.2.1 ?_).2.1 (by decide +kernel)
    rintro ⟨asked, hasked, -⟩
    exact absurd hasked (by simp)
  have hagree := export_agrees_with_save (by decide) hread hsettings (by decide) hname
    (by decide +kernel : Invocation.parse ["export", "f", "--config=s", "-ffish"] =
      .ok ⟨.printAs "f" (some "fish"), some "s", false⟩)
    (by decide +kernel : Invocation.parse ["env", "rm", "f", "A", "--config=s", "-f=fish"] =
      .ok ⟨.envRemove "f" "A" (some "fish"), some "s", false⟩)
  obtain ⟨-, -, hstatus, hstderr⟩ := hagree.1 "fish" rfl (by decide)
  exact ⟨hsaved.1, hsaved.2, by decide +kernel, hstatus, hstderr⟩

/-- A file that can be read but not written is printed, but the removal of a
variable that is not in it fails. -/
theorem readOnly_file_not_saved :
    let file := "/proc/sys/kernel/ostype"
    let w : World :=
      { files :=
          { nodes := [(["proc", "sys", "kernel", "ostype"], .file "Linux\n".toUTF8),
              (["proc", "sys", "kernel"], .directory), (["proc", "sys"], .directory),
              (["proc"], .directory), (["w"], .directory)]
            readOnly := fun loc => loc.head? = some "proc" }
        home := "/w/home"
        cwd := "/w" }
    let exported := Program.run w ["export", file]
    let removed := Program.run w ["env", "remove", file, "A"]
    w.read (w.resolve file) = .ok "Linux\n" ∧ w.readSettings w.settingsPath = .ok {} ∧
      "A" ∉ (Config.parse "Linux\n" (w.resolve file)).names ∧
      exported.status = 0 ∧ removed.status = 1 ∧
      removed.stderr = "Error: Failed to write /proc/sys/kernel/ostype\n" := by
  decide +kernel

end Dotfile

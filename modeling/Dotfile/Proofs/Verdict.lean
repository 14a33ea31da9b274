/-
The verdict on a file that is checked.

* `Lints` — a run of the program that checks a file with a given text;
* `run_lint`, `Lints.outcome` — it fails if a finding is serious enough, and
  reports what was found;
* `lint_verdict` — so its verdict is decided by the text and the lint settings.
-/
import Dotfile.Proofs.Findings
import Dotfile.Proofs.Runs

namespace Dotfile

open Lint

/-- Do `words`, run in `w`, check a file that holds `text` under the settings `s`?
The settings are found where the words say, and choose a format that there is. -/
def Lints (w : World) (words : List String) (text : String) (s : LintSettings) : Prop :=
  ∃ file config verbose settings,
    Invocation.parse words = .ok ⟨.lint file, config, verbose⟩ ∧
    w.read (w.resolve file) = .ok text ∧
    w.readSettings (config.getD w.settingsPath) = .ok settings ∧
    settings.format.default ∈ ["zsh", "bash"] ∧ settings.lint = s

/-! ### What is printed -/

/-- The line that a report ends with. -/
def Lint.Tally.summary (t : Tally) : String :=
  "\nFound " ++ toString t.errors ++ " error(s), " ++ toString t.warnings ++ " warning(s), " ++
    toString t.infos ++ " info(s).\n"

theorem lintReport_eq (color : Bool) (path : String) (ds : List Diagnostic) :
    lintReport color path ds =
      String.join (ds.map (·.text color path)) ++ (Tally.ofDiagnostics ds).summary := by
  simp only [lintReport, Tally.summary, String.append_assoc]

/-- The message that there is nothing to report. -/
theorem success_noIssues (w : World) :
    w.success "No issues found." =
      (if w.color then "\x1b[32m✓\x1b[0m" else "✓") ++ " No issues found.\n" := by
  rw [World.success, Style.paint, String.append_assoc, String.append_assoc]
  cases w.color <;> rfl

/-- A report does not end like the message that there is nothing to report. -/
theorem lintReport_ne_success (w : World) (path : String) (ds : List Diagnostic) :
    lintReport w.color path ds ≠ w.success "No issues found." := by
  intro heq
  have hend := congrArg (fun s : String => s.toList.reverse.take 3) heq
  have hreport : ∀ s : String, (s ++ " info(s).\n").toList.reverse.take 3 = ['\n', '.', ')'] := by
    intro s
    rw [String.toList_append, List.reverse_append]
    rfl
  have hsuccess : ∀ s : String,
      (s ++ "No issues found." ++ "\n").toList.reverse.take 3 = ['\n', '.', 'd'] := by
    intro s
    rw [String.toList_append, String.toList_append, List.append_assoc, List.reverse_append]
    rfl
  rw [lintReport, World.success, hreport, hsuccess] at hend
  exact absurd hend (by decide)

/-! ### The command -/

theorem run_lint {w : World} (ctx : Context) {file text : String} {ds : List Diagnostic}
    (hread : w.read (w.resolve file) = .ok text)
    (hds : ctx.linter.lint (Config.parse text (w.resolve file)) = ds) :
    (Command.run w ctx (.lint file)).status =
        (if ds.any (·.severity.atLeast ctx.settings.lint.failOn) then 1 else 0) ∧
      (Command.run w ctx (.lint file)).stdout =
        if ds = [] then w.success "No issues found."
        else lintReport w.color (w.resolve file) ds := by
  rw [Command.run, (withConfig_of_ok hread).status, (withConfig_of_ok hread).stdout]
  dsimp only
  rw [hds]
  by_cases hnil : ds = []
  · rw [if_pos hnil, hnil]
    exact ⟨rfl, rfl⟩
  · have hempty : ¬ ds.isEmpty = true := by simpa using hnil
    rw [if_neg hempty, if_neg hnil]
    exact ⟨rfl, rfl⟩

theorem tally_parse_source (text source source' : String) (disabled : List String) :
    (Config.parse text source).tally disabled = (Config.parse text source').tally disabled := by
  have hbindings : (Config.parse text source).bindings = (Config.parse text source').bindings := by
    rw [Config.parse_eq_ofReadings, Config.parse_eq_ofReadings, Config.bindings_ofReadings,
      Config.bindings_ofReadings]
  have hdirs : (Config.parse text source).directories = (Config.parse text source').directories := by
    rw [Config.parse_eq_ofReadings, Config.parse_eq_ofReadings, Config.directories_ofReadings,
      Config.directories_ofReadings]
  exact Config.tally_congr hbindings hdirs disabled

variable {w : World} {words : List String} {text : String} {s : LintSettings}

/-- A check is decided by the tally of the text. -/
theorem Lints.outcome (h : Lints w words text s) (source : String) :
    let o := Program.run w words
    let t := (Config.parse text source).tally s.disabled
    (o.status = 1 ∧ t.Reaches s.failOn ∨ o.status = 0 ∧ ¬ t.Reaches s.failOn) ∧
      (t = ⟨0, 0, 0⟩ ∧ o.stdout = w.success "No issues found." ∨
        t ≠ ⟨0, 0, 0⟩ ∧ o.stdout ≠ w.success "No issues found." ∧
          ∃ findings, o.stdout = findings ++ t.summary) := by
  intro o t
  obtain ⟨file, config, verbose, settings, hparse, hread, hsettings, hdefault, rfl⟩ := h
  have hrun := Program.run_matches hparse hsettings hdefault
  obtain ⟨ds, hds⟩ : ∃ ds, (Context.silence .initial settings.lint.disabled).1.lint
      (Config.parse text (w.resolve file)) = ds := ⟨_, rfl⟩
  have ht : Tally.ofDiagnostics ds = t := by
    rw [← hds, tally_lint]
    exact tally_parse_source text _ source _
  obtain ⟨hstatus, hstdout⟩ :=
    run_lint (.chosen settings (config.getD w.settingsPath)) hread hds
  rw [hrun.status, hrun.stdout, hstatus, hstdout, ← ht, Tally.reaches_ofDiagnostics_iff, ne_eq,
    Tally.ofDiagnostics_eq_zero_iff]
  constructor
  · split
    · rename_i hany
      exact .inl ⟨rfl, hany⟩
    · rename_i hany
      exact .inr ⟨rfl, hany⟩
  · split
    · rename_i hnil
      exact .inl ⟨hnil, rfl⟩
    · rename_i hnil
      exact .inr ⟨hnil, lintReport_ne_success w _ ds, _, lintReport_eq _ _ ds⟩

/-- **The verdict of a check** is decided by the text and the lint settings.  The
linter counts as errors the names with two values, as warnings the names and the
directories that occur twice, and as infos the empty values, each if its rule is
not disabled.  The run fails exactly if a count is positive whose severity is at
least the one in the settings; it prints that there are no issues exactly if all
counts are zero, and else a report that ends with the counts.  So a check that
succeeds still succeeds with more rules disabled and from a higher severity on. -/
theorem lint_verdict (h : Lints w words text s) (source : String) :
    let o := Program.run w words
    let c := Config.parse text source
    let t := c.tally s.disabled
    Tally.ofDiagnostics ((Context.silence .initial s.disabled).1.lint c) = t ∧
    (o.status = 0 ∨ o.status = 1) ∧
    (s.failOn = .error → (o.status = 1 ↔ 0 < t.errors)) ∧
    (s.failOn = .warning → (o.status = 1 ↔ 0 < t.errors + t.warnings)) ∧
    (s.failOn = .info → (o.status = 1 ↔ 0 < t.errors + t.warnings + t.infos)) ∧
    (o.stdout = (if w.color then "\x1b[32m✓\x1b[0m" else "✓") ++ " No issues found.\n" ↔
      t = ⟨0, 0, 0⟩) ∧
    (t ≠ ⟨0, 0, 0⟩ → ∃ findings, o.stdout = findings ++ t.summary) ∧
    (∀ w' words' s', Lints w' words' text s' → s.disabled ⊆ s'.disabled →
      (s'.failOn = s.failOn ∨ s'.failOn = .error ∨ s.failOn = .info) →
      o.status = 0 → (Program.run w' words').status = 0) ∧
    ("duplicate-env" ∉ s.disabled → "contradictory-env" ∉ s.disabled →
      0 < t.errors → 0 < t.warnings) := by
  intro o c t
  obtain ⟨hstatus, hstdout⟩ := h.outcome source
  have hfailed : o.status = 1 ↔ t.Reaches s.failOn := by
    rcases hstatus with ⟨hone, hreach⟩ | ⟨hzero, hreach⟩
    · exact iff_of_true hone hreach
    · exact iff_of_false (by rw [hzero]; simp) hreach
  refine ⟨tally_lint c s.disabled, ?_, ?_, ?_, ?_, ?_, ?_, ?_, ?_⟩
  · rcases hstatus with ⟨hone, -⟩ | ⟨hzero, -⟩
    · exact .inr hone
    · exact .inl hzero
  · intro hs
    rw [hfailed, hs, Tally.reaches_iff]
    simp
  · intro hs
    rw [hfailed, hs, Tally.reaches_iff, Nat.add_pos_iff_pos_or_pos]
    simp
  · intro hs
    rw [hfailed, hs, Tally.reaches_iff, Nat.add_pos_iff_pos_or_pos, Nat.add_pos_iff_pos_or_pos]
    simp [or_assoc]
  · rw [← success_noIssues]
    rcases hstdout with ⟨hclean, heq⟩ | ⟨hfound, hne, -⟩
    · exact iff_of_true heq hclean
    · exact iff_of_false hne hfound
  · intro hfound
    rcases hstdout with ⟨hclean, -⟩ | ⟨-, -, hreport⟩
    · exact absurd hclean hfound
    · exact hreport
  · intro w' words' s' h' hdisabled hfailOn hzero
    obtain ⟨hstatus', -⟩ := h'.outcome source
    rcases hstatus' with ⟨-, hreach'⟩ | ⟨hzero', -⟩
    · -- what is found there is found here, and is serious enough here, too
      have hreach : t.Reaches s.failOn :=
        Config.reaches_tally_mono c hdisabled (Severity.atLeast_iff.mpr hfailOn) hreach'
      exact absurd (hzero.symm.trans (hfailed.mpr hreach)) (by simp)
    · exact hzero'
  · intro hdup _ herrors
    exact c.warnings_pos_of_errors_pos hdup herrors

/-- Repetitions do not count, and warnings are failures.  Two empty values of one
name are reported and are no failure, two different values are one, and of a name
with one value there is nothing to say. -/
theorem lint_verdict_sample :
    let empty := "export A=\nexport A=\nexport B=1"
    let torn := "export A=1\nexport A=2"
    let clean := "export A=1"
    let w : World :=
      { files := { nodes := [(["w", "empty"], .file empty.toUTF8),
          (["w", "torn"], .file torn.toUTF8), (["w", "clean"], .file clean.toUTF8),
          (["w", "s"], .file "[lint]\ndisabled = ['duplicate-env']\nfail_on = 'warning'".toUTF8),
          (["w"], .directory)] }
        home := "/w/home"
        cwd := "/w" }
    let s : LintSettings := ⟨["duplicate-env"], .warning⟩
    let check (file : String) : List String := ["lint", "--config=s", file]
    let run (file : String) : Outcome := Program.run w (check file)
    Lints w (check "empty") empty s ∧ Lints w (check "torn") torn s ∧
      Lints w (check "clean") clean s ∧
    (run "empty").status = 0 ∧ (run "empty").stdout ≠ "✓ No issues found.\n" ∧
      (∃ findings, (run "empty").stdout =
        findings ++ "\nFound 0 error(s), 0 warning(s), 2 info(s).\n") ∧
    (run "torn").status = 1 ∧
      (∃ findings, (run "torn").stdout =
        findings ++ "\nFound 1 error(s), 0 warning(s), 0 info(s).\n") ∧
    (run "clean").status = 0 ∧ (run "clean").stdout = "✓ No issues found.\n" := by
  intro empty torn clean w s check run
  have hlints : ∀ file text, Invocation.parse (check file) = .ok ⟨.lint file, some "s", false⟩ →
      w.read (w.resolve file) = .ok text → Lints w (check file) text s := by
    intro file text hparse hread
    exact ⟨file, some "s", false, { lint := s }, hparse, hread, by decide +kernel, by decide, rfl⟩
  have hempty : Lints w (check "empty") empty s :=
    hlints _ _ (by decide +kernel) (by decide +kernel)
  have htorn : Lints w (check "torn") torn s := hlints _ _ (by decide +kernel) (by decide +kernel)
  have hclean : Lints w (check "clean") clean s :=
    hlints _ _ (by decide +kernel) (by decide +kernel)
  have htally : (Config.parse empty "f").tally s.disabled = ⟨0, 0, 2⟩ ∧
      (Config.parse torn "f").tally s.disabled = ⟨1, 0, 0⟩ ∧
      (Config.parse clean "f").tally s.disabled = ⟨0, 0, 0⟩ := by decide +kernel
  obtain ⟨-, hexit, -, hfailed, -, hnone, hreport, -⟩ := lint_verdict hempty "f"
  obtain ⟨-, -, -, hfailed', -, -, hreport', -⟩ := lint_verdict htorn "f"
  obtain ⟨-, hexit'', -, hfailed'', -, hnone'', -⟩ := lint_verdict hclean "f"
  rw [htally.1] at hfailed hnone hreport
  rw [htally.2.1] at hfailed' hreport'
  rw [htally.2.2] at hfailed'' hnone''
  exact ⟨hempty, htorn, hclean,
    hexit.resolve_right (mt (hfailed rfl).mp (by decide)), mt hnone.mp (by decide),
    hreport (by decide),
    (hfailed' rfl).mpr (by decide), hreport' (by decide),
    hexit''.resolve_right (mt (hfailed'' rfl).mp (by decide)), hnone''.mpr rfl⟩

end Dotfile

/-
What is found of a configuration that is saved and read again.

* `Config.map_kind_lint` — which rule finds something, how often and how serious
  it is depends on names, values and directories alone, not on lines;
* `Config.line_of_mem_findings` — a finding is at the line of an entry;
* `Lints.status_eq` — the status of a run with all rules;
* `lint_parse_format` — so a save changes no verdict, and after it every finding
  has a line.
-/
import Dotfile.Proofs.EditRuns
import Dotfile.Proofs.Reports
import Dotfile.Proofs.Verdict

namespace Dotfile

open Lint

namespace Lint

/-- The rule that made a finding, and how serious it is. -/
def Diagnostic.kind (d : Diagnostic) : String × Severity :=
  (d.rule, d.severity)

/-- The status of a check that finds `ds`. -/
def exitStatus (failOn : Severity) (ds : List Diagnostic) : Nat :=
  if ds.any (·.severity.atLeast failOn) then 1 else 0

theorem any_atLeast_eq (failOn : Severity) (ds : List Diagnostic) :
    ds.any (·.severity.atLeast failOn) = (ds.map Diagnostic.kind).any (·.2.atLeast failOn) := by
  rw [List.any_map]
  rfl

theorem Tally.count_ofDiagnostics_eq (ds : List Diagnostic) (s : Severity) :
    (ofDiagnostics ds).count s = (ds.map Diagnostic.kind).countP (·.2 == s) := by
  rw [count_ofDiagnostics, List.countP_map]
  rfl

/-- The different items that occur twice, in the order in which they first appear. -/
def repeatedInOrder (as : List String) : List String :=
  as.eraseDups.filter fun a => 1 < as.count a

/-! ### Kinds of findings -/

section Groups

variable {α β γ : Type} [DecidableEq γ] {key : α → String} {p : List α → Bool}
  {report : String → List α → Diagnostic}

theorem map_kind_groupFindings (kind : String × Severity)
    (h : ∀ k as, (report k as).kind = kind) (items : List α) :
    ((groupFindings key p report items).map Finding.diagnostic).map Diagnostic.kind =
      (reported key p items).map fun _ => kind := by
  rw [map_diagnostic_groupFindings, List.map_map]
  apply List.map_congr_left
  intro k _
  exact h k _

/-- The kinds of repetitions depend on the names or directories alone. -/
theorem map_kind_repetitions {report : String → List (Option Nat) → Diagnostic}
    (kind : String × Severity) (h : ∀ s lines, (report s lines).kind = kind) (os : List Origin) :
    ((repetitions report os).map Finding.diagnostic).map Diagnostic.kind =
      (repeatedInOrder (os.map Origin.subject)).map fun _ => kind := by
  rw [repetitions, map_kind_groupFindings kind fun s os => h s _]
  simp only [reported, length_withKey, repeatedInOrder]

theorem differ_map (f : β → γ) (g : α → β) (as : List α) :
    differ f (as.map g) = differ (fun a => f (g a)) as := by
  cases as with
  | nil => rfl
  | cons a as =>
    rw [List.map_cons, differ, differ, List.any_map]
    rfl

/-- A finding about a group is at the line of one of its items. -/
theorem line_of_mem_groupFindings {line : α → Option Nat}
    (hline : ∀ k as, (report k as).line = (as.map line).getLast?.join) {items : List α}
    {f : Finding} (hf : f ∈ groupFindings key p report items) :
    ∃ a ∈ items, f.diagnostic.line = line a := by
  obtain ⟨k, hk, rfl⟩ := List.mem_map.mp hf
  obtain ⟨a, ha, hkey⟩ := List.mem_map.mp (mem_reported_iff.mp hk).1
  -- a key that is reported has items, so there is a last one
  have hne : withKey key items k ≠ [] :=
    List.ne_nil_of_mem (List.mem_filter.mpr ⟨ha, by simpa using hkey⟩)
  refine ⟨(withKey key items k).getLast hne, List.mem_of_mem_filter (List.getLast_mem hne), ?_⟩
  rw [hline, List.getLast?_map, List.getLast?_eq_some_getLast hne]
  rfl

theorem line_of_mem_repetitions {report : String → List (Option Nat) → Diagnostic}
    (hline : ∀ s lines, (report s lines).line = lines.getLast?.join) {origin : α → Origin}
    {items : List α} {f : Finding} (hf : f ∈ repetitions report (items.map origin)) :
    ∃ a ∈ items, f.diagnostic.line = (origin a).line := by
  rw [repetitions_map] at hf
  exact line_of_mem_groupFindings (fun _ _ => hline _ _) hf

end Groups

end Lint

namespace Config

/-- What kinds of findings there are is said by names, values and directories. -/
theorem map_kind_lint (c : Config) :
    (Linter.initial.lint c).map Diagnostic.kind =
      (repeatedInOrder (c.bindings.map Prod.fst)).map (fun _ => ("duplicate-env", .warning)) ++
      (reported Prod.fst (differ Prod.snd) c.bindings).map
        (fun _ => ("contradictory-env", .error)) ++
      (repeatedInOrder (c.directories.map Prod.fst)).map (fun _ => ("duplicate-path", .warning)) ++
      (c.bindings.filter fun b => b.2 = "").map fun _ => ("empty-value", .info) := by
  have hnames : (c.envVars.map EnvVar.origin).map Origin.subject = c.bindings.map Prod.fst := by
    rw [bindings, List.map_map, List.map_map]
    rfl
  have hdirs : (c.pathEntries.map PathEntry.origin).map Origin.subject =
      c.directories.map Prod.fst := by
    rw [directories, List.map_map, List.map_map]
    rfl
  have hvalues : reported EnvVar.name (differ EnvVar.value) c.envVars =
      reported Prod.fst (differ Prod.snd) c.bindings := by
    rw [bindings, reported_map]
    simp only [differ_map]
  have hempty : (c.emptyValues.map Finding.diagnostic).map Diagnostic.kind =
      (c.bindings.filter fun b => b.2 = "").map fun _ => ("empty-value", .info) := by
    rw [emptyValues, bindings, List.filter_map, List.map_map, List.map_map, List.map_map]
    rfl
  rw [lint_initial, findings, repetitions, contradictions, pathRepetitions]
  simp only [List.map_append]
  rw [map_kind_repetitions ("duplicate-env", .warning) fun _ _ => rfl,
    map_kind_groupFindings ("contradictory-env", .error) fun _ _ => rfl,
    map_kind_repetitions ("duplicate-path", .warning) fun _ _ => rfl, hempty, hnames, hdirs,
    hvalues]

theorem map_kind_lint_congr {c d : Config} (hbindings : c.bindings = d.bindings)
    (hdirs : c.directories = d.directories) :
    (Linter.initial.lint c).map Diagnostic.kind = (Linter.initial.lint d).map Diagnostic.kind := by
  rw [map_kind_lint, map_kind_lint, hbindings, hdirs]

/-! ### Lines of findings -/

/-- A finding is at the line of an entry. -/
theorem line_of_mem_findings {c : Config} {f : Finding} (hf : f ∈ c.findings) :
    (∃ v ∈ c.envVars, f.diagnostic.line = v.line) ∨
      ∃ e ∈ c.pathEntries, f.diagnostic.line = e.line := by
  simp only [findings, List.mem_append] at hf
  rcases hf with ((hf | hf) | hf) | hf
  · exact .inl (line_of_mem_repetitions (fun _ _ => rfl) hf)
  · exact .inl (line_of_mem_groupFindings (fun _ _ => rfl) hf)
  · exact .inr (line_of_mem_repetitions (fun _ _ => rfl) hf)
  · obtain ⟨v, hv, rfl⟩ := List.mem_map.mp hf
    exact .inl ⟨v, List.mem_of_mem_filter hv, rfl⟩

theorem line_of_mem_lint_parse {text source : String} {d : Diagnostic}
    (hd : d ∈ Linter.initial.lint (parse text source)) :
    ∃ i cs, d.line = some (i + 1) ∧ (text.toList.splitOn '\n')[i]? = some cs := by
  rw [lint_initial] at hd
  obtain ⟨f, hf, rfl⟩ := List.mem_map.mp hd
  rcases line_of_mem_findings hf with ⟨v, hv, hline⟩ | ⟨e, he, hline⟩
  · obtain ⟨i, cs, hi, hcs, -⟩ := readEnv?_of_mem_parse hv
    exact ⟨i, cs, hline.trans hi, hcs⟩
  · obtain ⟨i, cs, hi, hcs, -⟩ := readPath?_of_mem_parse he
    exact ⟨i, cs, hline.trans hi, hcs⟩

end Config

/-! ### Saving -/

/-- The status of a run with all rules is that of what they find. -/
theorem Lints.status_eq {w : World} {words : List String} {text : String} {failOn : Severity}
    (h : Lints w words text ⟨[], failOn⟩) (source : String) :
    (Program.run w words).status =
      exitStatus failOn (Linter.initial.lint (Config.parse text source)) := by
  have htally := tally_lint (Config.parse text source) []
  obtain ⟨hstatus, -⟩ := h.outcome source
  rw [← htally, Tally.reaches_ofDiagnostics_iff] at hstatus
  rw [exitStatus]
  rcases hstatus with ⟨hone, hany⟩ | ⟨hzero, hany⟩
  · rw [hone]
    exact (if_pos hany).symm
  · rw [hzero]
    exact (if_neg hany).symm

/-- **A save does not change what is found.**  A configuration that a file can
hold, written for either shell and read again, gives findings of the same rules
and severities in the same order as before.  So there are as many of each
severity, and a check of the saved file ends as the configuration asks for.  All
findings then have the number of a line of the file. -/
theorem lint_parse_format {c : Config} (h : c.Representable) (shell : Shell) (source : String) :
    let saved := shell.formatter.format c
    let before := Linter.initial.lint c
    let after := Linter.initial.lint (Config.parse saved source)
    after.map Diagnostic.kind = before.map Diagnostic.kind ∧
    Tally.ofDiagnostics after = Tally.ofDiagnostics before ∧
    (∀ failOn, exitStatus failOn after = exitStatus failOn before) ∧
    (∀ w words failOn, Lints w words saved ⟨[], failOn⟩ →
      (Program.run w words).status = exitStatus failOn before) ∧
    ∀ d ∈ after, ∃ i cs, d.line = some (i + 1) ∧ (saved.toList.splitOn '\n')[i]? = some cs := by
  intro saved before after
  have hkinds : after.map Diagnostic.kind = before.map Diagnostic.kind :=
    Config.map_kind_lint_congr (h.bindings_parse_render shell.pathRef source)
      (Config.directories_parse_render h.toWellFormed shell.pathRef source)
  have hstatus : ∀ failOn, exitStatus failOn after = exitStatus failOn before := by
    intro failOn
    rw [exitStatus, exitStatus, any_atLeast_eq, hkinds, any_atLeast_eq]
  refine ⟨hkinds, ?_, hstatus, ?_, fun d hd => Config.line_of_mem_lint_parse hd⟩
  · refine Tally.ext_count fun s => ?_
    rw [Tally.count_ofDiagnostics_eq, hkinds, Tally.count_ofDiagnostics_eq]
  · intro w words failOn hlints
    rw [hlints.status_eq source]
    exact hstatus failOn

/-- Entries that are in no file yet, one of a file, and a directory at both
ends: what is found of them is found in the file, where the check fails. -/
theorem lint_parse_format_sample :
    let c : Config :=
      { envVars := [⟨"A", "1", none, manualSource⟩, ⟨"B", "", some 7, "g"⟩,
          ⟨"A", "it's", none, manualSource⟩]
        pathEntries := [⟨"/x", .prepend, some 9, "g"⟩, ⟨"/x", .append, none, manualSource⟩]
        rawLines := [⟨"# note", some 1, "g"⟩] }
    let saved := Shell.bash.formatter.format c
    let w : World :=
      { files := { nodes := [(["w", "f"], .file saved.toUTF8), (["w"], .directory)] }
        home := "/w/home"
        cwd := "/w" }
    c.Representable ∧ Lints w ["lint", "f"] saved ⟨[], .error⟩ ∧
      (Linter.initial.lint (Config.parse saved "f")).map Diagnostic.kind =
        [("duplicate-env", .warning), ("contradictory-env", .error),
         ("duplicate-path", .warning), ("empty-value", .info)] ∧
      (Program.run w ["lint", "f"]).status = 1 := by
  intro c saved w
  have hc : c.Representable := by
    refine ⟨⟨?_, ?_, ?_⟩, by decide⟩
    · simp only [c, List.forall_mem_cons]
      exact ⟨⟨by decide, by decide, by decide⟩, ⟨by decide, by decide, by decide⟩,
        ⟨by decide, by decide, by decide⟩, by simp⟩
    · simp only [c, List.forall_mem_cons]
      refine ⟨⟨by decide, by decide, by simp⟩, ⟨by decide, by decide, ?_⟩, by simp⟩
      rintro - ⟨ref, href, heq⟩
      revert ref
      decide
    · simp only [c, List.forall_mem_cons]
      exact ⟨⟨by decide, by decide +kernel⟩, by simp⟩
  have hlints : Lints w ["lint", "f"] saved ⟨[], .error⟩ := by
    refine ⟨"f", none, false, {}, ?_, ?_, ?_, by decide, rfl⟩
    · decide +kernel
    · decide +kernel
    · decide +kernel
  obtain ⟨hkinds, -, -, hstatus, -⟩ := lint_parse_format hc .bash "f"
  refine ⟨hc, hlints, hkinds.trans (by decide +kernel), ?_⟩
  rw [hstatus w ["lint", "f"] .error hlints]
  decide +kernel

end Dotfile

/-
What the rules report, and about what.

A finding is about a name or a directory.  Three of the rules look at the
entries of each name or directory together, the fourth at single assignments.

* `groupFindings` — what is found of groups, with the key that each finding is
  about; `filterMap_groupBy` says that this is what such a rule finds;
* `groupFindings_filter_ne` — without the entries of a key all is found but what
  is about this key;
* `Config.findings`, `lint_initial` — the findings of the four rules, with what
  they are about;
* `grouping_rules_report` — which names and directories the three rules report,
  in which order and in which words.
-/
import Dotfile.Proofs.Findings
import Dotfile.Proofs.Provenance

namespace Dotfile

open Lint

namespace Lint

/-- A finding with the name or the directory that it is about. -/
structure Finding where
  subject : String
  diagnostic : Diagnostic
  deriving DecidableEq, Repr

/-- A rule makes one finding of each item that satisfies its condition. -/
theorem filterMap_eq_map_filter {α β : Type} {f : α → Option β} {q : α → Bool} {g : α → β}
    (hf : ∀ a, f a = if q a = true then some (g a) else none) (as : List α) :
    as.filterMap f = (as.filter q).map g := by
  induction as with
  | nil => rfl
  | cons a as ih =>
    have ha := hf a
    by_cases hq : q a = true
    · rw [if_pos hq] at ha
      rw [List.filterMap_cons_some ha, List.filter_cons_of_pos hq, List.map_cons, ih]
    · rw [if_neg hq] at ha
      rw [List.filterMap_cons_none ha, List.filter_cons_of_neg hq, ih]

/-! ### Findings about groups -/

section Groups

variable {α β κ : Type} [DecidableEq κ]

/-- The items with the key `k`, in order. -/
def withKey (key : α → κ) (items : List α) (k : κ) : List α :=
  items.filter fun a => key a = k

/-- The keys whose items satisfy `p`, in the order in which they first appear. -/
def reported (key : α → κ) (p : List α → Bool) (items : List α) : List κ :=
  (items.map key).eraseDups.filter fun k => p (withKey key items k)

/-- What is found of the groups that satisfy `p`. -/
def groupFindings (key : α → String) (p : List α → Bool)
    (report : String → List α → Diagnostic) (items : List α) : List Finding :=
  (reported key p items).map fun k => ⟨k, report k (withKey key items k)⟩

theorem length_withKey (key : α → κ) (items : List α) (k : κ) :
    (withKey key items k).length = (items.map key).count k := by
  rw [List.count_eq_countP, List.countP_map, List.countP_eq_length_filter]
  rfl

theorem withKey_map (f : β → α) (key : α → κ) (items : List β) (k : κ) :
    withKey key (items.map f) k = (withKey (fun b => key (f b)) items k).map f :=
  List.filter_map

theorem withKey_filter_ne (key : α → κ) (items : List α) {j k : κ} (hjk : j ≠ k) :
    withKey key (items.filter fun a => key a != k) j = withKey key items j := by
  rw [withKey, withKey, List.filter_filter]
  apply List.filter_congr
  intro a _
  by_cases ha : key a = j
  · simp [ha, hjk]
  · simp [ha]

theorem mem_reported_iff {key : α → κ} {p : List α → Bool} {items : List α} {k : κ} :
    k ∈ reported key p items ↔ k ∈ items.map key ∧ p (withKey key items k) = true := by
  rw [reported, List.mem_filter, List.mem_eraseDups]

theorem reported_map (f : β → α) (key : α → κ) (p : List α → Bool) (items : List β) :
    reported key p (items.map f) =
      reported (fun b => key (f b)) (fun bs => p (bs.map f)) items := by
  simp only [reported, withKey_map, List.map_map, Function.comp_def]

theorem reported_filter_ne (key : α → κ) (p : List α → Bool) (items : List α) (k : κ) :
    reported key p (items.filter fun a => key a != k) =
      (reported key p items).filter fun j => j != k := by
  have hkeys : (items.filter fun a => key a != k).map key =
      (items.map key).filter fun j => j != k := by
    rw [List.filter_map]
    rfl
  rw [reported, reported, hkeys, eraseDups_filter, List.filter_filter, List.filter_filter]
  apply List.filter_congr
  intro j _
  by_cases hjk : j = k
  · simp [hjk]
  · rw [withKey_filter_ne key items hjk, Bool.and_comm]

variable (key : α → String) (p : List α → Bool) (report : String → List α → Diagnostic)

theorem groupFindings_map (f : β → α) (items : List β) :
    groupFindings key p report (items.map f) =
      groupFindings (fun b => key (f b)) (fun bs => p (bs.map f))
        (fun k bs => report k (bs.map f)) items := by
  simp only [groupFindings, reported_map, withKey_map]

theorem map_diagnostic_groupFindings (items : List α) :
    (groupFindings key p report items).map Finding.diagnostic =
      (reported key p items).map fun k => report k (withKey key items k) := by
  rw [groupFindings, List.map_map]
  rfl

/-- **Taking away the items of one key** takes away what is found about it, and
changes nothing else. -/
theorem groupFindings_filter_ne (items : List α) (k : String) :
    groupFindings key p report (items.filter fun a => key a != k) =
      (groupFindings key p report items).filter fun f => f.subject != k := by
  rw [groupFindings, groupFindings, List.filter_map, reported_filter_ne]
  apply List.map_congr_left
  intro j hj
  have hjk : j ≠ k := by simpa using (List.mem_filter.mp hj).2
  rw [withKey_filter_ne key items hjk]

theorem groupFindings_filter_of_not {items : List α} {k : String}
    (h : p (withKey key items k) = false) :
    ((groupFindings key p report items).filter fun f => f.subject != k) =
      groupFindings key p report items := by
  rw [List.filter_eq_self]
  intro f hf
  obtain ⟨j, hj, rfl⟩ := List.mem_map.mp hf
  obtain ⟨-, hp⟩ := mem_reported_iff.mp hj
  rw [bne_iff_ne]
  rintro rfl
  exact absurd hp (by simp [h])

/-- A rule that goes through the groups makes these findings. -/
theorem filterMap_groupBy {f : String × List α → Option Diagnostic}
    (hf : ∀ k as, f (k, as) = if p as = true then some (report k as) else none)
    (items : List α) :
    (groupBy key items).filterMap f =
      (groupFindings key p report items).map Finding.diagnostic := by
  rw [groupBy_eq, map_diagnostic_groupFindings, reported, List.filterMap_map]
  apply filterMap_eq_map_filter
  intro k
  exact hf k (withKey key items k)

end Groups

/-! ### The words of a report -/

/-- A line in a message. -/
theorem lineLabel_eq (line : Option Nat) : lineLabel line = line.elim "new" toString := by
  cases line <;> rfl

/-- The report on something that occurs at `lines`. -/
def repetition (rule opening middle subject : String) (lines : List (Option Nat)) :
    Diagnostic where
  rule
  severity := .warning
  message := opening ++ subject ++ middle ++ toString lines.length ++ " times (lines: " ++
    ", ".intercalate (lines.map fun line => line.elim "new" toString) ++ ")"
  line := lines.getLast?.join

/-- The report on a variable that is assigned repeatedly. -/
def envRepetition : String → List (Option Nat) → Diagnostic :=
  repetition "duplicate-env" "Environment variable \"" "\" is defined "

/-- The report on a directory that is added repeatedly. -/
def pathRepetition : String → List (Option Nat) → Diagnostic :=
  repetition "duplicate-path" "PATH entry \"" "\" is added "

/-- The report on a variable with different values. -/
def contradiction (name : String) (vars : List EnvVar) : Diagnostic where
  rule := "contradictory-env"
  severity := .error
  message := "Environment variable \"" ++ name ++ "\" has contradictory values: " ++
    ", ".intercalate (vars.map fun v =>
      "line " ++ v.line.elim "new" toString ++ ": \"" ++ v.value ++ "\"")
  line := (vars.map EnvVar.line).getLast?.join

/-- The report on an assignment of the empty value. -/
def emptiness (v : EnvVar) : Diagnostic where
  rule := "empty-value"
  severity := .info
  message := "Environment variable \"" ++ v.name ++ "\" has an empty value"
  line := v.line
  source := some v.source

theorem lastLine_eq {α : Type} (line : α → Option Nat) (items : List α) :
    lastLine line items = (items.map line).getLast?.join := by
  rw [lastLine, List.getLast?_map]
  cases items.getLast? <;> rfl

/-- What is repeated among entries; of an entry only the line is told. -/
def repetitions (report : String → List (Option Nat) → Diagnostic) (os : List Origin) :
    List Finding :=
  groupFindings Origin.subject (fun os => 1 < os.length) (fun s os => report s (os.map Origin.line))
    os

theorem repetitions_map {α : Type} (origin : α → Origin)
    (report : String → List (Option Nat) → Diagnostic) (items : List α) :
    repetitions report (items.map origin) =
      groupFindings (fun a => (origin a).subject) (fun as => 1 < as.length)
        (fun s as => report s (as.map fun a => (origin a).line)) items := by
  rw [repetitions, groupFindings_map]
  simp only [List.length_map, List.map_map, Function.comp_def]

end Lint

/-! ### The findings of a configuration -/

namespace Config

/-- The variables that are assigned repeatedly. -/
def repetitions (c : Config) : List Finding :=
  Lint.repetitions envRepetition (c.envVars.map EnvVar.origin)

/-- The variables that are assigned different values. -/
def contradictions (c : Config) : List Finding :=
  groupFindings EnvVar.name (differ EnvVar.value) contradiction c.envVars

/-- The directories that are added repeatedly. -/
def pathRepetitions (c : Config) : List Finding :=
  Lint.repetitions pathRepetition (c.pathEntries.map PathEntry.origin)

/-- The assignments of the empty value. -/
def emptyValues (c : Config) : List Finding :=
  (c.envVars.filter fun v => v.value = "").map fun v => ⟨v.name, emptiness v⟩

/-- All that is found, rule by rule. -/
def findings (c : Config) : List Finding :=
  c.repetitions ++ c.contradictions ++ c.pathRepetitions ++ c.emptyValues

variable (c : Config)

theorem check_duplicateEnv :
    Rule.duplicateEnv.check c = c.repetitions.map Finding.diagnostic := by
  rw [repetitions, repetitions_map, Rule.duplicateEnv]
  apply filterMap_groupBy
  intro name vars
  simp only [decide_eq_true_eq, envRepetition, repetition, lineLabels, lineLabel_eq, lastLine_eq,
    List.length_map, List.map_map, Function.comp_def, EnvVar.origin]

theorem check_contradictoryEnv :
    Rule.contradictoryEnv.check c = c.contradictions.map Finding.diagnostic := by
  rw [contradictions, Rule.contradictoryEnv]
  apply filterMap_groupBy
  intro name vars
  have hassigned : Rule.assignedAt = fun v : EnvVar =>
      "line " ++ v.line.elim "new" toString ++ ": \"" ++ v.value ++ "\"" := by
    funext v
    rw [Rule.assignedAt, lineLabel_eq]
  simp only [contradiction, hassigned, lastLine_eq]

theorem check_duplicatePath :
    Rule.duplicatePath.check c = c.pathRepetitions.map Finding.diagnostic := by
  rw [pathRepetitions, repetitions_map, Rule.duplicatePath]
  apply filterMap_groupBy
  intro dir entries
  simp only [decide_eq_true_eq, pathRepetition, repetition, lineLabels, lineLabel_eq, lastLine_eq,
    List.length_map, List.map_map, Function.comp_def, PathEntry.origin]

theorem check_emptyValue :
    Rule.emptyValue.check c = c.emptyValues.map Finding.diagnostic := by
  rw [emptyValues, List.map_map, Rule.emptyValue]
  apply filterMap_eq_map_filter
  intro v
  simp only [decide_eq_true_eq]
  rfl

/-- The findings of all rules are those of the four. -/
theorem lint_initial : Linter.initial.lint c = c.findings.map Finding.diagnostic := by
  rw [findings, List.map_append, List.map_append, List.map_append, ← check_duplicateEnv,
    ← check_contradictoryEnv, ← check_duplicatePath, ← check_emptyValue]
  simp [Linter.lint, Linter.initial, Rule.builtIn]

/-! ### What is reported -/

/-- Is `name` assigned two different values? -/
def HasTwoValues (name : String) : Prop :=
  ∃ v ∈ c.envVars, ∃ u ∈ c.envVars, v.name = name ∧ u.name = name ∧ v.value ≠ u.value

theorem differ_withKey_iff (name : String) :
    differ EnvVar.value (withKey EnvVar.name c.envVars name) = true ↔ c.HasTwoValues name := by
  rw [differ_eq_true_iff]
  simp only [withKey, List.mem_filter, decide_eq_true_eq]
  constructor
  · rintro ⟨v, ⟨hv, hname⟩, u, ⟨hu, hname'⟩, hne⟩
    exact ⟨v, hv, u, hu, hname, hname', hne⟩
  · rintro ⟨v, hv, u, hu, hname, hname', hne⟩
    exact ⟨v, ⟨hv, hname⟩, u, ⟨hu, hname'⟩, hne⟩

/-- A name that is assigned has two values, or one that all its assignments give. -/
theorem not_hasTwoValues_iff {name : String} (h : name ∈ c.names) :
    ¬ c.HasTwoValues name ↔ ∃ value, ∀ v ∈ c.envVars, v.name = name → v.value = value := by
  constructor
  · intro hno
    obtain ⟨u, hu, hname⟩ := List.mem_map.mp h
    refine ⟨u.value, ?_⟩
    intro v hv hname'
    by_contra hne
    exact hno ⟨v, hv, u, hu, hname', hname, hne⟩
  · rintro ⟨value, hall⟩ ⟨v, hv, u, hu, hname, hname', hne⟩
    exact hne ((hall v hv hname).trans (hall u hu hname').symm)

theorem two_le_count_of_hasTwoValues {name : String} (h : c.HasTwoValues name) :
    2 ≤ c.names.count name := by
  obtain ⟨v, hv, u, hu, rfl, hname, hne⟩ := h
  have hv' : (v.name, v.value) ∈ c.bindings := List.mem_map.mpr ⟨v, hv, rfl⟩
  have hu' : (u.name, u.value) ∈ c.bindings := List.mem_map.mpr ⟨u, hu, rfl⟩
  have hmem : v.name ∈ c.contradicted :=
    Finset.mem_filter.mpr ⟨List.mem_toFinset.mpr (List.mem_map_of_mem hv'), _, hv', _, hu', rfl,
      hname, hne⟩
  have hnames : c.bindings.map Prod.fst = c.names := List.map_map
  rw [← hnames]
  exact (Finset.mem_filter.mp (c.contradicted_subset_repeated hmem)).2

end Config

theorem Lint.firstAppearances_repeated {α : Type} (key : α → String) (items : List α) :
    FirstAppearances (items.map key) (fun k => 2 ≤ (items.map key).count k)
      (reported key (fun as => 1 < as.length) items) := by
  apply firstAppearances_filter
  intro k _
  rw [decide_eq_true_eq, length_withKey]
  exact Iff.rfl

/-- **What the grouping rules report.**  A variable that is assigned twice is
reported once, with the number of its assignments and their lines, at the line of
the last of them; and so is a directory, whatever its positions.  A variable is
reported as contradictory exactly if it has two values, with the line and the
value of each assignment.  The reports come in the order in which the names first
appear, so the contradictory names are some of the repeated ones in their order;
the others are those that are repeated with one value. -/
theorem grouping_rules_report (c : Config) :
    let dirs := c.pathEntries.map PathEntry.path
    ∃ repeated contradicted repeatedDirs : List String,
      FirstAppearances c.names (fun n => 2 ≤ c.names.count n) repeated ∧
      Rule.duplicateEnv.check c = repeated.map (fun n =>
        envRepetition n ((withKey EnvVar.name c.envVars n).map EnvVar.line)) ∧
      FirstAppearances c.names c.HasTwoValues contradicted ∧
      Rule.contradictoryEnv.check c = contradicted.map (fun n =>
        contradiction n (withKey EnvVar.name c.envVars n)) ∧
      FirstAppearances dirs (fun d => 2 ≤ dirs.count d) repeatedDirs ∧
      Rule.duplicatePath.check c = repeatedDirs.map (fun d =>
        pathRepetition d ((withKey PathEntry.path c.pathEntries d).map PathEntry.line)) ∧
      contradicted.Sublist repeated ∧
      ∀ n, n ∈ repeated ∧ n ∉ contradicted ↔
        2 ≤ c.names.count n ∧ ∃ value, ∀ v ∈ c.envVars, v.name = n → v.value = value := by
  intro dirs
  have hrepeated := firstAppearances_repeated EnvVar.name c.envVars
  have hcontradicted : FirstAppearances c.names c.HasTwoValues
      (reported EnvVar.name (differ EnvVar.value) c.envVars) :=
    firstAppearances_filter fun n _ => c.differ_withKey_iff n
  refine ⟨_, _, _, hrepeated, ?_, hcontradicted, ?_,
    firstAppearances_repeated PathEntry.path c.pathEntries, ?_, ?_, ?_⟩
  · rw [c.check_duplicateEnv, Config.repetitions, repetitions_map]
    exact map_diagnostic_groupFindings _ _ _ _
  · rw [c.check_contradictoryEnv, Config.contradictions]
    exact map_diagnostic_groupFindings _ _ _ _
  · rw [c.check_duplicatePath, Config.pathRepetitions, repetitions_map]
    exact map_diagnostic_groupFindings _ _ _ _
  · -- both lists are parts of one list, and the condition of the first is the stronger
    apply List.monotone_filter_right
    intro n hn
    rw [decide_eq_true_eq, length_withKey]
    exact c.two_le_count_of_hasTwoValues ((c.differ_withKey_iff n).mp hn)
  · intro n
    rw [hrepeated.mem_iff, hcontradicted.mem_iff, Config.names]
    constructor
    · rintro ⟨⟨hmem, hcount⟩, hno⟩
      exact ⟨hcount, (c.not_hasTwoValues_iff hmem).mp fun h => hno ⟨hmem, h⟩⟩
    · rintro ⟨hcount, hvalue⟩
      have hmem : n ∈ c.names := List.count_pos_iff.mp (by rw [Config.names]; omega)
      exact ⟨⟨hmem, hcount⟩, fun h => (c.not_hasTwoValues_iff hmem).mpr hvalue h.2⟩

end Dotfile

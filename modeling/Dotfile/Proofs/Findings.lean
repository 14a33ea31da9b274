/-
How much a check finds.

Rules look at groups of entries and make findings of them.  How many there are
of each severity is told here by the assignments and directories alone:

* `repeated`, `Config.contradicted` — what occurs twice, and names with two
  values;
* `Config.tally` — the counts that follow, with some rules left out;
* `tally_lint` — a linter with these rules finds just so much;
* `Lint.Tally.reaches_iff` — which counts matter from a severity on;
* `Config.reaches_tally_mono`, `Config.warnings_pos_of_errors_pos` — leaving out
  more rules finds no more, and a contradiction is a repetition.
-/
import Dotfile.Context
import Dotfile.Proofs.Grouping
import Dotfile.Proofs.Reading

namespace Dotfile

open Lint

/-- The different items that occur at least twice. -/
def repeated (as : List String) : Finset String :=
  as.toFinset.filter fun a => 2 ≤ as.count a

namespace Config

/-- The names that are assigned two different values. -/
def contradicted (c : Config) : Finset String :=
  (c.bindings.map Prod.fst).toFinset.filter fun name =>
    ∃ b ∈ c.bindings, ∃ b' ∈ c.bindings, b.1 = name ∧ b'.1 = name ∧ b.2 ≠ b'.2

/-- How much there is to find without the rules that are disabled. -/
def tally (c : Config) (disabled : List String) : Tally where
  errors := if "contradictory-env" ∈ disabled then 0 else c.contradicted.card
  warnings :=
    (if "duplicate-env" ∈ disabled then 0 else (repeated (c.bindings.map Prod.fst)).card) +
    (if "duplicate-path" ∈ disabled then 0 else (repeated (c.directories.map Prod.fst)).card)
  infos := if "empty-value" ∈ disabled then 0 else c.bindings.countP (·.2 == "")

end Config

/-! ### Counts by severity -/

namespace Lint.Tally

/-- The count of one severity. -/
def count (t : Tally) : Severity → Nat
  | .error => t.errors
  | .warning => t.warnings
  | .info => t.infos

/-- Is anything found that is at least as serious as `s`? -/
def Reaches (t : Tally) (s : Severity) : Prop :=
  ∃ s' : Severity, s'.atLeast s = true ∧ 0 < t.count s'

/-- The counts that matter from a severity on. -/
theorem reaches_iff (t : Tally) (s : Severity) :
    t.Reaches s ↔
      0 < t.errors ∨ s ≠ .error ∧ 0 < t.warnings ∨ s = .info ∧ 0 < t.infos := by
  constructor
  · rintro ⟨found, hfound, hpos⟩
    rw [Severity.atLeast_iff] at hfound
    cases found with
    | error => exact .inl hpos
    | warning =>
      refine .inr (.inl ⟨?_, hpos⟩)
      rintro rfl
      simp at hfound
    | info => exact .inr (.inr ⟨by simpa [eq_comm] using hfound, hpos⟩)
  · rintro (hpos | ⟨hs, hpos⟩ | ⟨rfl, hpos⟩)
    · exact ⟨.error, Severity.atLeast_iff.mpr (.inr (.inl rfl)), hpos⟩
    · refine ⟨.warning, Severity.atLeast_iff.mpr ?_, hpos⟩
      cases s with
      | error => exact absurd rfl hs
      | warning => exact .inl rfl
      | info => exact .inr (.inr rfl)
    · exact ⟨.info, Severity.atLeast_iff.mpr (.inl rfl), hpos⟩

theorem ext_count {t t' : Tally} (h : ∀ s, t.count s = t'.count s) : t = t' := by
  obtain ⟨errors, warnings, infos⟩ := t
  obtain ⟨errors', warnings', infos'⟩ := t'
  have herrors : errors = errors' := h .error
  have hwarnings : warnings = warnings' := h .warning
  have hinfos : infos = infos' := h .info
  rw [herrors, hwarnings, hinfos]

theorem count_ofDiagnostics (ds : List Diagnostic) (s : Severity) :
    (ofDiagnostics ds).count s = ds.countP (·.severity == s) := by
  cases s <;> rfl

theorem reaches_ofDiagnostics_iff (ds : List Diagnostic) (s : Severity) :
    (ofDiagnostics ds).Reaches s ↔ ds.any (·.severity.atLeast s) = true := by
  rw [List.any_eq_true]
  constructor
  · rintro ⟨s', hs', hpos⟩
    rw [count_ofDiagnostics] at hpos
    obtain ⟨d, hd, hsev⟩ := List.countP_pos_iff.mp hpos
    rw [beq_iff_eq] at hsev
    exact ⟨d, hd, hsev ▸ hs'⟩
  · rintro ⟨d, hd, hs⟩
    refine ⟨d.severity, hs, ?_⟩
    rw [count_ofDiagnostics]
    exact List.countP_pos_iff.mpr ⟨d, hd, by simp⟩

theorem ofDiagnostics_eq_zero_iff (ds : List Diagnostic) : ofDiagnostics ds = ⟨0, 0, 0⟩ ↔ ds = [] := by
  constructor
  · intro h
    by_contra hne
    obtain ⟨d, hd⟩ := List.exists_mem_of_ne_nil ds hne
    have hpos : 0 < (ofDiagnostics ds).count d.severity := by
      rw [count_ofDiagnostics]
      exact List.countP_pos_iff.mpr ⟨d, hd, by simp⟩
    rw [h] at hpos
    cases hsev : d.severity <;> simp [hsev, count] at hpos
  · rintro rfl
    rfl

end Lint.Tally

/-! ### The rules -/

namespace Lint

theorem differ_eq_true_iff {α β : Type} [DecidableEq β] (f : α → β) (as : List α) :
    differ f as = true ↔ ∃ a ∈ as, ∃ b ∈ as, f a ≠ f b := by
  cases as with
  | nil => simp [differ]
  | cons a as =>
    rw [differ, List.any_eq_true]
    constructor
    · rintro ⟨b, hb, hne⟩
      exact ⟨b, List.mem_cons_of_mem a hb, a, List.mem_cons_self, by simpa using hne⟩
    · rintro ⟨b, hb, b', hb', hne⟩
      -- of two items that differ, one differs from the first
      by_contra hsame
      have hall : ∀ d ∈ a :: as, f d = f a := by
        intro d hd
        rcases List.mem_cons.mp hd with rfl | hd
        · rfl
        · by_contra hd'
          exact hsame ⟨d, hd, by simpa using hd'⟩
      exact hne ((hall b hb).trans (hall b' hb').symm)

/-- A rule that makes findings of one severity makes as many as it finds
occasions. -/
theorem countP_severity_filterMap {α : Type} {f : α → Option Diagnostic} {p : α → Bool}
    {severity : Severity} (hsome : ∀ a, (f a).isSome = p a)
    (hsev : ∀ a d, f a = some d → d.severity = severity) (as : List α) (s : Severity) :
    (as.filterMap f).countP (·.severity == s) = if s = severity then as.countP p else 0 := by
  have hall : ∀ d ∈ as.filterMap f, d.severity = severity := by
    intro d hd
    obtain ⟨a, -, ha⟩ := List.mem_filterMap.mp hd
    exact hsev a d ha
  split
  · rename_i hs
    have hlength : (as.filterMap f).countP (·.severity == s) = (as.filterMap f).length := by
      refine List.countP_eq_length.mpr fun d hd => ?_
      simp [hall d hd, hs]
    rw [hlength, List.length_filterMap_eq_countP]
    simp only [hsome]
  · rename_i hs
    refine List.countP_eq_zero.mpr fun d hd => ?_
    simp [hall d hd, Ne.symm hs]

theorem countP_groupBy_eq_card_repeated {α : Type} (key : α → String) (items : List α) :
    (groupBy key items).countP (fun g => decide (1 < g.2.length)) =
      (repeated (items.map key)).card := by
  rw [countP_groupBy key items fun as => decide (1 < as.length), repeated]
  congr 1
  refine Finset.filter_congr fun k _ => ?_
  have hcount : (items.map key).count k = (items.filter fun a => key a = k).length := by
    rw [List.count_eq_countP, List.countP_map, List.countP_eq_length_filter]
    rfl
  rw [hcount, decide_eq_true_iff]
  rfl

namespace Rule

theorem countP_duplicateEnv (c : Config) (s : Severity) :
    (duplicateEnv.check c).countP (·.severity == s) =
      if s = .warning then (repeated (c.bindings.map Prod.fst)).card else 0 := by
  have hnames : c.bindings.map Prod.fst = c.envVars.map EnvVar.name := by
    rw [Config.bindings, List.map_map]
    rfl
  rw [hnames, ← countP_groupBy_eq_card_repeated]
  refine countP_severity_filterMap ?_ ?_ _ s
  · rintro ⟨name, vars⟩
    by_cases h : 1 < vars.length
    · simp [h]
    · simp [h]
  · rintro ⟨name, vars⟩ d hd
    obtain ⟨-, hd⟩ := Option.ite_none_right_eq_some.mp hd
    rw [← Option.some.inj hd]

theorem countP_duplicatePath (c : Config) (s : Severity) :
    (duplicatePath.check c).countP (·.severity == s) =
      if s = .warning then (repeated (c.directories.map Prod.fst)).card else 0 := by
  have hdirs : c.directories.map Prod.fst = c.pathEntries.map PathEntry.path := by
    rw [Config.directories, List.map_map]
    rfl
  rw [hdirs, ← countP_groupBy_eq_card_repeated]
  refine countP_severity_filterMap ?_ ?_ _ s
  · rintro ⟨dir, entries⟩
    by_cases h : 1 < entries.length
    · simp [h]
    · simp [h]
  · rintro ⟨dir, entries⟩ d hd
    obtain ⟨-, hd⟩ := Option.ite_none_right_eq_some.mp hd
    rw [← Option.some.inj hd]

theorem card_contradicted (c : Config) :
    c.contradicted.card = (groupBy EnvVar.name c.envVars).countP fun g => differ EnvVar.value g.2 := by
  have hnames : c.bindings.map Prod.fst = c.envVars.map EnvVar.name := by
    rw [Config.bindings, List.map_map]
    rfl
  rw [countP_groupBy, Config.contradicted, hnames]
  congr 1
  refine Finset.filter_congr fun name _ => ?_
  rw [differ_eq_true_iff, Config.bindings]
  constructor
  · rintro ⟨b, hb, b', hb', hname, hname', hne⟩
    obtain ⟨v, hv, rfl⟩ := List.mem_map.mp hb
    obtain ⟨v', hv', rfl⟩ := List.mem_map.mp hb'
    exact ⟨v, by simpa using ⟨hv, hname⟩, v', by simpa using ⟨hv', hname'⟩, hne⟩
  · rintro ⟨v, hv, v', hv', hne⟩
    obtain ⟨hv, hname⟩ := List.mem_filter.mp hv
    obtain ⟨hv', hname'⟩ := List.mem_filter.mp hv'
    exact ⟨_, List.mem_map_of_mem hv, _, List.mem_map_of_mem hv', by simpa using hname,
      by simpa using hname', hne⟩

theorem countP_contradictoryEnv (c : Config) (s : Severity) :
    (contradictoryEnv.check c).countP (·.severity == s) =
      if s = .error then c.contradicted.card else 0 := by
  rw [card_contradicted]
  refine countP_severity_filterMap ?_ ?_ _ s
  · rintro ⟨name, vars⟩
    by_cases h : differ EnvVar.value vars = true
    · simp [h]
    · simp [h]
  · rintro ⟨name, vars⟩ d hd
    obtain ⟨-, hd⟩ := Option.ite_none_right_eq_some.mp hd
    rw [← Option.some.inj hd]

theorem countP_emptyValue (c : Config) (s : Severity) :
    (emptyValue.check c).countP (·.severity == s) =
      if s = .info then c.bindings.countP (·.2 == "") else 0 := by
  rw [Config.bindings, List.countP_map]
  refine countP_severity_filterMap ?_ ?_ _ s
  · intro v
    by_cases h : v.value = ""
    · simp [h]
    · simp [h]
  · intro v d hd
    obtain ⟨-, hd⟩ := Option.ite_none_right_eq_some.mp hd
    rw [← Option.some.inj hd]

end Rule

/-! ### Linters -/

theorem rules_silence (l : Linter) (disabled : List String) :
    (Context.silence l disabled).1.rules = l.rules.filter (·.name ∉ disabled) := by
  induction disabled generalizing l with
  | nil => simp [Context.silence]
  | cons name disabled ih =>
    rw [Context.silence]
    dsimp only
    rw [ih, Linter.disable, List.filter_filter]
    congr 1
    funext rule
    by_cases hname : rule.name = name
    · simp [hname]
    · simp [hname]

end Lint

theorem lint_silence_initial (c : Config) (disabled : List String) :
    (Context.silence .initial disabled).1.lint c =
      (if "duplicate-env" ∈ disabled then [] else Rule.duplicateEnv.check c) ++
      (if "contradictory-env" ∈ disabled then [] else Rule.contradictoryEnv.check c) ++
      (if "duplicate-path" ∈ disabled then [] else Rule.duplicatePath.check c) ++
      (if "empty-value" ∈ disabled then [] else Rule.emptyValue.check c) := by
  have hcons : ∀ (rule : Rule) (rules : List Rule),
      ((rule :: rules).filter (·.name ∉ disabled)).flatMap (·.check c) =
        (if rule.name ∈ disabled then [] else rule.check c) ++
          (rules.filter (·.name ∉ disabled)).flatMap (·.check c) := by
    intro rule rules
    by_cases hname : rule.name ∈ disabled
    · simp [hname]
    · simp [hname]
  rw [Linter.lint, Lint.rules_silence, Linter.initial, Rule.builtIn, hcons, hcons, hcons, hcons,
    List.filter_nil, List.flatMap_nil, List.append_nil, List.append_assoc, List.append_assoc]
  rfl

/-- **How much is found**: what the entries say that there is to find. -/
theorem tally_lint (c : Config) (disabled : List String) :
    Tally.ofDiagnostics ((Context.silence .initial disabled).1.lint c) = c.tally disabled := by
  have hrule : ∀ (p : Prop) [Decidable p] (ds : List Diagnostic) (s : Severity),
      (if p then [] else ds).countP (·.severity == s) =
        if p then 0 else ds.countP (·.severity == s) := by
    intro p _ ds s
    split
    · rfl
    · rfl
  refine Tally.ext_count fun s => ?_
  rw [Tally.count_ofDiagnostics, lint_silence_initial]
  simp only [List.countP_append, hrule, Rule.countP_duplicateEnv, Rule.countP_contradictoryEnv,
    Rule.countP_duplicatePath, Rule.countP_emptyValue]
  cases s with
  | error => simp [Tally.count, Config.tally]
  | warning => simp [Tally.count, Config.tally]
  | info => simp [Tally.count, Config.tally]

namespace Config

/-! ### Comparisons -/

/-- What is found depends on what the lines say, not on where they stand. -/
theorem tally_congr {c d : Config} (hbindings : c.bindings = d.bindings)
    (hdirs : c.directories = d.directories) (disabled : List String) :
    c.tally disabled = d.tally disabled := by
  rw [tally, tally, contradicted, contradicted, hbindings, hdirs]

theorem count_tally_antitone (c : Config) {disabled disabled' : List String}
    (h : disabled ⊆ disabled') (s : Severity) :
    (c.tally disabled').count s ≤ (c.tally disabled).count s := by
  have hrule : ∀ (name : String) (n : Nat),
      (if name ∈ disabled' then 0 else n) ≤ if name ∈ disabled then 0 else n := by
    intro name n
    by_cases hname : name ∈ disabled
    · rw [if_pos hname, if_pos (h hname)]
    · rw [if_neg hname]
      split <;> omega
  cases s with
  | error => exact hrule _ _
  | warning => exact Nat.add_le_add (hrule _ _) (hrule _ _)
  | info => exact hrule _ _

/-- With fewer rules disabled, and from a lower severity on, no less is found. -/
theorem reaches_tally_mono (c : Config) {disabled disabled' : List String} {s s' : Severity}
    (hdisabled : disabled ⊆ disabled') (hs : s'.atLeast s = true)
    (h : (c.tally disabled').Reaches s') : (c.tally disabled).Reaches s := by
  obtain ⟨found, hfound, hpos⟩ := h
  refine ⟨found, ?_, Nat.lt_of_lt_of_le hpos (c.count_tally_antitone hdisabled found)⟩
  rw [Severity.atLeast, decide_eq_true_iff] at hs hfound ⊢
  omega

/-- A name with two values is assigned twice. -/
theorem contradicted_subset_repeated (c : Config) :
    c.contradicted ⊆ repeated (c.bindings.map Prod.fst) := by
  intro name hname
  rw [contradicted, Finset.mem_filter] at hname
  obtain ⟨hmem, b, hb, b', hb', rfl, hname', hne⟩ := hname
  refine Finset.mem_filter.mpr ⟨hmem, ?_⟩
  have hcount : (c.bindings.map Prod.fst).count b.1 =
      (c.bindings.filter fun d => d.1 == b.1).length := by
    rw [List.count_eq_countP, List.countP_map, List.countP_eq_length_filter]
    rfl
  have hin : b ∈ c.bindings.filter fun d => d.1 == b.1 := by simpa using hb
  have hin' : b' ∈ c.bindings.filter fun d => d.1 == b.1 := by simpa [hname'] using hb'
  rw [hcount]
  cases hsame : c.bindings.filter fun d => d.1 == b.1 with
  | nil =>
    rw [hsame] at hin
    exact absurd hin List.not_mem_nil
  | cons x xs =>
    cases xs with
    | nil =>
      rw [hsame, List.mem_singleton] at hin hin'
      exact absurd (by rw [hin, hin']) hne
    | cons y ys =>
      rw [List.length_cons, List.length_cons]
      omega

theorem warnings_pos_of_errors_pos (c : Config) {disabled : List String}
    (hdup : "duplicate-env" ∉ disabled) (h : 0 < (c.tally disabled).errors) :
    0 < (c.tally disabled).warnings := by
  have hcard : c.contradicted.card ≤ (repeated (c.bindings.map Prod.fst)).card :=
    Finset.card_le_card c.contradicted_subset_repeated
  rw [tally] at h ⊢
  dsimp only at h ⊢
  rw [if_neg hdup]
  split at h <;> omega

end Config

end Dotfile

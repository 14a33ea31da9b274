/-
Linters under any calls.

Rules are added at the end and dropped by name.  Rules of one name may be added,
dropped and added again, so what a linter is left with is said of the calls as a
whole: a rule is there exactly if no call after the one that added it drops its
name.

* `kept_concat_add`, `kept_concat_disable` — what one more call does to the rules
  that are kept;
* `rules_run`, `answers_append` — so a run leaves the kept rules, and a call is
  answered by the kept rules before it;
* `events_silence` — leaving out a list of names warns of a name that no rule has,
  and of one that the list had before;
* `rules_of_calls` — what a linter does after any calls, and the one that settings
  make.
-/
import Dotfile.Proofs.Findings
import Dotfile.Proofs.Runs

namespace Dotfile.Lint.Linter

/-- A call that may change a linter. -/
inductive Call where
  | add (rule : Rule)
  | disable (name : String)

/-- Does the call drop the rules of that name? -/
def Call.drops (name : String) : Call → Bool
  | add _ => false
  | disable dropped => dropped == name

/-- The linter after a call, and the answer: adding has none, and disabling tells
whether there was a rule to drop. -/
def call (l : Linter) : Call → Linter × Option Bool
  | .add rule => (l.add rule, none)
  | .disable name => (l.disable name, some (l.has name))

/-- The linter after some calls. -/
def run (l : Linter) (calls : List Call) : Linter :=
  calls.foldl (fun l c => (l.call c).1) l

/-- The answers of the calls, in order. -/
def answers (l : Linter) : List Call → List (Option Bool)
  | [] => []
  | c :: calls => (l.call c).2 :: (l.call c).1.answers calls

/-- The rules that the calls add and that no later call drops, in order. -/
def kept : List Call → List Rule
  | [] => []
  | .add rule :: later => if later.any (·.drops rule.name) then kept later else rule :: kept later
  | .disable _ :: later => kept later

/-! ### Kept rules -/

theorem kept_map_add (rules : List Rule) : kept (rules.map .add) = rules := by
  induction rules with
  | nil => rfl
  | cons rule rules ih =>
    have hnone : (rules.map Call.add).any (·.drops rule.name) = false := by
      simp [Call.drops]
    rw [List.map_cons, kept, hnone, ih]
    rfl

theorem kept_concat_add (calls : List Call) (rule : Rule) :
    kept (calls ++ [.add rule]) = kept calls ++ [rule] := by
  induction calls with
  | nil => rfl
  | cons c calls ih =>
    cases c with
    | disable name => exact ih
    | add first =>
      -- a call that adds a rule drops none
      have hdrops : (calls ++ [Call.add rule]).any (·.drops first.name) =
          calls.any (·.drops first.name) := by
        simp [Call.drops]
      rw [List.cons_append, kept, hdrops, ih, kept]
      split
      · rfl
      · rfl

theorem kept_concat_disable (calls : List Call) (name : String) :
    kept (calls ++ [.disable name]) = (kept calls).filter (·.name != name) := by
  induction calls with
  | nil => rfl
  | cons c calls ih =>
    cases c with
    | disable other => exact ih
    | add first =>
      have hdrops : (calls ++ [Call.disable name]).any (·.drops first.name) =
          (calls.any (·.drops first.name) || name == first.name) := by
        simp [Call.drops]
      rw [List.cons_append, kept, hdrops, ih, kept]
      by_cases hlater : calls.any (·.drops first.name) = true
      · rw [hlater, Bool.true_or, if_pos rfl, if_pos rfl]
      · rw [Bool.not_eq_true] at hlater
        rw [hlater, Bool.false_or]
        by_cases hname : first.name = name
        · simp [hname]
        · simp [hname, Ne.symm hname]

/-! ### Runs -/

theorem run_concat (l : Linter) (calls : List Call) (c : Call) :
    l.run (calls ++ [c]) = ((l.run calls).call c).1 := by
  rw [run, List.foldl_append]
  rfl

/-- **Run**: the rules are those that the linter had and those that were added,
where no later call drops them. -/
theorem rules_run (l : Linter) (calls : List Call) :
    (l.run calls).rules = kept (l.rules.map .add ++ calls) := by
  induction calls using List.reverseRecOn with
  | nil =>
    rw [List.append_nil, kept_map_add]
    rfl
  | append_singleton calls c ih =>
    rw [run_concat, ← List.append_assoc]
    cases c with
    | add rule => rw [kept_concat_add, ← ih, call, add]
    | disable name => rw [kept_concat_disable, ← ih, call, disable]

theorem answers_append (l : Linter) (before after : List Call) :
    l.answers (before ++ after) = l.answers before ++ (l.run before).answers after := by
  induction before generalizing l with
  | nil => rfl
  | cons c before ih =>
    rw [List.cons_append, answers, ih, answers, List.cons_append]
    rfl

theorem length_answers (l : Linter) (calls : List Call) :
    (l.answers calls).length = calls.length := by
  induction calls generalizing l with
  | nil => rfl
  | cons c calls ih => rw [answers, List.length_cons, ih, List.length_cons]

theorem has_eq_true_iff_exists (l : Linter) (name : String) :
    l.has name = true ↔ ∃ rule ∈ l.rules, rule.name = name := by
  simp [has]

/-- There is a rule to drop exactly if dropping leaves fewer rules. -/
theorem has_eq_true_iff_length_ne (l : Linter) (name : String) :
    l.has name = true ↔ (l.disable name).rules.length ≠ l.rules.length := by
  rw [disable, ne_eq, List.length_filter_eq_length_iff, has_eq_true_iff_exists]
  simp

/-! ### Settings -/

theorem names_disable (l : Linter) (name : String) :
    (l.disable name).names = l.names.filter (· != name) := by
  rw [names, names, disable, List.filter_map]
  rfl

theorem has_eq_true_iff_mem_names (l : Linter) (name : String) :
    l.has name = true ↔ name ∈ l.names := by
  rw [has_eq_true_iff_exists, names, List.mem_map]

/-- A name is warned of where there is no rule of it, or none any more. -/
theorem events_silence (l : Linter) (disabled : List String) :
    (Context.silence l disabled).2 =
      (disabled.zipIdx.filter fun entry =>
        entry.1 ∉ l.names ∨ entry.1 ∈ disabled.take entry.2).map fun entry =>
          ignoringEvent entry.1 := by
  induction disabled generalizing l with
  | nil => rfl
  | cons name disabled ih =>
    -- for the names that follow, a rule that was dropped here counts as unknown
    have hrest : ∀ entry ∈ disabled.zipIdx,
        decide (entry.1 ∉ l.names ∨ entry.1 ∈ (name :: disabled).take (entry.2 + 1)) =
          decide (entry.1 ∉ (l.disable name).names ∨ entry.1 ∈ disabled.take entry.2) := by
      intro entry _
      rw [decide_eq_decide, names_disable, List.take_succ_cons, List.mem_cons, List.mem_filter,
        bne_iff_ne]
      tauto
    have hmoved : ((disabled.zipIdx 1).filter fun entry =>
        entry.1 ∉ l.names ∨ entry.1 ∈ (name :: disabled).take entry.2).map
          (fun entry => ignoringEvent entry.1) = (Context.silence (l.disable name) disabled).2 := by
      rw [ih, List.zipIdx_succ, List.filter_map, List.map_map]
      exact congrArg _ (List.filter_congr hrest)
    rw [Context.silence, List.zipIdx_cons, List.filter_cons]
    by_cases hname : name ∈ l.names
    · have hhas : l.has name = true := (has_eq_true_iff_mem_names l name).mpr hname
      simpa [hname, hhas] using hmoved.symm
    · have hhas : l.has name = false := by
        rwa [← Bool.not_eq_true, has_eq_true_iff_mem_names]
      simpa [hname, hhas] using hmoved.symm

theorem events_build (settings : Settings) (settingsPath : String)
    (h : settings.format.default ∈ ["zsh", "bash"]) :
    (Context.build settings settingsPath).2 =
      Registry.builtIn.map registeringEvent ++ (Context.silence .initial settings.lint.disabled).2 := by
  rw [Context.build]
  dsimp only
  rw [Registry.setDefault_of_mem h]

/-! ### Answers -/

/-- **What a linter does after any calls.**  Its rules are, in order, those that it
had and those that were added, where no later call drops their name; what it
finds is what they find, rule by rule.  A call to disable a name is answered with
true exactly if such a rule of that name was there, which is if there are fewer
rules afterwards.  So settings, whatever names they disable, leave the built-in
rules that they do not name; and they are warned of each position of their list
with a name that no built-in rule has or that the list has before. -/
theorem rules_of_calls (start : Linter) (calls : List Call) :
    (start.run calls).rules = kept (start.rules.map .add ++ calls) ∧
    (∀ c, (start.run calls).lint c =
      (kept (start.rules.map .add ++ calls)).flatMap (·.check c)) ∧
    (∀ before name after, calls = before ++ .disable name :: after →
      ∃ dropped, (start.answers calls)[before.length]? = some (some dropped) ∧
        (dropped = true ↔
          ∃ rule ∈ kept (start.rules.map .add ++ before), rule.name = name) ∧
        (dropped = true ↔
          ((start.run before).disable name).rules.length ≠ (start.run before).rules.length)) ∧
    ∀ (settings : Settings) (settingsPath : String), settings.format.default ∈ ["zsh", "bash"] →
      ∃ ctx, (Context.build settings settingsPath).1 = .ok ctx ∧
        ctx.linter.rules = Rule.builtIn.filter (·.name ∉ settings.lint.disabled) ∧
        (Context.build settings settingsPath).2 = Registry.builtIn.map registeringEvent ++
          (settings.lint.disabled.zipIdx.filter fun entry =>
            entry.1 ∉ Rule.builtIn.map Rule.name ∨
              entry.1 ∈ settings.lint.disabled.take entry.2).map fun entry =>
                ⟨.warn, "shelledit::cli::context", "ignoring unknown lint rule in settings",
                  [("rule", .bare entry.1)]⟩ := by
  refine ⟨rules_run start calls, ?_, ?_, ?_⟩
  · intro c
    rw [lint, rules_run]
  · rintro before name after rfl
    refine ⟨(start.run before).has name, ?_, ?_, has_eq_true_iff_length_ne _ name⟩
    · rw [answers_append, List.getElem?_append_right (length_answers start before).le,
        length_answers, Nat.sub_self]
      rfl
    · rw [has_eq_true_iff_exists, rules_run]
  · intro settings settingsPath hdefault
    refine ⟨Context.chosen settings settingsPath, Context.build_of_mem hdefault,
      rules_silence .initial settings.lint.disabled, ?_⟩
    rw [events_build settings settingsPath hdefault, events_silence]
    rfl

/-- A rule takes the name of a built-in one, is dropped with it, and is added once
more; settings name a rule twice and one that there is none of. -/
theorem rules_of_calls_sample :
    let mine : Rule := .always ⟨"duplicate-env", "mine", .info, none, none⟩
    let calls : List Call := [.add mine, .disable "duplicate-env", .disable "nope", .add mine]
    let settings : Settings := { lint := { disabled := ["empty-value", "nope", "empty-value"] } }
    (initial.run calls).rules =
      [Rule.contradictoryEnv, Rule.duplicatePath, Rule.emptyValue, mine] ∧
    (initial.answers calls)[1]? = some (some true) ∧
    settings.format.default ∈ ["zsh", "bash"] ∧
    ∃ ctx, (Context.build settings "s").1 = .ok ctx ∧
      ctx.linter.rules = [Rule.duplicateEnv, Rule.contradictoryEnv, Rule.duplicatePath] ∧
      (Context.build settings "s").2 = Registry.builtIn.map registeringEvent ++
        [⟨.warn, "shelledit::cli::context", "ignoring unknown lint rule in settings",
            [("rule", .bare "nope")]⟩,
          ⟨.warn, "shelledit::cli::context", "ignoring unknown lint rule in settings",
            [("rule", .bare "empty-value")]⟩] := by
  intro mine calls settings
  obtain ⟨hrules, -, hanswers, hsettings⟩ := rules_of_calls initial calls
  obtain ⟨dropped, hdropped, hiff, -⟩ :=
    hanswers [.add mine] "duplicate-env" [.disable "nope", .add mine] rfl
  have htrue : dropped = true := hiff.mpr ⟨mine, by simp [kept_concat_add], rfl⟩
  have hdefault : settings.format.default ∈ ["zsh", "bash"] := by decide
  obtain ⟨ctx, hbuild, hleft, hlog⟩ := hsettings settings "s" hdefault
  exact ⟨hrules, htrue ▸ hdropped, hdefault, ctx, hbuild, hleft, hlog⟩

end Dotfile.Lint.Linter

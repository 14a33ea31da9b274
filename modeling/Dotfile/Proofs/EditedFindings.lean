/-
How edits move what is found.

An edit of one name or directory must not reorder, create or lose findings about
another.  What there is besides one name is what there is once the name is
removed, so it is enough to know what a removal does to the findings.

* `groupFindings_filter_ne` (with the reports) — a removal takes away what is
  found about one name, and nothing else;
* `Config.removeEnv_setEnv` — once a variable is removed, it does not show that
  it was set before;
* `Config.repetitions_setEnv` — setting a variable makes no repetition;
* `findings_of_edits` — what each edit does to the findings of each rule.
-/
import Dotfile.Proofs.Reports

namespace Dotfile

open Lint

namespace Lint

/-- The findings that are not about `subject`. -/
def others (subject : String) (fs : List Finding) : List Finding :=
  fs.filter fun f => f.subject != subject

theorem repetitions_filter_ne {α : Type} (origin : α → Origin)
    (report : String → List (Option Nat) → Diagnostic) (items : List α) (subject : String) :
    repetitions report ((items.filter fun a => (origin a).subject != subject).map origin) =
      others subject (repetitions report (items.map origin)) := by
  have horigins : (items.filter fun a => (origin a).subject != subject).map origin =
      (items.map origin).filter fun o => o.subject != subject := by
    rw [List.filter_map]
    rfl
  rw [horigins]
  exact groupFindings_filter_ne _ _ _ _ _

/-- A single entry for something new is no repetition. -/
theorem repetitions_concat {os : List Origin} {o : Origin}
    (h : ∀ o' ∈ os, o'.subject ≠ o.subject)
    (report : String → List (Option Nat) → Diagnostic) :
    repetitions report (os ++ [o]) = repetitions report os := by
  have hrest : ((os ++ [o]).filter fun o' => o'.subject != o.subject) = os := by
    have hos : (os.filter fun o' => o'.subject != o.subject) = os :=
      List.filter_eq_self.mpr fun o' ho' => bne_iff_ne.mpr (h o' ho')
    rw [List.filter_append, hos]
    simp
  have hgroup : withKey Origin.subject (os ++ [o]) o.subject = [o] := by
    have hos : withKey Origin.subject os o.subject = [] :=
      List.filter_eq_nil_iff.mpr fun o' ho' => by simpa using h o' ho'
    rw [withKey, List.filter_append, ← withKey, hos]
    simp
  -- nothing is found about the new entry, so it can as well be taken away
  calc repetitions report (os ++ [o])
      = others o.subject (repetitions report (os ++ [o])) := by
        refine (groupFindings_filter_of_not _ _ _ ?_).symm
        rw [hgroup]
        rfl
    _ = repetitions report ((os ++ [o]).filter fun o' => o'.subject != o.subject) :=
        (groupFindings_filter_ne _ _ _ _ _).symm
    _ = repetitions report os := by rw [hrest]

end Lint

namespace Config

variable (c : Config) (name value source dir : String) (position : Position)

/-! ### Removals -/

theorem repetitions_removeEnv :
    (c.removeEnv name).repetitions = others name c.repetitions :=
  repetitions_filter_ne EnvVar.origin envRepetition c.envVars name

theorem contradictions_removeEnv :
    (c.removeEnv name).contradictions = others name c.contradictions :=
  groupFindings_filter_ne _ _ _ _ _

theorem emptyValues_removeEnv :
    (c.removeEnv name).emptyValues = others name c.emptyValues := by
  rw [emptyValues, emptyValues, others, List.filter_map, removeEnv]
  dsimp only
  rw [List.filter_comm]
  rfl

theorem pathRepetitions_removePath :
    (c.removePath dir).pathRepetitions = others dir c.pathRepetitions :=
  repetitions_filter_ne PathEntry.origin pathRepetition c.pathEntries dir

/-! ### Changes in place -/

theorem removeEnv_setEnv : (c.setEnv name value source).removeEnv name = c.removeEnv name := by
  obtain ⟨before, v, behind, hvars, rfl, -, heq⟩ | ⟨-, heq⟩ := c.setEnv_cases name value source
  · rw [heq, removeEnv, removeEnv, hvars]
    simp
  · rw [heq, removeEnv, removeEnv]
    simp

theorem repetitions_setEnv : (c.setEnv name value source).repetitions = c.repetitions := by
  rw [repetitions, origins_envVars_setEnv, Edit.newVars]
  split
  · rw [List.append_nil]
    rfl
  · rename_i hname
    refine repetitions_concat ?_ envRepetition
    intro o ho hsubject
    obtain ⟨v, hv, rfl⟩ := List.mem_map.mp ho
    exact hname (List.mem_map.mpr ⟨v, hv, hsubject⟩)

theorem contradictions_setEnv :
    others name (c.setEnv name value source).contradictions = others name c.contradictions := by
  rw [← contradictions_removeEnv, removeEnv_setEnv, contradictions_removeEnv]

theorem emptyValues_setEnv :
    others name (c.setEnv name value source).emptyValues = others name c.emptyValues := by
  rw [← emptyValues_removeEnv, removeEnv_setEnv, emptyValues_removeEnv]

theorem pathRepetitions_movePath :
    (c.movePath dir position).pathRepetitions = c.pathRepetitions := by
  rw [pathRepetitions, origins_pathEntries_movePath, pathRepetitions]

end Config

/-- **How edits move the findings.**  The findings of each rule are told with the
names and directories that they are about.

* Setting a variable leaves what is found of repetitions as it was, and changes
  what is found of contradictions and of empty values for this variable only.
* Removing a variable deletes what was found about it; all else stays as it was
  and in its order.  Nothing changes for directories.
* Removing a directory does the same for what was found about the directory, and
  changes nothing for variables.
* Moving a directory changes nothing. -/
theorem findings_of_edits (c : Config) (name value source dir : String) (position : Position) :
    let set := c.setEnv name value source
    let unset := c.removeEnv name
    let removed := c.removePath dir
    let moved := c.movePath dir position
    (∀ d : Config,
      Rule.duplicateEnv.check d = d.repetitions.map Finding.diagnostic ∧
      Rule.contradictoryEnv.check d = d.contradictions.map Finding.diagnostic ∧
      Rule.duplicatePath.check d = d.pathRepetitions.map Finding.diagnostic ∧
      Rule.emptyValue.check d = d.emptyValues.map Finding.diagnostic) ∧
    (Rule.duplicateEnv.check set = Rule.duplicateEnv.check c ∧
      Rule.duplicatePath.check set = Rule.duplicatePath.check c ∧
      others name set.contradictions = others name c.contradictions ∧
      others name set.emptyValues = others name c.emptyValues) ∧
    (unset.repetitions = others name c.repetitions ∧
      unset.contradictions = others name c.contradictions ∧
      unset.emptyValues = others name c.emptyValues ∧
      Rule.duplicatePath.check unset = Rule.duplicatePath.check c) ∧
    (removed.pathRepetitions = others dir c.pathRepetitions ∧
      Rule.duplicateEnv.check removed = Rule.duplicateEnv.check c ∧
      Rule.contradictoryEnv.check removed = Rule.contradictoryEnv.check c ∧
      Rule.emptyValue.check removed = Rule.emptyValue.check c) ∧
    Linter.initial.lint moved = Linter.initial.lint c := by
  intro set unset removed moved
  refine ⟨?_, ⟨?_, rfl, c.contradictions_setEnv name value source,
    c.emptyValues_setEnv name value source⟩, ⟨c.repetitions_removeEnv name,
    c.contradictions_removeEnv name, c.emptyValues_removeEnv name, rfl⟩,
    ⟨c.pathRepetitions_removePath dir, rfl, rfl, rfl⟩, ?_⟩
  · intro d
    exact ⟨d.check_duplicateEnv, d.check_contradictoryEnv, d.check_duplicatePath,
      d.check_emptyValue⟩
  · rw [Config.check_duplicateEnv, Config.repetitions_setEnv, Config.check_duplicateEnv]
  · -- the variables are the same, and of the directories only the positions are not
    have hfindings : moved.findings = c.findings := by
      rw [Config.findings, c.pathRepetitions_movePath dir position]
      rfl
    rw [Config.lint_initial, hfindings, Config.lint_initial]

end Dotfile

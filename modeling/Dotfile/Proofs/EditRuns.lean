/-
Runs of edits, saved after each edit or only at the end.

The outline of a configuration is what a save keeps of it: names and values,
directories, and the kept lines that are not empty.  Two runs of the same edits
are compared by their outlines, since a save also adds empty lines, numbers the
lines again and calls every entry one of the file.

* `outline_apply` — what an edit does to the outline depends on the outline
  alone;
* `Representable.apply`, `Representable.parse_render` — a representable
  configuration stays so under a lasting edit and under a save;
* `outline_parse_render` — a save keeps the outline of a representable
  configuration;
* `outline_editSaving_parse` — saving after each edit leads to the same outline
  as making all edits first.
-/
import Dotfile.Proofs.EnvEdit
import Dotfile.Proofs.PathEdit

namespace Dotfile

open Text Line

/-! ### Outlines -/

/-- What a save keeps of a configuration. -/
structure Outline where
  bindings : List (String × String)
  directories : List (String × Position)
  /-- The kept lines that are not empty. -/
  texts : List String
  deriving DecidableEq

namespace Outline

/-- An edit, as far as it is seen in the outline. -/
def edit (o : Outline) : Edit → Outline
  | .setEnv name value _ =>
    { o with
      bindings := (modifyLast? (·.1 == name) (fun b => (b.1, value)) o.bindings).getD
        (o.bindings ++ [(name, value)]) }
  | .removeEnv name => { o with bindings := o.bindings.filter (·.1 != name) }
  | .addPath dir position _ => { o with directories := o.directories ++ [(dir, position)] }
  | .removePath dir => { o with directories := o.directories.filter (·.1 != dir) }
  | .movePath dir position =>
    { o with
      directories := o.directories.map fun d => if d.1 == dir then (d.1, position) else d }

end Outline

/-- Is an edit one whose effect can be written and read back? -/
def Edit.Lasting : Edit → Prop
  | setEnv name value _ => Assignable name value ∧ isBareQuoted value = false
  | removeEnv _ => True
  | addPath dir position _ => Addable dir position
  | removePath _ => True
  | movePath dir position => position = .append → ¬ EndsInReference dir.toList

namespace Config

variable {c : Config}

def outline (c : Config) : Outline :=
  ⟨c.bindings, c.directories, c.contents.filter (· ≠ "")⟩

theorem outline_apply (c : Config) (e : Edit) : (e.apply c).outline = c.outline.edit e := by
  cases e with
  | setEnv name value source => rw [Edit.apply, outline, bindings_setEnv]; rfl
  | removeEnv name => rw [Edit.apply, outline, bindings_removeEnv]; rfl
  | addPath dir position source => rw [Edit.apply, outline, directories_addPath]; rfl
  | removePath dir => rw [Edit.apply, outline, directories_removePath]; rfl
  | movePath dir position => rw [Edit.apply, outline, directories_movePath]; rfl

theorem outline_run (c : Config) (edits : List Edit) :
    (Edit.run c edits).outline = edits.foldl Outline.edit c.outline := by
  induction edits generalizing c with
  | nil => rfl
  | cons e edits ih =>
    rw [List.foldl_cons, ← outline_apply]
    exact ih (e.apply c)

/-! ### One edit -/

theorem Representable.apply (h : c.Representable) {e : Edit} (he : e.Lasting) :
    (e.apply c).Representable := by
  have hwf := h.toWellFormed
  cases e with
  | setEnv name value source =>
    refine ⟨setEnv_wellFormed hwf he.1 source, ?_⟩
    intro v hv
    rcases mem_envVars_setEnv hv with hv | ⟨-, rfl⟩
    · exact h.not_isBareQuoted v hv
    · exact he.2
  | removeEnv name =>
    refine ⟨removeEnv_wellFormed hwf name, ?_⟩
    intro v hv
    exact h.not_isBareQuoted v (List.mem_filter.mp hv).1
  | addPath dir position source =>
    exact ⟨⟨h.env, (addable_addPath_iff hwf dir position source).mpr he, h.raw⟩,
      h.not_isBareQuoted⟩
  | removePath dir => exact ⟨⟨h.env, addable_removePath hwf dir, h.raw⟩, h.not_isBareQuoted⟩
  | movePath dir position =>
    exact ⟨⟨h.env, (addable_movePath_iff hwf dir position).mpr fun _ => he, h.raw⟩,
      h.not_isBareQuoted⟩

theorem run_representable (h : c.Representable) {edits : List Edit}
    (hedits : ∀ e ∈ edits, e.Lasting) : (Edit.run c edits).Representable := by
  induction edits generalizing c with
  | nil => exact h
  | cons e edits ih =>
    obtain ⟨he, hedits⟩ := List.forall_mem_cons.mp hedits
    exact ih (h.apply he) hedits

/-! ### One save -/

theorem Representable.bindings_parse_render (h : c.Representable) (ref : PathRef)
    (source : String) : (parse (c.render ref) source).bindings = c.bindings := by
  rw [Config.bindings_parse_render h.toWellFormed]
  exact (map_peel_bindings_eq_iff c).mpr h.not_isBareQuoted

theorem forall_not_isBareQuoted_iff (c : Config) :
    (∀ v ∈ c.envVars, isBareQuoted v.value = false) ↔
      ∀ b ∈ c.bindings, isBareQuoted b.2 = false := by
  rw [bindings, List.forall_mem_map]

theorem Representable.parse_render (h : c.Representable) (ref : PathRef) (source : String) :
    (parse (c.render ref) source).Representable := by
  refine ⟨parse_wellFormed _ _, ?_⟩
  rw [forall_not_isBareQuoted_iff, h.bindings_parse_render, ← forall_not_isBareQuoted_iff]
  exact h.not_isBareQuoted

theorem outline_parse_render (h : c.Representable) (ref : PathRef) (source : String) :
    (parse (c.render ref) source).outline = c.outline := by
  rw [outline, outline, h.bindings_parse_render, directories_parse_render h.toWellFormed,
    contents_parse_render h.toWellFormed]
  simp [List.filter_append]

/-! ### Runs -/

/-- Makes edits one after the other, and writes and reads the configuration
after each, in the dialect and as content of the file given with the edit. -/
def editSaving (c : Config) (steps : List (Edit × PathRef × String)) : Config :=
  steps.foldl (fun c (e, ref, source) => parse ((e.apply c).render ref) source) c

theorem editSaving_cons (c : Config) (e : Edit) (ref : PathRef) (source : String)
    (steps : List (Edit × PathRef × String)) :
    c.editSaving ((e, ref, source) :: steps) =
      (parse ((e.apply c).render ref) source).editSaving steps := by
  rw [editSaving, List.foldl_cons, editSaving]

theorem outline_editSaving (h : c.Representable) {steps : List (Edit × PathRef × String)}
    (hsteps : ∀ step ∈ steps, step.1.Lasting) :
    (c.editSaving steps).outline = (steps.map Prod.fst).foldl Outline.edit c.outline := by
  induction steps generalizing c with
  | nil => rfl
  | cons step steps ih =>
    obtain ⟨e, ref, source⟩ := step
    obtain ⟨he, hsteps⟩ := List.forall_mem_cons.mp hsteps
    -- the edit leaves a representable configuration, so the save does not show
    have hedited := h.apply he
    rw [editSaving_cons, ih (hedited.parse_render ref source) hsteps,
      outline_parse_render hedited, outline_apply, List.map_cons, List.foldl_cons]

/-- **Saving after each edit agrees with saving once**, and with not saving at
all, in what a save keeps. -/
theorem outline_editSaving_parse (text source : String) (steps : List (Edit × PathRef × String))
    (htext : ∀ v ∈ (parse text source).envVars, isBareQuoted v.value = false)
    (hsteps : ∀ step ∈ steps, step.1.Lasting) :
    let edited := Edit.run (parse text source) (steps.map Prod.fst)
    ((parse text source).editSaving steps).outline = edited.outline ∧
      ∀ ref source', ((parse text source).editSaving steps).outline =
        (parse (edited.render ref) source').outline := by
  intro edited
  have h : (parse text source).Representable := ⟨parse_wellFormed text source, htext⟩
  have hedited : edited.Representable := by
    apply run_representable h
    rw [List.forall_mem_map]
    exact hsteps
  have heach : ((parse text source).editSaving steps).outline = edited.outline := by
    rw [outline_editSaving h hsteps, outline_run]
  refine ⟨heach, ?_⟩
  intro ref source'
  rw [heach, outline_parse_render hedited]

/-- Edits of both kinds, saved in both dialects: the variable is set before it
is removed and set again, and the directory is moved. -/
theorem outline_editSaving_parse_sample :
    let text := "A=1\nPATH=/x:$PATH\n\n# note"
    let steps : List (Edit × PathRef × String) :=
      [(.setEnv "A" "it's", .bare, "f"), (.movePath "/x" .append, .braced, "g"),
       (.removeEnv "A", .bare, "f"), (.setEnv "A" "", .braced, "f")]
    (∀ v ∈ (parse text "f").envVars, isBareQuoted v.value = false) ∧
      (∀ step ∈ steps, step.1.Lasting) ∧
      ((parse text "f").editSaving steps).outline =
        ⟨[("A", "")], [("/x", .append)], ["# note"]⟩ := by
  intro text steps
  have htext : ∀ v ∈ (parse text "f").envVars, isBareQuoted v.value = false := by decide +kernel
  have hA : ∀ value : String, '\n' ∉ value.toList → Assignable "A" value :=
    fun value h => ⟨by decide, by decide, h⟩
  have hsteps : ∀ step ∈ steps, step.1.Lasting := by
    simp only [steps, List.forall_mem_cons]
    refine ⟨⟨hA _ (by decide), by decide⟩, ?_, trivial, ⟨hA _ (by decide), by decide⟩, by simp⟩
    rintro - ⟨ref, href, heq⟩
    revert ref
    decide
  refine ⟨htext, hsteps, ?_⟩
  rw [(outline_editSaving_parse text "f" steps htext hsteps).1]
  decide +kernel

end Config

end Dotfile

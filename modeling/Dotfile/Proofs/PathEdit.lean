/-
Adding, removing and moving directories, and finding them again in the saved file.

* `directories_parse_render_iff` — in a configuration whose other entries are
  well-formed, the directories come back exactly if a line can add each of them;
* `directories_addPath`, `directories_removePath`, `directories_movePath` —
  what the edits of PATH do to the directories, seen without their lines;
* `directories_editPath_parse_render` — which edits of PATH are found again in
  the file that is saved: all that remove or move to the front, and of the
  others those with a directory that a line can put there.

A directory that was read from a file can be put before the old value of PATH
again.  It cannot always be put after it: in `PATH=/a:$PATH:$PATH` the directory
is `/a:$PATH`, and moved to the end it would be read as one that is put before.
-/
import Dotfile.Config.Edit
import Dotfile.Proofs.RoundTrip

namespace Dotfile

open Text Line

/-- Is an edit one of PATH? -/
def Edit.editsPath : Edit → Bool
  | setEnv .. | removeEnv _ => false
  | addPath .. | removePath _ | movePath .. => true

namespace Config

variable {c : Config}

/-! ### What the edits do -/

theorem envVars_apply_of_editsPath (c : Config) {e : Edit} (he : e.editsPath = true) :
    (e.apply c).envVars = c.envVars := by
  cases e with
  | setEnv name value source => exact absurd he (by simp [Edit.editsPath])
  | removeEnv name => exact absurd he (by simp [Edit.editsPath])
  | addPath dir position source => rfl
  | removePath dir => rfl
  | movePath dir position => rfl

theorem rawLines_apply (c : Config) (e : Edit) : (e.apply c).rawLines = c.rawLines := by
  cases e <;> rfl

theorem directories_addPath (c : Config) (dir : String) (position : Position) (source : String) :
    (c.addPath dir position source).directories = c.directories ++ [(dir, position)] := by
  rw [directories, addPath, List.map_append]
  rfl

theorem directories_removePath (c : Config) (dir : String) :
    (c.removePath dir).directories = c.directories.filter (·.1 != dir) := by
  rw [directories, directories, List.filter_map]
  rfl

theorem directories_movePath (c : Config) (dir : String) (position : Position) :
    (c.movePath dir position).directories =
      c.directories.map fun d => if d.1 == dir then (d.1, position) else d := by
  rw [directories, directories, movePath, List.map_map, List.map_map]
  apply List.map_congr_left
  intro e _
  by_cases h : e.path = dir
  · simp [h]
  · simp [h]

/-! ### Directories that a line can add -/

theorem forall_addable_iff (c : Config) :
    (∀ e ∈ c.pathEntries, Addable e.path e.position) ↔ ∀ d ∈ c.directories, Addable d.1 d.2 := by
  rw [directories, List.forall_mem_map]

theorem directories_parse_render_iff (henv : ∀ v ∈ c.envVars, Assignable v.name v.value)
    (hraw : ∀ l ∈ c.rawLines, Keepable l.content) (ref : PathRef) (source : String) :
    (parse (c.render ref) source).directories = c.directories ↔
      ∀ e ∈ c.pathEntries, Addable e.path e.position := by
  constructor
  · intro h
    -- what came back was read from a file
    rw [forall_addable_iff, ← h, ← forall_addable_iff]
    exact (parse_wellFormed (c.render ref) source).path
  · intro hpath
    exact directories_parse_render ⟨henv, hpath, hraw⟩ ref source

theorem addable_addPath_iff (h : c.WellFormed) (dir : String) (position : Position)
    (source : String) :
    (∀ e ∈ (c.addPath dir position source).pathEntries, Addable e.path e.position) ↔
      Addable dir position := by
  rw [addPath, List.forall_mem_append, List.forall_mem_singleton]
  exact and_iff_right h.path

theorem addable_removePath (h : c.WellFormed) (dir : String) :
    ∀ e ∈ (c.removePath dir).pathEntries, Addable e.path e.position := by
  intro e he
  exact h.path e (List.mem_filter.mp he).1

theorem addable_movePath_iff (h : c.WellFormed) (dir : String) (position : Position) :
    (∀ e ∈ (c.movePath dir position).pathEntries, Addable e.path e.position) ↔
      (c.hasPath dir = true → position = .append → ¬ EndsInReference dir.toList) := by
  rw [movePath, List.forall_mem_map]
  constructor
  · intro hall hhas
    obtain ⟨e, he, hdir⟩ := List.any_eq_true.mp hhas
    have hmoved := hall e he
    rw [if_pos hdir] at hmoved
    rw [← beq_iff_eq.mp hdir]
    exact hmoved.not_endsInReference
  · intro hmove e he
    -- an entry that is moved was read, so only its new place can be in the way
    split
    · rename_i hdir
      have hhas : c.hasPath dir = true := List.any_eq_true.mpr ⟨e, he, hdir⟩
      have hadd := h.path e he
      refine ⟨hadd.ne_empty, hadd.newline_not_mem, ?_⟩
      rw [beq_iff_eq.mp hdir]
      exact hmove hhas
    · exact h.path e he

/-! ### Saved files -/

/-- **Editing PATH in a file and looking there again.**  The directories are
those of the edited configuration exactly if a line can add each of them.  So
a removal is always found, and so is a move to the front; an added directory is
found exactly if a line can add it, and a directory that is moved to the end
exactly if it does not end in a reference. -/
theorem directories_editPath_parse_render (text source : String) (ref : PathRef)
    (source' : String) :
    let c := parse text source
    let saved := fun c' : Config => (parse (c'.render ref) source').directories
    (∀ e : Edit, e.editsPath = true → (saved (e.apply c) = (e.apply c).directories ↔
      ∀ p ∈ (e.apply c).pathEntries, Addable p.path p.position)) ∧
    ∀ dir : String,
      saved (c.removePath dir) = c.directories.filter (·.1 != dir) ∧
      saved (c.movePath dir .prepend) =
        c.directories.map (fun d => if d.1 == dir then (d.1, .prepend) else d) ∧
      (saved (c.movePath dir .append) =
          c.directories.map (fun d => if d.1 == dir then (d.1, .append) else d) ↔
        (c.hasPath dir = true → ¬ EndsInReference dir.toList)) ∧
      ∀ (position : Position) (agent : String),
        (saved (c.addPath dir position agent) = c.directories ++ [(dir, position)] ↔
          Addable dir position) := by
  intro c saved
  have hwf : c.WellFormed := parse_wellFormed text source
  have hedit : ∀ e : Edit, e.editsPath = true → (saved (e.apply c) = (e.apply c).directories ↔
      ∀ p ∈ (e.apply c).pathEntries, Addable p.path p.position) := by
    intro e he
    apply directories_parse_render_iff
    · rw [envVars_apply_of_editsPath c he]
      exact hwf.env
    · rw [rawLines_apply]
      exact hwf.raw
  refine ⟨hedit, fun dir => ⟨?_, ?_, ?_, fun position agent => ?_⟩⟩
  · rw [← directories_removePath]
    exact (hedit (.removePath dir) rfl).mpr (addable_removePath hwf dir)
  · rw [← directories_movePath]
    apply (hedit (.movePath dir .prepend) rfl).mpr
    exact (addable_movePath_iff hwf dir .prepend).mpr (by simp)
  · rw [← directories_movePath]
    apply (hedit (.movePath dir .append) rfl).trans
    rw [Edit.apply, addable_movePath_iff hwf dir .append]
    simp
  · rw [← directories_addPath c dir position agent]
    apply (hedit (.addPath dir position agent) rfl).trans
    exact addable_addPath_iff hwf dir position agent

/-- A directory that ends in a reference can be read, and is not found again
when it is moved to the end. -/
theorem directories_editPath_parse_render_misread :
    let c := parse "PATH=/a:$PATH:$PATH" "f"
    let e := Edit.movePath "/a:$PATH" .append
    e.editsPath = true ∧ c.directories = [("/a:$PATH", .prepend)] ∧
      (e.apply c).directories = [("/a:$PATH", .append)] ∧
      (parse ((e.apply c).render .bare) "f").directories ≠ (e.apply c).directories := by
  intro c e
  refine ⟨rfl, by decide +kernel, by decide +kernel, ?_⟩
  intro h
  have hadd := ((directories_editPath_parse_render "PATH=/a:$PATH:$PATH" "f" .bare "f").1 e rfl).mp h
  have hmem : (⟨"/a:$PATH", .append, some 1, "f"⟩ : PathEntry) ∈ (e.apply c).pathEntries := by
    decide +kernel
  exact (hadd _ hmem).not_endsInReference rfl
    ⟨['$', 'P', 'A', 'T', 'H'], by decide, .inr ⟨['/', 'a'], rfl⟩⟩

end Config

end Dotfile

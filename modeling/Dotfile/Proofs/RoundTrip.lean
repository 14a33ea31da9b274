/-
Writing a configuration and reading it back.

* `bindings_parse_render`, `directories_parse_render`, `contents_parse_render` —
  what comes back of a well-formed configuration: names, directories and kept
  lines, with the values peeled and with empty lines around the kept lines;
* `parse_render_iff_representable` — a configuration comes back exactly if it
  is representable;
* `parse_zsh_format_iff` — what was read from a file comes back exactly if no
  value in it is peeled; `single_quotes_lost` is a file where one is.

For the first direction of the second statement every line has to be followed
through the writer and the reader.  The other direction needs no line: what
comes back was read from a file, so it is well-formed, whatever was written.
-/
import Dotfile.Proofs.Writing
import Dotfile.Registry
import Mathlib.Data.List.Basic

namespace Dotfile.Config

open Text Line

variable {c : Config}

/-! ### What comes back -/

theorem bindings_parse_render (h : c.WellFormed) (ref : PathRef) (source : String) :
    (parse (c.render ref) source).bindings = c.bindings.map fun b => (b.1, peel b.2) := by
  obtain ⟨a, b, -, hread⟩ := readings_render h
  rw [parse_eq_ofReadings, bindings_ofReadings, hread ref]
  simp [bindings, Function.comp_def, Reading.binding?, List.filterMap_replicate]

theorem directories_parse_render (h : c.WellFormed) (ref : PathRef) (source : String) :
    (parse (c.render ref) source).directories = c.directories := by
  obtain ⟨a, b, -, hread⟩ := readings_render h
  rw [parse_eq_ofReadings, directories_ofReadings, hread ref]
  simp [directories, Function.comp_def, Reading.directory?, List.filterMap_replicate]

theorem contents_parse_render (h : c.WellFormed) (ref : PathRef) (source : String) :
    (parse (c.render ref) source).contents =
      List.replicate c.separators "" ++ c.contents ++ [""] := by
  obtain ⟨a, b, hab, hread⟩ := readings_render h
  rw [parse_eq_ofReadings, contents_ofReadings, hread ref, ← hab,
    ← List.replicate_append_replicate]
  simp [contents, Function.comp_def, Reading.content?, List.filterMap_replicate,
    -List.replicate_append_replicate]

/-! ### What comes back unchanged -/

/-- Is each entry of `c` one that a line can say, and no value one that is peeled? -/
structure Representable (c : Config) : Prop extends WellFormed c where
  not_isBareQuoted : ∀ v ∈ c.envVars, isBareQuoted v.value = false

theorem map_peel_bindings_eq_iff (c : Config) :
    c.bindings.map (fun b => (b.1, peel b.2)) = c.bindings ↔
      ∀ v ∈ c.envVars, isBareQuoted v.value = false := by
  rw [bindings, List.map_map, List.map_inj_left]
  constructor
  · intro h v hv
    exact (peel_eq_self_iff v.value).mp (Prod.mk.inj (h v hv)).2
  · intro h v hv
    rw [Function.comp_apply, (peel_eq_self_iff v.value).mpr (h v hv)]

/-- **A configuration comes back exactly if it is representable.** -/
theorem parse_render_iff_representable (c : Config) (ref : PathRef) (source : String) :
    ((parse (c.render ref) source).bindings = c.bindings ∧
      (parse (c.render ref) source).directories = c.directories ∧
      (parse (c.render ref) source).contents =
        List.replicate c.separators "" ++ c.contents ++ [""]) ↔
    c.Representable := by
  constructor
  · rintro ⟨hb, hd, hc⟩
    -- each entry of `c` is found among those that were read
    have hread := (wellFormed_iff _).mp (parse_wellFormed (c.render ref) source)
    rw [hb, hd, hc] at hread
    have hwf : c.WellFormed :=
      (wellFormed_iff c).mpr ⟨hread.1, hread.2.1, fun s hs => hread.2.2 s (by simp [hs])⟩
    rw [bindings_parse_render hwf] at hb
    exact ⟨hwf, (map_peel_bindings_eq_iff c).mp hb⟩
  · intro h
    have hwf := h.toWellFormed
    refine ⟨?_, directories_parse_render hwf ref source, contents_parse_render hwf ref source⟩
    rw [bindings_parse_render hwf]
    exact (map_peel_bindings_eq_iff c).mpr h.not_isBareQuoted

/-- **What was read from a file comes back exactly if no value is peeled.** -/
theorem parse_zsh_format_iff (text source source' : String) :
    ((parse (Shell.zsh.formatter.format (parse text source)) source').bindings =
        (parse text source).bindings ∧
      (parse (Shell.zsh.formatter.format (parse text source)) source').directories =
        (parse text source).directories) ↔
    ∀ v ∈ (parse text source).envVars, isBareQuoted v.value = false := by
  have hwf := parse_wellFormed text source
  show ((parse ((parse text source).render .bare) source').bindings = _ ∧ _) ↔ _
  rw [bindings_parse_render hwf, map_peel_bindings_eq_iff]
  constructor
  · exact And.left
  · exact fun h => ⟨h, directories_parse_render hwf .bare source'⟩

/-- A value enclosed by double and then by single quotes loses both. -/
theorem single_quotes_lost :
    let c := parse "export A=\"'x'\"" "f"
    let c' := parse (Shell.zsh.formatter.format c) "f"
    c.bindings = [("A", "'x'")] ∧ c'.bindings = [("A", "x")] ∧ c'.bindings ≠ c.bindings := by
  decide +kernel

end Dotfile.Config

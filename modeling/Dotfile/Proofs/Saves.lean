/-
Saving again and again.

A save writes a configuration and reads it back.  `saveAll` is a run of saves,
each in a dialect of its own and as content of a file of its own.

* `saveAll_eq_of_sources` — the dialects do not matter;
* `bindings_saveAll`, `directories_saveAll` — names and directories stay, and
  every save peels the values once more;
* `contents_saveAll` — every save adds one empty line behind the kept lines
  and one before them for each other section;
* `saveAll_parse` — all of this for a run that starts from a file, where the
  first save may add one empty line less.

The count of the sections changes once: after the first save there is at least
one kept line, the one that the newline at the end leaves.  So the run is
followed from there on, by induction over the saves.
-/
import Dotfile.Proofs.Numbering
import Dotfile.Proofs.RoundTrip
import Mathlib.Logic.Function.Iterate

namespace Dotfile

open Text Line

theorem sectionsOf_map {α β : Type} (f : α → β) (l : List α) :
    sectionsOf (l.map f) = sectionsOf l := by
  rw [sectionsOf, sectionsOf, List.isEmpty_map]

namespace Config

variable {c : Config}

/-- Writes `c` and reads the result, once for each dialect and file of a list. -/
def saveAll (c : Config) (saves : List (PathRef × String)) : Config :=
  saves.foldl (fun c save => parse (c.render save.1) save.2) c

theorem saveAll_cons (c : Config) (save : PathRef × String) (saves : List (PathRef × String)) :
    c.saveAll (save :: saves) = (parse (c.render save.1) save.2).saveAll saves := by
  rw [saveAll, List.foldl_cons, saveAll]

/-! ### The dialect -/

theorem parse_render_eq_of_wellFormed (h : c.WellFormed) (ref ref' : PathRef) (source : String) :
    parse (c.render ref) source = parse (c.render ref') source := by
  obtain ⟨a, b, -, hread⟩ := readings_render h
  rw [parse_eq_ofReadings, parse_eq_ofReadings, hread ref, hread ref']

theorem saveAll_eq_of_sources (h : c.WellFormed) {saves saves' : List (PathRef × String)}
    (hsources : saves'.map Prod.snd = saves.map Prod.snd) : c.saveAll saves' = c.saveAll saves := by
  induction saves generalizing c saves' with
  | nil =>
    rw [List.map_nil, List.map_eq_nil_iff] at hsources
    rw [hsources]
  | cons save saves ih =>
    cases saves' with
    | nil => exact absurd hsources (by simp)
    | cons save' saves' =>
      obtain ⟨hsource, hsources⟩ := List.cons.inj hsources
      rw [saveAll_cons, saveAll_cons, parse_render_eq_of_wellFormed h save'.1 save.1, hsource]
      exact ih (parse_wellFormed _ _) hsources

/-! ### Names, values and directories -/

theorem bindings_saveAll (h : c.WellFormed) (saves : List (PathRef × String)) :
    (c.saveAll saves).bindings = c.bindings.map fun b => (b.1, peel^[saves.length] b.2) := by
  induction saves generalizing c with
  | nil => simp [saveAll]
  | cons save saves ih =>
    rw [saveAll_cons, ih (parse_wellFormed _ _), bindings_parse_render h, List.map_map]
    simp only [Function.comp_def, List.length_cons, Function.iterate_succ_apply]

theorem directories_saveAll (h : c.WellFormed) (saves : List (PathRef × String)) :
    (c.saveAll saves).directories = c.directories := by
  induction saves generalizing c with
  | nil => rfl
  | cons save saves ih =>
    rw [saveAll_cons, ih (parse_wellFormed _ _), directories_parse_render h]

/-! ### Kept lines -/

theorem sectionsOf_envVars_parse_render (h : c.WellFormed) (ref : PathRef) (source : String) :
    sectionsOf (parse (c.render ref) source).envVars = sectionsOf c.envVars := by
  have hb := congrArg sectionsOf (bindings_parse_render h ref source)
  rwa [sectionsOf_map, bindings, bindings, sectionsOf_map, sectionsOf_map] at hb

theorem sectionsOf_pathEntries_parse_render (h : c.WellFormed) (ref : PathRef) (source : String) :
    sectionsOf (parse (c.render ref) source).pathEntries = sectionsOf c.pathEntries := by
  have hd := congrArg sectionsOf (directories_parse_render h ref source)
  rwa [directories, directories, sectionsOf_map, sectionsOf_map] at hd

theorem rawLines_parse_render_ne_nil (h : c.WellFormed) (ref : PathRef) (source : String) :
    (parse (c.render ref) source).rawLines ≠ [] := by
  intro hnil
  have hc := contents_parse_render h ref source
  rw [contents, hnil] at hc
  simp at hc

theorem separators_of_rawLines_ne_nil (hraw : c.rawLines ≠ []) :
    c.separators = sectionsOf c.envVars + sectionsOf c.pathEntries := by
  have hempty : c.rawLines.isEmpty = false := by simpa using hraw
  rw [separators, if_neg (by simp [isEmpty, hempty]), sectionCount]
  simp [sectionsOf, hempty]

theorem contents_saveAll (h : c.WellFormed) (hraw : c.rawLines ≠ [])
    (saves : List (PathRef × String)) :
    (c.saveAll saves).contents =
      List.replicate (saves.length * (sectionsOf c.envVars + sectionsOf c.pathEntries)) "" ++
        c.contents ++ List.replicate saves.length "" := by
  induction saves generalizing c with
  | nil => simp [saveAll]
  | cons save saves ih =>
    rw [saveAll_cons, ih (parse_wellFormed _ _) (rawLines_parse_render_ne_nil h _ _),
      sectionsOf_envVars_parse_render h, sectionsOf_pathEntries_parse_render h,
      contents_parse_render h, separators_of_rawLines_ne_nil hraw, List.length_cons]
    generalize sectionsOf c.envVars + sectionsOf c.pathEntries = k
    rw [Nat.succ_mul, ← List.replicate_append_replicate, List.replicate_succ]
    simp [-List.replicate_append_replicate]

/-! ### Runs that start from a file -/

/-- Every text has a line, and every line leaves an entry. -/
theorem isEmpty_parse (text source : String) : (parse text source).isEmpty = false := by
  rw [← Bool.not_eq_true]
  intro hempty
  simp only [isEmpty, Bool.and_eq_true, List.isEmpty_iff] at hempty
  have hlength := (perm_line_parse text source).length_eq
  rw [hempty.1.1, hempty.1.2, hempty.2] at hlength
  simp at hlength

theorem separators_parse (text source : String) :
    (parse text source).separators = (parse text source).sectionCount - 1 := by
  rw [separators, if_neg (by simp [isEmpty_parse])]

theorem contents_saveAll_cons (text source : String) (save : PathRef × String)
    (saves : List (PathRef × String)) :
    ((parse text source).saveAll (save :: saves)).contents =
      List.replicate ((parse text source).sectionCount - 1 + saves.length *
          (sectionsOf (parse text source).envVars + sectionsOf (parse text source).pathEntries)) "" ++
        (parse text source).contents ++ List.replicate (saves.length + 1) "" := by
  have h := parse_wellFormed text source
  -- from the first save on there is a kept line, and each save adds the same
  have hraw := rawLines_parse_render_ne_nil h save.1 save.2
  rw [saveAll_cons, contents_saveAll (parse_wellFormed _ _) hraw,
    sectionsOf_envVars_parse_render h, sectionsOf_pathEntries_parse_render h,
    contents_parse_render h, separators_parse text source]
  rw [Nat.add_comm (_ - 1), ← List.replicate_append_replicate, List.replicate_succ]
  simp [-List.replicate_append_replicate]

theorem render_parse_ne (text source : String) (ref : PathRef) :
    (parse text source).render ref ≠ text := by
  intro hfix
  -- the same file would be read with more kept lines than it has
  have hlen := congrArg List.length
    (contents_parse_render (parse_wellFormed text source) ref source)
  rw [hfix] at hlen
  simp only [List.length_append, List.length_replicate, List.length_singleton] at hlen
  omega

/-- **Repeated saves.**  Names and directories stay, values are peeled as often
as they are saved, and the kept lines come to stand between empty ones.  The
dialects do not matter, and no file is left as it is. -/
theorem saveAll_parse (text source : String) (saves : List (PathRef × String)) (hne : saves ≠ []) :
    let c := parse text source
    let n := saves.length
    (c.saveAll saves).bindings = c.bindings.map (fun b => (b.1, peel^[n] b.2)) ∧
    (c.saveAll saves).directories = c.directories ∧
    (c.saveAll saves).contents =
      List.replicate
          (c.sectionCount - 1 + (n - 1) * (sectionsOf c.envVars + sectionsOf c.pathEntries)) "" ++
        c.contents ++ List.replicate n "" ∧
    (∀ saves' : List (PathRef × String), saves'.map Prod.snd = saves.map Prod.snd →
      c.saveAll saves' = c.saveAll saves) ∧
    ∀ ref, c.render ref ≠ text := by
  intro c n
  have h : c.WellFormed := parse_wellFormed text source
  refine ⟨bindings_saveAll h saves, directories_saveAll h saves, ?_,
    fun saves' hsources => saveAll_eq_of_sources h hsources, render_parse_ne text source⟩
  cases saves with
  | nil => exact absurd rfl hne
  | cons save saves => exact contents_saveAll_cons text source save saves

/-- Two saves in two dialects take two pairs of quotes off a value and put
empty lines around a comment. -/
theorem saveAll_parse_twice :
    let c := parse "export A=\"''x''\"\nPATH=$PATH:/b\n# note" "f"
    let saves := [(PathRef.bare, "f"), (PathRef.braced, "f")]
    saves ≠ [] ∧ (c.saveAll saves).bindings = [("A", "x")] ∧
      (c.saveAll saves).directories = [("/b", .append)] ∧
      (c.saveAll saves).contents = ["", "", "", "", "# note", "", ""] := by
  intro c saves
  have hne : saves ≠ [] := by simp [saves]
  obtain ⟨hb, hd, hc, -⟩ :=
    saveAll_parse "export A=\"''x''\"\nPATH=$PATH:/b\n# note" "f" saves hne
  exact ⟨hne, hb.trans (by decide +kernel), hd.trans (by decide +kernel),
    hc.trans (by decide +kernel)⟩

end Config

end Dotfile

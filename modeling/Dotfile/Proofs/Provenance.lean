/-
Where the entries of an edited configuration come from.

The origin of an entry is what no edit can change of it: the variable or the
directory it is for, its line and its source.

* `origins_envVars_apply`, `origins_pathEntries_apply` — an edit removes
  entries and adds one at the end; all others keep their origins and their order;
* `Continues`, `Continues.trans` — what is kept of a list of origins, followed
  by entries that have no line; this composes, so it is kept by a run of edits;
* `provenance_run_parse` — after any edits of a file, an entry with a line is
  one that was read from this line.
-/
import Dotfile.Proofs.EnvEdit
import Dotfile.Proofs.Numbering
import Dotfile.Proofs.PathEdit

namespace Dotfile

open Text Line

/-- What an entry is for and where it is from. -/
structure Origin where
  /-- The name of a variable, or a directory. -/
  subject : String
  line : Option Nat
  source : String
  deriving DecidableEq, Repr

def EnvVar.origin (v : EnvVar) : Origin := ⟨v.name, v.line, v.source⟩

def PathEntry.origin (e : PathEntry) : Origin := ⟨e.path, e.line, e.source⟩

/-- The names that are assigned, in order. -/
def Config.names (c : Config) : List String :=
  c.envVars.map EnvVar.name

namespace Edit

/-- The assignment that an edit of `c` adds. -/
def newVars (c : Config) : Edit → List Origin
  | setEnv name _ source => if name ∈ c.names then [] else [⟨name, none, source⟩]
  | removeEnv _ | addPath .. | removePath _ | movePath .. => []

/-- The entry of PATH that an edit adds. -/
def newPaths : Edit → List Origin
  | addPath dir _ source => [⟨dir, none, source⟩]
  | setEnv .. | removeEnv _ | removePath _ | movePath .. => []

theorem line_of_mem_newVars {c : Config} {e : Edit} {o : Origin} (h : o ∈ e.newVars c) :
    o.line = none := by
  cases e with
  | setEnv name value source =>
    rw [newVars] at h
    split at h
    · exact absurd h List.not_mem_nil
    · exact List.mem_singleton.mp h ▸ rfl
  | _ => exact absurd h List.not_mem_nil

theorem line_of_mem_newPaths {e : Edit} {o : Origin} (h : o ∈ e.newPaths) : o.line = none := by
  cases e with
  | addPath dir position source => exact List.mem_singleton.mp h ▸ rfl
  | _ => exact absurd h List.not_mem_nil

end Edit

namespace Entry

theorem ofLine_eq_env {source : String} {cs : List Char} {n : Nat} {v : EnvVar}
    (h : ofLine source cs n = env v) :
    readEnv? (trim cs) = some (v.name, v.value) ∧ v.line = some n := by
  rw [ofLine_eq_entry] at h
  cases hr : reading cs with
  | assigns name value =>
    rw [hr] at h
    obtain rfl := Entry.env.inj h
    exact ⟨reading_eq_assigns_iff.mp hr, rfl⟩
  | adds dir position => exact absurd (hr ▸ h) (by simp [Reading.entry])
  | keeps content => exact absurd (hr ▸ h) (by simp [Reading.entry])

theorem ofLine_eq_path {source : String} {cs : List Char} {n : Nat} {e : PathEntry}
    (h : ofLine source cs n = path e) :
    readPath? (trim cs) = some (e.path, e.position) ∧ e.line = some n := by
  rw [ofLine_eq_entry] at h
  cases hr : reading cs with
  | assigns name value => exact absurd (hr ▸ h) (by simp [Reading.entry])
  | adds dir position =>
    rw [hr] at h
    obtain rfl := Entry.path.inj h
    exact ⟨reading_eq_adds_iff.mp hr, rfl⟩
  | keeps content => exact absurd (hr ▸ h) (by simp [Reading.entry])

end Entry

namespace Config

/-! ### One edit -/

/-- Entries of both kinds are removed alike: all that are for `subject`. -/
theorem map_origin_filter {α : Type} (origin : α → Origin) {remove : String → Edit}
    (hremove : Function.Injective remove) (subject : String) (l : List α) :
    (l.filter fun a => (origin a).subject != subject).map origin =
      (l.map origin).filter fun o => remove o.subject ≠ remove subject := by
  rw [List.filter_map]
  congr 1
  apply List.filter_congr
  intro a _
  by_cases ha : (origin a).subject = subject
  · simp [ha]
  · simp [ha, hremove.eq_iff]

theorem origins_envVars_setEnv (c : Config) (name value source : String) :
    (c.setEnv name value source).envVars.map EnvVar.origin =
      c.envVars.map EnvVar.origin ++ (Edit.setEnv name value source).newVars c := by
  obtain ⟨before, v, behind, hvars, rfl, -, heq⟩ | ⟨hno, heq⟩ := c.setEnv_cases name value source
  · have hmem : v.name ∈ c.names := List.mem_map.mpr ⟨v, by simp [hvars], rfl⟩
    rw [heq, Edit.newVars, if_pos hmem, List.append_nil, hvars, List.map_append, List.map_append]
    rfl
  · have hmem : name ∉ c.names := by
      intro h
      obtain ⟨v, hv, hname⟩ := List.mem_map.mp h
      exact hno v hv hname
    rw [heq, Edit.newVars, if_neg hmem, List.map_append]
    rfl

/-- An edit keeps the variables that it does not remove, and adds one behind them. -/
theorem origins_envVars_apply (c : Config) (e : Edit) :
    (e.apply c).envVars.map EnvVar.origin =
      (c.envVars.map EnvVar.origin).filter (fun o => .removeEnv o.subject ≠ e) ++
        e.newVars c := by
  cases e with
  | setEnv name value source =>
    rw [Edit.apply, origins_envVars_setEnv, List.filter_eq_self.mpr (by simp)]
  | removeEnv name =>
    rw [Edit.apply, removeEnv, Edit.newVars, List.append_nil]
    exact map_origin_filter EnvVar.origin (fun _ _ => Edit.removeEnv.inj) name c.envVars
  | addPath dir position source => simp [Edit.apply, addPath, Edit.newVars]
  | removePath dir => simp [Edit.apply, removePath, Edit.newVars]
  | movePath dir position => simp [Edit.apply, movePath, Edit.newVars]

theorem origins_pathEntries_movePath (c : Config) (dir : String) (position : Position) :
    (c.movePath dir position).pathEntries.map PathEntry.origin =
      c.pathEntries.map PathEntry.origin := by
  rw [movePath, List.map_map]
  apply List.map_congr_left
  intro e _
  rw [Function.comp_apply]
  split
  · rfl
  · rfl

/-- An edit keeps the entries of PATH that it does not remove, and adds one behind them. -/
theorem origins_pathEntries_apply (c : Config) (e : Edit) :
    (e.apply c).pathEntries.map PathEntry.origin =
      (c.pathEntries.map PathEntry.origin).filter (fun o => .removePath o.subject ≠ e) ++
        e.newPaths := by
  cases e with
  | setEnv name value source => simp [Edit.apply, setEnv, Edit.newPaths]
  | removeEnv name => simp [Edit.apply, removeEnv, Edit.newPaths]
  | addPath dir position source =>
    rw [Edit.apply, addPath, List.map_append, List.filter_eq_self.mpr (by simp)]
    rfl
  | removePath dir =>
    rw [Edit.apply, removePath, Edit.newPaths, List.append_nil]
    exact map_origin_filter PathEntry.origin (fun _ _ => Edit.removePath.inj) dir c.pathEntries
  | movePath dir position =>
    rw [Edit.apply, origins_pathEntries_movePath, List.filter_eq_self.mpr (by simp),
      Edit.newPaths, List.append_nil]

end Config

/-! ### Runs of edits -/

/-- Where there are lines, they increase. -/
theorem pairwise_filterMap_of_map {α : Type} {line : α → Option Nat} {l : List α}
    (h : (l.map line).Pairwise (· < ·)) : (l.filterMap line).Pairwise (· < ·) := by
  rw [List.pairwise_filterMap]
  refine (List.pairwise_map.mp h).imp ?_
  intro a b hlt m hm n hn
  rw [hm, hn] at hlt
  exact Option.some_lt_some.mp hlt

/-- `new` is a part of `old` in its order, followed by entries that have no line. -/
def Continues (old new : List Origin) : Prop :=
  ∃ kept added, new = kept ++ added ∧ kept.Sublist old ∧ ∀ o ∈ added, o.line = none

namespace Continues

variable {old mid new : List Origin}

theorem refl (os : List Origin) : Continues os os :=
  ⟨os, [], (List.append_nil os).symm, .refl os, by simp⟩

theorem trans (h : Continues old mid) (h' : Continues mid new) : Continues old new := by
  obtain ⟨kept, added, rfl, hkept, hadded⟩ := h
  obtain ⟨kept', added', rfl, hkept', hadded'⟩ := h'
  -- what is kept the second time was kept the first time, or was added then
  obtain ⟨kept₁, kept₂, rfl, h₁, h₂⟩ := List.sublist_append_iff.mp hkept'
  refine ⟨kept₁, kept₂ ++ added', List.append_assoc .., h₁.trans hkept, ?_⟩
  intro o ho
  rcases List.mem_append.mp ho with ho | ho
  · exact hadded o (h₂.subset ho)
  · exact hadded' o ho

section Entries

-- entries of one kind, seen by their origins
variable {α : Type} {origin : α → Origin} {read edited : List α}
  (h : Continues (read.map origin) (edited.map origin))
include h

theorem exists_split : ∃ kept added, edited = kept ++ added ∧
    (kept.map origin).Sublist (read.map origin) ∧ ∀ a ∈ added, (origin a).line = none := by
  obtain ⟨kept, added, heq, hkept, hadded⟩ := h
  obtain ⟨as, bs, rfl, rfl, rfl⟩ := List.map_eq_append_iff.mp heq
  exact ⟨as, bs, rfl, hkept, List.forall_mem_map.mp hadded⟩

theorem line_eq_none_or_exists_mem {a : α} (ha : a ∈ edited) :
    (origin a).line = none ∨ ∃ b ∈ read, origin b = origin a := by
  obtain ⟨kept, added, rfl, hkept, hadded⟩ := h.exists_split
  rcases List.mem_append.mp ha with ha | ha
  · exact .inr (List.mem_map.mp (hkept.subset (List.mem_map_of_mem ha)))
  · exact .inl (hadded a ha)

theorem pairwise_line (hread : (read.map fun a => (origin a).line).Pairwise (· < ·)) :
    (edited.filterMap fun a => (origin a).line).Pairwise (· < ·) := by
  obtain ⟨kept, added, rfl, hkept, hadded⟩ := h.exists_split
  have hnil : added.filterMap (fun a => (origin a).line) = [] :=
    List.filterMap_eq_nil_iff.mpr hadded
  have hlines := hkept.filterMap Origin.line
  rw [List.filterMap_map, List.filterMap_map] at hlines
  rw [List.filterMap_append, hnil, List.append_nil]
  exact (pairwise_filterMap_of_map hread).sublist hlines

end Entries

end Continues

namespace Config

theorem continues_envVars_apply (c : Config) (e : Edit) :
    Continues (c.envVars.map EnvVar.origin) ((e.apply c).envVars.map EnvVar.origin) :=
  ⟨_, _, origins_envVars_apply c e, List.filter_sublist, fun _ => Edit.line_of_mem_newVars⟩

theorem continues_pathEntries_apply (c : Config) (e : Edit) :
    Continues (c.pathEntries.map PathEntry.origin) ((e.apply c).pathEntries.map PathEntry.origin) :=
  ⟨_, _, origins_pathEntries_apply c e, List.filter_sublist, fun _ => Edit.line_of_mem_newPaths⟩

theorem continues_run (c : Config) (edits : List Edit) :
    (Edit.run c edits).rawLines = c.rawLines ∧
    Continues (c.envVars.map EnvVar.origin) ((Edit.run c edits).envVars.map EnvVar.origin) ∧
    Continues (c.pathEntries.map PathEntry.origin)
      ((Edit.run c edits).pathEntries.map PathEntry.origin) := by
  induction edits generalizing c with
  | nil => exact ⟨rfl, .refl _, .refl _⟩
  | cons e edits ih =>
    obtain ⟨hraw, henv, hpath⟩ := ih (e.apply c)
    exact ⟨hraw.trans (rawLines_apply c e), (continues_envVars_apply c e).trans henv,
      (continues_pathEntries_apply c e).trans hpath⟩

/-! ### Edits of a file -/

theorem readEnv?_of_mem_parse {text source : String} {v : EnvVar}
    (h : v ∈ (parse text source).envVars) :
    ∃ i cs, v.line = some (i + 1) ∧ (text.toList.splitOn '\n')[i]? = some cs ∧
      readEnv? (trim cs) = some (v.name, v.value) := by
  obtain ⟨cs, i, hcs, hline⟩ := mem_entries_iff.mp (make_mem_entries Entry.env?_eq_some_iff h)
  obtain ⟨hread, hn⟩ := Entry.ofLine_eq_env hline
  exact ⟨i, cs, hn, hcs, hread⟩

theorem readPath?_of_mem_parse {text source : String} {e : PathEntry}
    (h : e ∈ (parse text source).pathEntries) :
    ∃ i cs, e.line = some (i + 1) ∧ (text.toList.splitOn '\n')[i]? = some cs ∧
      readPath? (trim cs) = some (e.path, e.position) := by
  obtain ⟨cs, i, hcs, hline⟩ := mem_entries_iff.mp (make_mem_entries Entry.path?_eq_some_iff h)
  obtain ⟨hread, hn⟩ := Entry.ofLine_eq_path hline
  exact ⟨i, cs, hn, hcs, hread⟩

/-- **Edits do not blur where an entry comes from.**  After any edits of a file
the kept lines are those of the file.  The variables are some of those that were
read, in order and with at most another value, followed by ones that have no
line; and so are the entries of PATH, with at most another position.  So lines
increase, and each is the line where the variable was assigned or the directory
was added. -/
theorem provenance_run_parse (text source : String) (edits : List Edit) :
    let c := parse text source
    let d := Edit.run c edits
    d.rawLines = c.rawLines ∧
    (∃ kept added, d.envVars = kept ++ added ∧
      (kept.map EnvVar.origin).Sublist (c.envVars.map EnvVar.origin) ∧
      ∀ v ∈ added, v.line = none) ∧
    (∃ kept added, d.pathEntries = kept ++ added ∧
      (kept.map PathEntry.origin).Sublist (c.pathEntries.map PathEntry.origin) ∧
      ∀ e ∈ added, e.line = none) ∧
    (d.envVars.filterMap EnvVar.line).Pairwise (· < ·) ∧
    (d.pathEntries.filterMap PathEntry.line).Pairwise (· < ·) ∧
    (d.rawLines.filterMap RawLine.line).Pairwise (· < ·) ∧
    (∀ v ∈ d.envVars, v.line = none ∨ ∃ i cs value, v.line = some (i + 1) ∧
      (text.toList.splitOn '\n')[i]? = some cs ∧ readEnv? (trim cs) = some (v.name, value)) ∧
    ∀ e ∈ d.pathEntries, e.line = none ∨ ∃ i cs position, e.line = some (i + 1) ∧
      (text.toList.splitOn '\n')[i]? = some cs ∧ readPath? (trim cs) = some (e.path, position) := by
  intro c d
  obtain ⟨hraw, henv, hpath⟩ := continues_run c edits
  refine ⟨hraw, henv.exists_split, hpath.exists_split,
    henv.pairwise_line (pairwise_line_filterMap Entry.env?_eq_some_iff text source),
    hpath.pairwise_line (pairwise_line_filterMap Entry.path?_eq_some_iff text source), ?_, ?_, ?_⟩
  · rw [hraw]
    exact pairwise_filterMap_of_map (pairwise_line_filterMap Entry.raw?_eq_some_iff text source)
  · intro v hv
    refine (henv.line_eq_none_or_exists_mem hv).imp_right ?_
    rintro ⟨u, hu, heq⟩
    obtain ⟨hname, hline, -⟩ := Origin.mk.inj heq
    obtain ⟨i, cs, hi, hcs, hread⟩ := readEnv?_of_mem_parse hu
    exact ⟨i, cs, u.value, hline ▸ hi, hcs, hname ▸ hread⟩
  · intro e he
    refine (hpath.line_eq_none_or_exists_mem he).imp_right ?_
    rintro ⟨p, hp, heq⟩
    obtain ⟨hdir, hline, -⟩ := Origin.mk.inj heq
    obtain ⟨i, cs, hi, hcs, hread⟩ := readPath?_of_mem_parse hp
    exact ⟨i, cs, p.position, hline ▸ hi, hcs, hdir ▸ hread⟩

/-- An assignment that was read is given a value, one is removed and set again,
and a directory that was read is moved: the first and the last keep their lines. -/
theorem provenance_run_parse_sample :
    let text := "A=1\nB=2\nPATH=/x:$PATH\nA=3"
    let d := Edit.run (parse text "f")
      [.setEnv "A" "4", .removeEnv "B", .setEnv "B" "5" "import", .addPath "/y" .append,
       .movePath "/x" .append]
    d.envVars =
        [⟨"A", "1", some 1, "f"⟩, ⟨"A", "4", some 4, "f"⟩, ⟨"B", "5", none, "import"⟩] ∧
      d.pathEntries = [⟨"/x", .append, some 3, "f"⟩, ⟨"/y", .append, none, manualSource⟩] ∧
      (∃ i cs value, some 4 = some (i + 1) ∧ (text.toList.splitOn '\n')[i]? = some cs ∧
        readEnv? (trim cs) = some ("A", value)) ∧
      ∃ i cs position, some 3 = some (i + 1) ∧ (text.toList.splitOn '\n')[i]? = some cs ∧
        readPath? (trim cs) = some ("/x", position) := by
  intro text d
  have henv : d.envVars =
      [⟨"A", "1", some 1, "f"⟩, ⟨"A", "4", some 4, "f"⟩, ⟨"B", "5", none, "import"⟩] := by
    decide +kernel
  have hpath : d.pathEntries =
      [⟨"/x", .append, some 3, "f"⟩, ⟨"/y", .append, none, manualSource⟩] := by
    decide +kernel
  obtain ⟨-, -, -, -, -, -, hvars, hpaths⟩ := provenance_run_parse text "f"
    [.setEnv "A" "4", .removeEnv "B", .setEnv "B" "5" "import", .addPath "/y" .append,
     .movePath "/x" .append]
  refine ⟨henv, hpath, ?_, ?_⟩
  · exact (hvars ⟨"A", "4", some 4, "f"⟩ (henv ▸ by simp)).resolve_left (by simp)
  · exact (hpaths ⟨"/x", .append, some 3, "f"⟩ (hpath ▸ by simp)).resolve_left (by simp)

end Config

end Dotfile

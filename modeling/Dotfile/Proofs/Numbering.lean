/-
The lines of a file and the entries that are read from them.

* `Lines.split_eq_splitOn`, `Lines.length_split` — the lines are what stands
  between newlines, and there is one more of them than there are newlines;
* `perm_line_ofEntries`, `map_line_filterMap_sublist` — sorting entries by kind
  keeps every entry once, and entries of one kind in their order;
* `parse_partitions_lines` — each line of a file is the line of exactly one
  entry, and a line that is kept is kept as it stands.

Each entry is looked at through its line number and its source, which do not
depend on the kind of the entry.
-/
import Dotfile.Proofs.Reading

namespace Dotfile

open Text Line

/-! ### Lines -/

namespace Text.Lines

theorem split_eq_splitOn (cs : List Char) : split cs = cs.splitOn '\n' := by
  induction cs with
  | nil => rfl
  | cons c cs ih =>
    rw [split, List.splitOn, List.splitOnP_cons_eq_if_modifyHead, ← List.splitOn, ← ih]
    by_cases hc : c = '\n'
    · simp [hc]
    · rw [if_neg hc, if_neg (by simpa using hc)]
      cases hs : split cs with
      | nil => exact absurd hs (split_ne_nil cs)
      | cons l ls => rfl

theorem length_split (cs : List Char) : (split cs).length = cs.count '\n' + 1 := by
  induction cs with
  | nil => rfl
  | cons c cs ih =>
    rw [split]
    split
    · rename_i hc
      rw [List.length_cons, ih, hc, List.count_cons_self]
    · rename_i hc
      rw [List.count_cons_of_ne hc, ← ih]
      split
      · rename_i hs
        exact absurd hs (split_ne_nil cs)
      · rename_i hs
        rw [hs, List.length_cons, List.length_cons]

end Text.Lines

/-! ### Entries -/

namespace Entry

def line : Entry → Option Nat
  | env v => v.line
  | path e => e.line
  | raw l => l.line

def source : Entry → String
  | env v => v.source
  | path e => e.source
  | raw l => l.source

theorem env?_eq_some_iff {e : Entry} {v : EnvVar} : e.env? = some v ↔ e = env v := by
  cases e <;> simp [env?]

theorem path?_eq_some_iff {e : Entry} {p : PathEntry} : e.path? = some p ↔ e = path p := by
  cases e <;> simp [path?]

theorem raw?_eq_some_iff {e : Entry} {l : RawLine} : e.raw? = some l ↔ e = raw l := by
  cases e <;> simp [raw?]

theorem line_ofLine (source : String) (cs : List Char) (n : Nat) :
    (ofLine source cs n).line = some n := by
  rw [ofLine_eq_entry]
  cases reading cs <;> rfl

theorem source_ofLine (source : String) (cs : List Char) (n : Nat) :
    (ofLine source cs n).source = source := by
  rw [ofLine_eq_entry]
  cases reading cs <;> rfl

theorem ofLine_eq_raw {source : String} {cs : List Char} {n : Nat} {l : RawLine}
    (h : ofLine source cs n = raw l) : l = ⟨String.ofList cs, some n, source⟩ := by
  rw [ofLine_eq_entry] at h
  cases hr : reading cs with
  | assigns name value => exact absurd (hr ▸ h) (by simp [Reading.entry])
  | adds dir position => exact absurd (hr ▸ h) (by simp [Reading.entry])
  | keeps content =>
    rw [hr, eq_ofList_of_reading_eq_keeps hr] at h
    exact (Entry.raw.inj h).symm

end Entry

namespace Config

/-! ### The entries of a file -/

/-- The entries of a file, line by line. -/
def entries (text source : String) : List Entry :=
  (Lines.numbered text.toList).map fun (cs, n) => Entry.ofLine source cs n

theorem parse_eq_ofEntries (text source : String) :
    parse text source = ofEntries (entries text source) := rfl

theorem mem_entries_iff {text source : String} {e : Entry} :
    e ∈ entries text source ↔
      ∃ cs i, (text.toList.splitOn '\n')[i]? = some cs ∧ Entry.ofLine source cs (i + 1) = e := by
  rw [entries, List.mem_map, Lines.numbered, Lines.split_eq_splitOn]
  constructor
  · rintro ⟨⟨cs, n⟩, hmem, rfl⟩
    obtain ⟨hn, hcs⟩ := List.mk_mem_zipIdx_iff_le_and_getElem?_sub.mp hmem
    refine ⟨cs, n - 1, hcs, ?_⟩
    rw [Nat.sub_add_cancel hn]
  · rintro ⟨cs, i, hcs, rfl⟩
    refine ⟨(cs, i + 1), ?_, rfl⟩
    exact List.mk_mem_zipIdx_iff_le_and_getElem?_sub.mpr ⟨Nat.le_add_left 1 i, hcs⟩

theorem source_of_mem_entries {text source : String} {e : Entry} (h : e ∈ entries text source) :
    e.source = source := by
  obtain ⟨cs, i, -, rfl⟩ := mem_entries_iff.mp h
  exact Entry.source_ofLine source cs (i + 1)

theorem map_line_entries (text source : String) :
    (entries text source).map Entry.line =
      (List.range' 1 (text.toList.count '\n' + 1)).map some := by
  rw [← Lines.length_split, ← List.zipIdx_map_snd, entries, Lines.numbered, List.map_map,
    List.map_map]
  apply List.map_congr_left
  rintro ⟨cs, n⟩ -
  exact Entry.line_ofLine source cs n

theorem pairwise_line_entries (text source : String) :
    ((entries text source).map Entry.line).Pairwise (· < ·) := by
  rw [map_line_entries, List.pairwise_map]
  exact (List.pairwise_lt_range' 1 Nat.one_pos).imp Option.some_lt_some.mpr

/-! ### Sorting by kind -/

theorem perm_line_ofEntries (es : List Entry) :
    ((ofEntries es).envVars.map EnvVar.line ++ (ofEntries es).pathEntries.map PathEntry.line ++
      (ofEntries es).rawLines.map RawLine.line).Perm (es.map Entry.line) := by
  induction es with
  | nil => exact .refl []
  | cons e es ih =>
    -- the first entry goes behind all entries of the kinds before its own
    rw [List.map_cons]
    cases e with
    | env v => exact ih.cons v.line
    | path p =>
      refine List.Perm.trans ?_ (ih.cons p.line)
      exact List.perm_middle.append_right _
    | raw l => exact List.perm_middle.trans (ih.cons l.line)

theorem perm_line_parse (text source : String) :
    ((parse text source).envVars.map EnvVar.line ++
      (parse text source).pathEntries.map PathEntry.line ++
      (parse text source).rawLines.map RawLine.line).Perm
      ((List.range' 1 (text.toList.count '\n' + 1)).map some) := by
  rw [parse_eq_ofEntries, ← map_line_entries text source]
  exact perm_line_ofEntries (entries text source)

section Kind

-- `make` makes an entry of something of the kind, as `Entry.env` does of a variable
variable {β : Type} {kind : Entry → Option β} {make : β → Entry}
  (hkind : ∀ {e b}, kind e = some b ↔ e = make b)
include hkind

theorem map_line_filterMap_sublist (es : List Entry) :
    ((es.filterMap kind).map fun b => (make b).line).Sublist (es.map Entry.line) := by
  induction es with
  | nil => exact .slnil
  | cons e es ih =>
    cases hk : kind e with
    | none =>
      rw [List.filterMap_cons_none hk, List.map_cons]
      exact ih.cons e.line
    | some b =>
      rw [List.filterMap_cons_some hk, List.map_cons, List.map_cons, ← hkind.mp hk]
      exact ih.cons_cons e.line

theorem pairwise_line_filterMap (text source : String) :
    (((entries text source).filterMap kind).map fun b => (make b).line).Pairwise (· < ·) :=
  (pairwise_line_entries text source).sublist (map_line_filterMap_sublist hkind _)

theorem make_mem_entries {text source : String} {b : β}
    (h : b ∈ (entries text source).filterMap kind) : make b ∈ entries text source := by
  obtain ⟨e, he, hb⟩ := List.mem_filterMap.mp h
  exact hkind.mp hb ▸ he

end Kind

/-- **Each line of a file is the line of exactly one entry.**  The entries of a
kind are in the order of their lines and are due to the file, and a line that is
kept is kept as it stands between its newlines. -/
theorem parse_partitions_lines (text source : String) :
    let c := parse text source
    (c.envVars.map EnvVar.line ++ c.pathEntries.map PathEntry.line ++
        c.rawLines.map RawLine.line).Perm
      ((List.range' 1 (text.toList.count '\n' + 1)).map some) ∧
    (c.envVars.map EnvVar.line).Pairwise (· < ·) ∧
    (c.pathEntries.map PathEntry.line).Pairwise (· < ·) ∧
    (c.rawLines.map RawLine.line).Pairwise (· < ·) ∧
    (∀ v ∈ c.envVars, v.source = source) ∧
    (∀ e ∈ c.pathEntries, e.source = source) ∧
    ∀ l ∈ c.rawLines, l.source = source ∧
      ∃ i, l.line = some (i + 1) ∧ (text.toList.splitOn '\n')[i]? = some l.content.toList := by
  intro c
  refine ⟨perm_line_parse text source,
    pairwise_line_filterMap Entry.env?_eq_some_iff text source,
    pairwise_line_filterMap Entry.path?_eq_some_iff text source,
    pairwise_line_filterMap Entry.raw?_eq_some_iff text source, ?_, ?_, ?_⟩
  · intro v hv
    exact source_of_mem_entries (make_mem_entries Entry.env?_eq_some_iff hv)
  · intro p hp
    exact source_of_mem_entries (make_mem_entries Entry.path?_eq_some_iff hp)
  · intro l hl
    -- a kept line is the one entry that shows the text of its line
    have hmem := make_mem_entries Entry.raw?_eq_some_iff hl
    obtain ⟨cs, i, hcs, hline⟩ := mem_entries_iff.mp hmem
    obtain rfl := Entry.ofLine_eq_raw hline
    refine ⟨rfl, i, rfl, ?_⟩
    rw [String.toList_ofList, hcs]

/-- A file with all three kinds of entries, and a line that is kept with its blanks. -/
theorem parse_partitions_lines_sample :
    let text := "A=1\n  echo \nPATH=/x:$PATH\n"
    let c := parse text "f"
    (c.envVars.map EnvVar.line ++ c.pathEntries.map PathEntry.line ++
        c.rawLines.map RawLine.line).Perm [some 1, some 2, some 3, some 4] ∧
      (⟨"  echo ", some 2, "f"⟩ : RawLine) ∈ c.rawLines ∧
      ∃ i, some 2 = some (i + 1) ∧ (text.toList.splitOn '\n')[i]? = some "  echo ".toList := by
  intro text c
  obtain ⟨hperm, -, -, -, -, -, hraw⟩ := parse_partitions_lines text "f"
  have hcount : text.toList.count '\n' = 3 := by decide +kernel
  have hmem : (⟨"  echo ", some 2, "f"⟩ : RawLine) ∈ c.rawLines := by decide +kernel
  rw [hcount] at hperm
  exact ⟨hperm, hmem, (hraw _ hmem).2⟩

end Config

end Dotfile

/-
The checks that a line is put to, and their order.

A line may be a comment, add a directory to PATH, or assign a variable, and the
reader checks for the three in this order.  No line passes two checks of which
one would hide what the other finds, so the order does not matter.

* `Line.isComment_trim` — a line that does not start with a blank is a comment
  exactly if it is one after trimming;
* `Line.read_eq_none_of_isComment_trim` — a line that is a comment after trimming
  says nothing before it either;
* `Check.finds?_eq_some` — a check that a line passes gives the entry of the line,
  whatever the other checks say;
* `Entry.ofLineBy_eq_ofLine` — so the first one passed does, in any order;
* `parseBy_eq_parse_iff` — a file is read the same way exactly if both checks that
  find something are among those that are made.
-/
import Dotfile.Proofs.Numbering

namespace Dotfile

open Text

/-! ### Comments with blanks around them -/

namespace Line

theorem Assigns.startsDark {cs name value : List Char} (h : Assigns cs name value) :
    StartsDark cs := by
  obtain ⟨c, tail, rfl, hc⟩ := h.head
  exact startsDark_cons.mpr (isBlank_eq_false_of_isNameChar (isNameChar_of_isNameStart hc))

theorem isComment_trim {cs : List Char} (h : StartsDark cs) : isComment (trim cs) = isComment cs := by
  have hleft : trimLeft cs = cs := trimLeft_append allBlank_nil h
  obtain ⟨w, hw⟩ := exists_eq_trimRight_append cs
  cases hcs : trim cs with
  | nil =>
    -- nothing but blanks, of which none stands in front
    have hblank := (trim_eq_nil_iff cs).mp hcs
    cases cs with
    | nil => rfl
    | cons c tail => exact absurd (hblank c (by simp)) (by simp [startsDark_cons.mp h])
  | cons c tail =>
    rw [trim, hleft] at hcs
    rw [hw, hcs]
    rfl

theorem Assigns.isComment_trim_eq_false {cs name value : List Char} (h : Assigns cs name value) :
    isComment (trim cs) = false := by
  rw [isComment_trim h.startsDark]
  exact h.isComment_eq_false

theorem read_eq_none_of_isComment_trim {cs : List Char} (h : isComment (trim cs) = true) :
    readPath? cs = none ∧ readEnv? cs = none := by
  apply read_eq_none_of_not_assigns
  intro name value hassigns
  exact absurd h (by simp [hassigns.isComment_trim_eq_false])

theorem isComment_eq_true_iff {cs : List Char} :
    isComment cs = true ↔ cs = [] ∨ cs.head? = some '#' := by
  cases cs with
  | nil => simp [isComment]
  | cons c cs => simp [isComment]

end Line

/-! ### Checks -/

/-- What a line is checked for. -/
inductive Check where
  | comment
  | path
  | env
  deriving DecidableEq, Repr

/-- What gives an entry of this kind: lines are kept as comments, or for want of
anything else. -/
def Entry.check : Entry → Check
  | env _ => .env
  | path _ => .path
  | raw _ => .comment

namespace Check

variable {source : String} {cs : List Char} {n : Nat} {k : Check} {e : Entry}

/-- The entry of line number `n`, which is `cs`, if the line passes the check. -/
def finds? (source : String) (cs : List Char) (n : Nat) : Check → Option Entry
  | comment =>
    if Line.isComment (trim cs) then some (.raw ⟨String.ofList cs, some n, source⟩) else none
  | path => (Line.readPath? (trim cs)).map fun p => .path ⟨p.1, p.2, some n, source⟩
  | env => (Line.readEnv? (trim cs)).map fun p => .env ⟨p.1, p.2, some n, source⟩

theorem check_of_finds? (h : k.finds? source cs n = some e) : e.check = k := by
  cases k with
  | comment =>
    rw [finds?] at h
    split at h
    · exact Option.some_inj.mp h ▸ rfl
    · exact absurd h (by simp)
  | path =>
    obtain ⟨p, -, rfl⟩ := Option.map_eq_some_iff.mp h
    rfl
  | env =>
    obtain ⟨p, -, rfl⟩ := Option.map_eq_some_iff.mp h
    rfl

/-- Passing a check settles what the line gives. -/
theorem finds?_eq_some (h : k.finds? source cs n = some e) : e = Entry.ofLine source cs n := by
  rw [Entry.ofLine_eq_entry]
  cases k with
  | comment =>
    rw [finds?] at h
    split at h
    · rename_i hcomment
      rw [Line.reading, if_pos hcomment]
      exact (Option.some_inj.mp h).symm
    · exact absurd h (by simp)
  | path =>
    obtain ⟨p, hp, rfl⟩ := Option.map_eq_some_iff.mp h
    rw [Line.reading_eq_adds_iff.mpr hp]
    rfl
  | env =>
    obtain ⟨p, hp, rfl⟩ := Option.map_eq_some_iff.mp h
    rw [Line.reading_eq_assigns_iff.mpr hp]
    rfl

/-- A line that passes neither of the checks that find something is kept. -/
theorem ofLine_of_finds?_eq_none (hpath : path.finds? source cs n = none)
    (henv : env.finds? source cs n = none) :
    Entry.ofLine source cs n = .raw ⟨String.ofList cs, some n, source⟩ := by
  have hpath' := Option.map_eq_none_iff.mp hpath
  have henv' := Option.map_eq_none_iff.mp henv
  rw [Entry.ofLine_eq_entry]
  cases hr : Line.reading cs with
  | assigns name value =>
    rw [Line.reading_eq_assigns_iff.mp hr] at henv'
    exact absurd henv' (by simp)
  | adds dir position =>
    rw [Line.reading_eq_adds_iff.mp hr] at hpath'
    exact absurd hpath' (by simp)
  | keeps content =>
    rw [Line.eq_ofList_of_reading_eq_keeps hr]
    rfl

end Check

/-! ### Checks in some order -/

namespace Entry

variable {order : List Check} {source : String} {cs : List Char} {n : Nat}

/-- The entry by the first check of `order` that the line passes.  A line that
passes none is kept. -/
def ofLineBy (order : List Check) (source : String) (cs : List Char) (n : Nat) : Entry :=
  (order.findSome? (Check.finds? source cs n)).getD (raw ⟨String.ofList cs, some n, source⟩)

theorem ofLineBy_eq_ofLine (hpath : .path ∈ order) (henv : .env ∈ order) :
    ofLineBy order source cs n = ofLine source cs n := by
  rw [ofLineBy]
  cases hfound : order.findSome? (Check.finds? source cs n) with
  | none =>
    have hnone := List.findSome?_eq_none_iff.mp hfound
    exact (Check.ofLine_of_finds?_eq_none (hnone _ hpath) (hnone _ henv)).symm
  | some e =>
    obtain ⟨k, -, hk⟩ := List.exists_of_findSome?_eq_some hfound
    exact Check.finds?_eq_some hk

/-- Nothing is found that is not checked for. -/
theorem check_ofLineBy_mem (h : (ofLineBy order source cs n).check ≠ .comment) :
    (ofLineBy order source cs n).check ∈ order := by
  rw [ofLineBy] at h ⊢
  cases hfound : order.findSome? (Check.finds? source cs n) with
  | none =>
    rw [hfound] at h
    exact absurd rfl h
  | some e =>
    obtain ⟨k, hk, hke⟩ := List.exists_of_findSome?_eq_some hfound
    rw [Option.getD_some, Check.check_of_finds? hke]
    exact hk

end Entry

namespace Config

variable {order : List Check} {text source : String}

/-- The entries of a file, with the checks made in the given order. -/
def entriesBy (order : List Check) (text source : String) : List Entry :=
  (Lines.numbered text.toList).map fun (cs, n) => Entry.ofLineBy order source cs n

/-- The configuration that `text` holds, with the checks made in the given order. -/
def parseBy (order : List Check) (text source : String) : Config :=
  ofEntries (entriesBy order text source)

theorem parseBy_eq_parse (hpath : .path ∈ order) (henv : .env ∈ order) :
    parseBy order text source = parse text source := by
  rw [parseBy, entriesBy, parse]
  congr 1
  apply List.map_congr_left
  rintro ⟨cs, n⟩ -
  exact Entry.ofLineBy_eq_ofLine hpath henv

theorem check_mem_of_mem_entriesBy {e : Entry} (h : e ∈ entriesBy order text source)
    (hfound : e.check ≠ .comment) : e.check ∈ order := by
  obtain ⟨⟨cs, n⟩, -, rfl⟩ := List.mem_map.mp h
  exact Entry.check_ofLineBy_mem hfound

theorem path_mem_of_mem_pathEntries {e : PathEntry}
    (h : e ∈ (parseBy order text source).pathEntries) : .path ∈ order := by
  obtain ⟨entry, hentry, he⟩ := List.mem_filterMap.mp h
  obtain rfl := Entry.path?_eq_some_iff.mp he
  exact check_mem_of_mem_entriesBy hentry (by simp [Entry.check])

theorem env_mem_of_mem_envVars {v : EnvVar} (h : v ∈ (parseBy order text source).envVars) :
    .env ∈ order := by
  obtain ⟨entry, hentry, hv⟩ := List.mem_filterMap.mp h
  obtain rfl := Entry.env?_eq_some_iff.mp hv
  exact check_mem_of_mem_entriesBy hentry (by simp [Entry.check])

theorem parseBy_eq_parse_iff (order : List Check) :
    (∀ text source, parseBy order text source = parse text source) ↔
      .path ∈ order ∧ .env ∈ order := by
  constructor
  · intro h
    have hpath : ⟨"/x", .prepend, some 1, "f"⟩ ∈ (parse "PATH=/x:$PATH" "f").pathEntries := by
      decide +kernel
    have henv : ⟨"A", "1", some 1, "f"⟩ ∈ (parse "A=1" "f").envVars := by decide +kernel
    rw [← h] at hpath henv
    exact ⟨path_mem_of_mem_pathEntries hpath, env_mem_of_mem_envVars henv⟩
  · rintro ⟨hpath, henv⟩ text source
    exact parseBy_eq_parse hpath henv

/-- **The order of the checks does not matter.**  No text, trimmed or not, both
adds a directory and assigns a variable, and one that is empty or a comment after
trimming does neither, be it trimmed or not.  So every file is read the same way
with the checks made in any order, and also without the check for comments; but
neither of the other two can be left out. -/
theorem checks_commute :
    (∀ cs, Line.readPath? cs = none ∨ Line.readEnv? cs = none) ∧
    (∀ cs, trim cs = [] ∨ (trim cs).head? = some '#' →
      (Line.readPath? cs = none ∧ Line.readEnv? cs = none) ∧
        Line.readPath? (trim cs) = none ∧ Line.readEnv? (trim cs) = none) ∧
    ∀ order, (∀ text source, parseBy order text source = parse text source) ↔
      .path ∈ order ∧ .env ∈ order := by
  refine ⟨?_, ?_, parseBy_eq_parse_iff⟩
  · intro cs
    cases hpath : Line.readPath? cs with
    | none => exact .inl rfl
    | some p => exact .inr (Line.readEnv?_eq_none_of_readPath? hpath)
  · intro cs hcs
    have hcomment := Line.isComment_eq_true_iff.mpr hcs
    exact ⟨Line.read_eq_none_of_isComment_trim hcomment, Line.read_eq_none_of_isComment hcomment⟩

/-- A comment that would assign a variable without its mark and the blanks before
it, and the check for variables made first. -/
theorem checks_commute_sample :
    let cs := " \n# A=1".toList
    (trim cs).head? = some '#' ∧ Line.readEnv? cs = none ∧ Line.readEnv? (trim cs) = none ∧
      ∀ text source, parseBy [.env, .path] text source = parse text source := by
  intro cs
  have hcs : (trim cs).head? = some '#' := by decide +kernel
  obtain ⟨-, hcomment, horder⟩ := checks_commute
  obtain ⟨⟨-, henv⟩, -, henv'⟩ := hcomment cs (.inr hcs)
  exact ⟨hcs, henv, henv', (horder [.env, .path]).mpr (by decide)⟩

end Config

end Dotfile

/-
What is read from a startup file.

What a line says depends on the line alone: not on its number, its file or the
other lines (`Line.reading`).  A configuration is looked at through the names
and values it assigns (`bindings`), the directories it adds to PATH
(`directories`) and the lines it keeps (`contents`).

* `parse_eq_ofReadings` — a file is read line by line;
* `bindings_ofReadings`, `directories_ofReadings`, `contents_ofReadings` — each
  view of a file is what its lines say, in order;
* `parse_wellFormed` — whatever the file, no entry read from it is one that a
  line could not say (`WellFormed`).
-/
import Dotfile.Config.Reader
import Dotfile.Proofs.Addition

namespace Dotfile

open Text

namespace Line

/-- What a line says. -/
inductive Reading where
  | assigns (name value : String)
  | adds (dir : String) (position : Position)
  | keeps (content : String)
  deriving DecidableEq, Repr

namespace Reading

def binding? : Reading → Option (String × String)
  | assigns name value => some (name, value)
  | adds _ _ => none
  | keeps _ => none

def directory? : Reading → Option (String × Position)
  | assigns _ _ => none
  | adds dir position => some (dir, position)
  | keeps _ => none

def content? : Reading → Option String
  | assigns _ _ => none
  | adds _ _ => none
  | keeps content => some content

theorem binding?_eq_some_iff {r : Reading} {b : String × String} :
    r.binding? = some b ↔ r = assigns b.1 b.2 := by
  cases r <;> simp [binding?, Prod.ext_iff]

theorem directory?_eq_some_iff {r : Reading} {d : String × Position} :
    r.directory? = some d ↔ r = adds d.1 d.2 := by
  cases r <;> simp [directory?, Prod.ext_iff]

theorem content?_eq_some_iff {r : Reading} {s : String} : r.content? = some s ↔ r = keeps s := by
  cases r <;> simp [content?]

/-- The entry for what line number `n` of the file `source` says. -/
def entry (source : String) (n : Nat) : Reading → Entry
  | assigns name value => .env ⟨name, value, some n, source⟩
  | adds dir position => .path ⟨dir, position, some n, source⟩
  | keeps content => .raw ⟨content, some n, source⟩

end Reading

/-- What the line `cs` says. -/
def reading (cs : List Char) : Reading :=
  if isComment (trim cs) then .keeps (String.ofList cs)
  else
    match readPath? (trim cs), readEnv? (trim cs) with
    | some (dir, position), _ => .adds dir position
    | none, some (name, value) => .assigns name value
    | none, none => .keeps (String.ofList cs)

theorem reading_eq_adds_iff {cs : List Char} {dir : String} {position : Position} :
    reading cs = .adds dir position ↔ readPath? (trim cs) = some (dir, position) := by
  rw [reading]
  split
  · rename_i h
    simp [(read_eq_none_of_isComment h).1]
  · split
    · rename_i h
      simp [h]
    · rename_i h _
      simp [h]
    · rename_i h _
      simp [h]

theorem reading_eq_assigns_iff {cs : List Char} {name value : String} :
    reading cs = .assigns name value ↔ readEnv? (trim cs) = some (name, value) := by
  rw [reading]
  split
  · rename_i h
    simp [(read_eq_none_of_isComment h).2]
  · split
    · rename_i h
      simp [readEnv?_eq_none_of_readPath? h]
    · rename_i h
      simp [h]
    · rename_i h
      simp [h]

theorem eq_ofList_of_reading_eq_keeps {cs : List Char} {content : String}
    (h : reading cs = .keeps content) : content = String.ofList cs := by
  rw [reading] at h
  split at h
  · exact (Reading.keeps.inj h).symm
  · split at h
    · exact absurd h (by simp)
    · exact absurd h (by simp)
    · exact (Reading.keeps.inj h).symm

theorem reading_nil : reading [] = .keeps "" := rfl

/-! ### What a line can say -/

/-- Is `dir` a reference to PATH, or does it end with a colon and one? -/
def EndsInReference (dir : List Char) : Prop :=
  ∃ ref ∈ references, dir = ref ∨ ':' :: ref <:+ dir

/-- Can a line assign `value` to `name`? -/
structure Assignable (name value : String) : Prop where
  isName : IsName name.toList
  ne_path : name ≠ "PATH"
  newline_not_mem : '\n' ∉ value.toList

/-- Can a line add `dir` to PATH at `position`? -/
structure Addable (dir : String) (position : Position) : Prop where
  ne_empty : dir ≠ ""
  newline_not_mem : '\n' ∉ dir.toList
  not_endsInReference : position = .append → ¬ EndsInReference dir.toList

/-- Is `content` a line that is kept? -/
structure Keepable (content : String) : Prop where
  newline_not_mem : '\n' ∉ content.toList
  reading_eq : reading content.toList = .keeps content

/-- Whether a directory put after a reference is taken for one that is put
before another reference. -/
theorem exists_prepends_iff {ref dir : List Char} (href : ref ∈ references) :
    (∃ dir', Prepends (ref ++ ':' :: dir) dir') ↔ EndsInReference dir := by
  constructor
  · rintro ⟨dir', -, ref', href', heq⟩
    refine ⟨ref', href', ?_⟩
    have hcolon := colon_not_mem_of_mem_references ref' href'
    have hcolon₀ := colon_not_mem_of_mem_references ref href
    -- the two colons are the same, or the second is inside of `dir`
    rcases List.append_eq_append_iff.mp heq with ⟨a, rfl, ha⟩ | ⟨a, ha', ha⟩
    · cases a with
      | nil => exact .inl (List.cons.inj ha).2
      | cons c a =>
        obtain ⟨rfl, rfl⟩ := List.cons.inj ha
        exact .inr ⟨a, rfl⟩
    · cases a with
      | nil => exact .inl (List.cons.inj ha).2.symm
      | cons c a =>
        obtain ⟨rfl, -⟩ := List.cons.inj ha
        exact absurd (by simp [ha']) hcolon₀
  · rintro ⟨ref', href', rfl | ⟨a, rfl⟩⟩
    · refine ⟨ref, ?_, dir, href', rfl⟩
      rintro rfl
      exact absurd href (by decide)
    · exact ⟨ref ++ ':' :: a, by simp, ref', href', by simp⟩

theorem toList_eq_pathWord_iff {name : String} : name.toList = pathWord ↔ name = "PATH" := by
  rw [← String.toList_inj]
  rfl

theorem Assigns.isName {cs name value : List Char} (h : Assigns cs name value) :
    IsName name := by
  obtain ⟨-, -, -, ⟨hname, -⟩, -⟩ := h
  exact hname

theorem assignable_of_reading {cs : List Char} {name value : String}
    (h : reading cs = .assigns name value) : Assignable name value := by
  obtain ⟨written, hassigns, hnl, hpath, rfl⟩ :=
    readEnv?_eq_some_iff.mp (reading_eq_assigns_iff.mp h)
  refine ⟨hassigns.isName, fun h => hpath (toList_eq_pathWord_iff.mpr h), ?_⟩
  rw [String.toList_ofList]
  exact fun h => hnl (mem_of_mem_unquote h)

theorem addable_of_reading {cs : List Char} {dir : String} {position : Position}
    (h : reading cs = .adds dir position) : Addable dir position := by
  obtain ⟨value, -, hnl, hadds⟩ := readPath?_eq_some_iff.mp (reading_eq_adds_iff.mp h)
  have hvalue : '\n' ∉ unquote value := fun h => hnl (mem_of_mem_unquote h)
  cases position with
  | prepend =>
    obtain ⟨hne, ref, href, heq⟩ := hadds
    rw [heq] at hvalue
    exact ⟨by simpa using hne, fun h => hvalue (by simp [h]), by simp⟩
  | append =>
    obtain ⟨⟨hne, ref, href, heq⟩, hno⟩ := hadds
    rw [heq] at hvalue hno
    refine ⟨by simpa using hne, fun h => hvalue (by simp [h]), fun _ hend => hno ?_⟩
    exact (exists_prepends_iff href).mpr hend

theorem keepable_of_reading {cs : List Char} {content : String} (hcs : '\n' ∉ cs)
    (h : reading cs = .keeps content) : Keepable content := by
  obtain rfl := eq_ofList_of_reading_eq_keeps h
  exact ⟨by rwa [String.toList_ofList], by rwa [String.toList_ofList]⟩

end Line

theorem Entry.ofLine_eq_entry (source : String) (cs : List Char) (n : Nat) :
    Entry.ofLine source cs n = (Line.reading cs).entry source n := by
  rw [Entry.ofLine, Line.reading]
  split
  · rfl
  · cases Line.readPath? (trim cs) with
    | some p => rfl
    | none =>
      cases Line.readEnv? (trim cs) with
      | some p => rfl
      | none => rfl

namespace Config

open Line

/-! ### Views -/

/-- The assignments, without their lines. -/
def bindings (c : Config) : List (String × String) :=
  c.envVars.map fun v => (v.name, v.value)

/-- The additions to PATH, without their lines. -/
def directories (c : Config) : List (String × Position) :=
  c.pathEntries.map fun e => (e.path, e.position)

/-- The lines that are kept, without their numbers. -/
def contents (c : Config) : List String :=
  c.rawLines.map RawLine.content

/-- The configuration of a file whose lines say `rs`. -/
def ofReadings (source : String) (rs : List Reading) : Config :=
  ofEntries ((rs.zipIdx 1).map fun (r, n) => r.entry source n)

theorem parse_eq_ofReadings (text source : String) :
    parse text source = ofReadings source ((Lines.split text.toList).map reading) := by
  rw [parse, ofReadings, Lines.numbered, List.zipIdx_map, List.map_map]
  congr 1
  apply List.map_congr_left
  rintro ⟨cs, n⟩ -
  exact Entry.ofLine_eq_entry source cs n

/-- What does not look at numbers and files can be asked of the readings. -/
theorem filterMap_entry {β : Type} {f : Entry → Option β} {g : Reading → Option β} (source : String)
    (h : ∀ r n, f (Reading.entry source n r) = g r) (rs : List Reading) (k : Nat) :
    ((rs.zipIdx k).map fun (r, n) => r.entry source n).filterMap f = rs.filterMap g := by
  induction rs generalizing k with
  | nil => rfl
  | cons r rs ih =>
    rw [List.zipIdx_cons, List.map_cons, List.filterMap_cons, List.filterMap_cons, ih, h]

theorem bindings_ofReadings (source : String) (rs : List Reading) :
    (ofReadings source rs).bindings = rs.filterMap Reading.binding? := by
  rw [bindings, ofReadings, ofEntries, List.map_filterMap]
  exact filterMap_entry source (fun r n => by cases r <;> rfl) rs 1

theorem directories_ofReadings (source : String) (rs : List Reading) :
    (ofReadings source rs).directories = rs.filterMap Reading.directory? := by
  rw [directories, ofReadings, ofEntries, List.map_filterMap]
  exact filterMap_entry source (fun r n => by cases r <;> rfl) rs 1

theorem contents_ofReadings (source : String) (rs : List Reading) :
    (ofReadings source rs).contents = rs.filterMap Reading.content? := by
  rw [contents, ofReadings, ofEntries, List.map_filterMap]
  exact filterMap_entry source (fun r n => by cases r <;> rfl) rs 1

/-! ### Well-formed configurations -/

/-- Is each entry of `c` one that a line can say? -/
structure WellFormed (c : Config) : Prop where
  env : ∀ v ∈ c.envVars, Assignable v.name v.value
  path : ∀ e ∈ c.pathEntries, Addable e.path e.position
  raw : ∀ l ∈ c.rawLines, Keepable l.content

theorem wellFormed_iff (c : Config) :
    c.WellFormed ↔ (∀ b ∈ c.bindings, Assignable b.1 b.2) ∧
      (∀ d ∈ c.directories, Addable d.1 d.2) ∧ ∀ s ∈ c.contents, Keepable s := by
  rw [bindings, directories, contents, List.forall_mem_map, List.forall_mem_map,
    List.forall_mem_map]
  constructor
  · rintro ⟨henv, hpath, hraw⟩
    exact ⟨henv, hpath, hraw⟩
  · rintro ⟨henv, hpath, hraw⟩
    exact ⟨henv, hpath, hraw⟩

theorem parse_wellFormed (text source : String) : (parse text source).WellFormed := by
  rw [wellFormed_iff, parse_eq_ofReadings, bindings_ofReadings, directories_ofReadings,
    contents_ofReadings]
  simp only [List.filterMap_map, List.mem_filterMap, Function.comp_apply]
  refine ⟨?_, ?_, ?_⟩
  · rintro b ⟨cs, -, hb⟩
    exact assignable_of_reading (Reading.binding?_eq_some_iff.mp hb)
  · rintro d ⟨cs, -, hd⟩
    exact addable_of_reading (Reading.directory?_eq_some_iff.mp hd)
  · rintro s ⟨cs, hcs, hs⟩
    exact keepable_of_reading (Lines.not_mem_of_mem_split _ cs hcs)
      (Reading.content?_eq_some_iff.mp hs)

end Config

end Dotfile

/-
What a written startup file says when it is read.

A written line says what it was written for, with one exception: a value that
is written without quotes and is itself enclosed by single ones loses these
(`peel`).

* `reading_text_env`, `reading_text_path` — the line of an assignment and the
  line of an addition to PATH;
* `readings_render` — the lines of a whole file: those of the variables, of
  the directories and of what was kept, with empty lines between the sections
  and at the end.  The way in which a shell refers to PATH does not show in it.
-/
import Dotfile.Config.Writer
import Dotfile.Proofs.Reading

namespace Dotfile

open Text Line

/-! ### Values without quotes -/

/-- Is `value` enclosed by single quotes, without a blank or any other character
that would have it written between double ones? -/
def isBareQuoted (value : String) : Bool :=
  value.toList.head? == some '\x27' && value.toList.getLast? == some '\x27' &&
    !value.toList.any fun c => isBlank c ||
      ['$', '\x60', '"', '\\', '!', '#', '&', '|', ';', '(', ')', '<', '>'].contains c

/-- The characters are those that the writer looks for. -/
theorem isBareQuoted_eq (value : String) :
    isBareQuoted value =
      (value.toList.head? == some '\x27' && value.toList.getLast? == some '\x27' &&
        !value.toList.any isTrigger) := rfl

/-- A value as it comes back when it is written and read. -/
def peel (value : String) : String :=
  if isBareQuoted value then String.ofList value.toList.tail.dropLast else value

theorem peel_of_not_isBareQuoted {value : String} (h : isBareQuoted value = false) :
    peel value = value := by
  rw [peel, h]
  rfl

theorem peel_eq_self_iff (value : String) : peel value = value ↔ isBareQuoted value = false := by
  constructor
  · intro h
    rw [← Bool.not_eq_true]
    intro hq
    rw [peel, if_pos hq] at h
    -- the peeled value is shorter
    have hlen := congrArg (fun s => s.toList.length) h
    simp only [String.toList_ofList, List.length_dropLast, List.length_tail] at hlen
    have hnil : value.toList = [] := by
      rw [← List.length_eq_zero_iff]
      omega
    simp [isBareQuoted_eq, hnil] at hq
  · exact peel_of_not_isBareQuoted

theorem isBareQuoted_of_needsQuotes {value : String} (h : needsQuotes value = true) :
    isBareQuoted value = false := by
  rw [needsQuotes, Bool.or_eq_true, List.isEmpty_iff] at h
  rcases h with h | h
  · simp [isBareQuoted_eq, h]
  · simp [isBareQuoted_eq, h]

theorem isBlank_eq_false_of_isTrigger {c : Char} (h : isTrigger c = false) : isBlank c = false := by
  rw [isTrigger, Bool.or_eq_false_iff] at h
  exact h.1

/-- A value that is written as it is. -/
theorem needsQuotes_eq_false_iff {value : String} :
    needsQuotes value = false ↔ value.toList ≠ [] ∧ ∀ c ∈ value.toList, isTrigger c = false := by
  simp [needsQuotes]

theorem unquote_of_not_needsQuotes {value : String} (h : needsQuotes value = false) :
    unquote value.toList = (peel value).toList := by
  obtain ⟨hne, htrig⟩ := needsQuotes_eq_false_iff.mp h
  have hdark : ∀ c ∈ value.toList, isBlank c = false :=
    fun c hc => isBlank_eq_false_of_isTrigger (htrig c hc)
  have htrim : trim value.toList = value.toList := (solid_of_forall hne hdark).trim_eq
  have hany : value.toList.any isTrigger = false := by simpa using htrig
  have hbare : isBareQuoted value = isEnclosedBy '\x27' value.toList := by
    rw [isBareQuoted_eq, hany, isEnclosedBy, Bool.not_false, Bool.and_true]
  -- a double quote would have the value quoted, so only a single one can enclose it
  have hdouble : isEnclosedBy '"' value.toList = false := by
    rw [← Bool.not_eq_true, isEnclosedBy, Bool.and_eq_true, beq_iff_eq]
    rintro ⟨hhead, -⟩
    exact absurd (htrig '"' (List.mem_of_mem_head? hhead)) (by decide)
  have henclosed : isEnclosed value.toList = isBareQuoted value := by
    rw [isEnclosed, hdouble, Bool.false_or, hbare]
  rw [← htrim] at henclosed
  cases hq : isBareQuoted value with
  | false => rw [unquote_of_not_isEnclosed (henclosed.trans hq), htrim, peel_of_not_isBareQuoted hq]
  | true =>
    rw [unquote_of_isEnclosed (henclosed.trans hq), htrim, peel, if_pos hq, String.toList_ofList]

/-! ### Lines -/

/-- The line that exports `value`, written so, under `name`. -/
def exportLine (name value : List Char) : List Char :=
  exportWord ++ ' ' :: (name ++ '=' :: value)

theorem assigns_exportLine {name value : List Char} (hname : IsName name)
    (hvalue : StartsDark value) : Assigns (exportLine name value) name value := by
  refine ⟨exportWord ++ [' '], name ++ '=' :: value, .inr ⟨[' '], by simp, ?_, rfl⟩, ?_, ?_⟩
  · intro c hc
    obtain rfl := List.mem_singleton.mp hc
    decide
  · exact ⟨hname, hvalue, [], [], allBlank_nil, allBlank_nil, rfl⟩
  · simp [exportLine]

theorem solid_exportLine (name : List Char) {value : List Char} (h : Solid value) :
    Solid (exportLine name value) := by
  have hline : exportLine name value =
      'e' :: (['x', 'p', 'o', 'r', 't', ' '] ++ name ++ ['='] ++ value) := by
    simp [exportLine, exportWord]
  rw [hline]
  exact h.cons_append (by decide)

theorem newline_mem_exportLine {name value : List Char} :
    '\n' ∈ exportLine name value ↔ '\n' ∈ name ∨ '\n' ∈ value := by
  simp [exportLine, exportWord]

/-- A value as it is written. -/
def writtenValue (value : String) : List Char :=
  if needsQuotes value then '"' :: (value.toList ++ ['"']) else value.toList

theorem EnvVar.toList_text (v : EnvVar) :
    v.text.toList = exportLine v.name.toList (writtenValue v.value) := by
  rw [EnvVar.text, writtenValue]
  split
  · simp [exportLine, exportWord]
  · simp [exportLine, exportWord]

/-- The value that adds a directory to PATH, before it is put between quotes. -/
def PathEntry.value (ref : PathRef) (e : PathEntry) : List Char :=
  match e.position with
  | .prepend => e.path.toList ++ ':' :: ref.text.toList
  | .append => ref.text.toList ++ ':' :: e.path.toList

theorem PathEntry.toList_text (ref : PathRef) (e : PathEntry) :
    (e.text ref).toList = exportLine pathWord ('"' :: (e.value ref ++ ['"'])) := by
  obtain ⟨path, position, line, source⟩ := e
  cases position with
  | prepend => simp [PathEntry.text, PathEntry.value, exportLine, exportWord, pathWord]
  | append => simp [PathEntry.text, PathEntry.value, exportLine, exportWord, pathWord]

/-- Each spelling that is written is one of those that are read. -/
theorem PathRef.toList_text_mem_references (ref : PathRef) : ref.text.toList ∈ references := by
  cases ref with
  | bare => exact List.mem_cons_self
  | braced => simp [references, PathRef.text, pathWord]

theorem solid_writtenValue (value : String) : Solid (writtenValue value) := by
  rw [writtenValue]
  split
  · exact solid_between (by decide) value.toList
  · rename_i h
    rw [Bool.not_eq_true] at h
    obtain ⟨hne, htrig⟩ := needsQuotes_eq_false_iff.mp h
    exact solid_of_forall hne fun c hc => isBlank_eq_false_of_isTrigger (htrig c hc)

theorem unquote_writtenValue (value : String) :
    unquote (writtenValue value) = (peel value).toList := by
  rw [writtenValue]
  split
  · rename_i h
    rw [unquote_between '"' (by decide), peel_of_not_isBareQuoted (isBareQuoted_of_needsQuotes h)]
  · rename_i h
    rw [Bool.not_eq_true] at h
    exact unquote_of_not_needsQuotes h

theorem newline_mem_writtenValue (value : String) :
    '\n' ∈ writtenValue value ↔ '\n' ∈ value.toList := by
  rw [writtenValue]
  split
  · simp
  · rfl

theorem reading_text_env {v : EnvVar} (h : Assignable v.name v.value) :
    reading v.text.toList = .assigns v.name (peel v.value) := by
  have hsolid := solid_writtenValue v.value
  rw [reading_eq_assigns_iff, EnvVar.toList_text, (solid_exportLine _ hsolid).trim_eq,
    readEnv?_eq_some_iff]
  refine ⟨writtenValue v.value, ?_, ?_, ?_, ?_⟩
  · exact assigns_exportLine h.isName hsolid.startsDark
  · exact fun hn => h.newline_not_mem ((newline_mem_writtenValue v.value).mp hn)
  · exact fun hp => h.ne_path (toList_eq_pathWord_iff.mp hp)
  · rw [unquote_writtenValue, String.ofList_toList]

theorem PathEntry.adds_value {e : PathEntry} (ref : PathRef) (h : Addable e.path e.position) :
    Adds (e.value ref) e.path.toList e.position := by
  have href := ref.toList_text_mem_references
  have hne : e.path.toList ≠ [] := by simpa using h.ne_empty
  obtain ⟨path, position, line, source⟩ := e
  cases position with
  | prepend => exact ⟨hne, ref.text.toList, href, rfl⟩
  | append =>
    refine ⟨⟨hne, ref.text.toList, href, rfl⟩, ?_⟩
    intro hex
    exact h.not_endsInReference rfl ((exists_prepends_iff href).mp hex)

theorem PathEntry.newline_not_mem_value {e : PathEntry} (ref : PathRef)
    (h : '\n' ∉ e.path.toList) : '\n' ∉ e.value ref := by
  have href : '\n' ∉ ref.text.toList := by cases ref <;> decide
  obtain ⟨path, position, line, source⟩ := e
  cases position with
  | prepend => simpa [PathEntry.value] using ⟨h, href⟩
  | append => simpa [PathEntry.value] using ⟨href, h⟩

theorem reading_text_path {e : PathEntry} (ref : PathRef) (h : Addable e.path e.position) :
    reading (e.text ref).toList = .adds e.path e.position := by
  have hquote : isQuote '"' = true := by decide
  have hsolid := solid_between hquote (e.value ref)
  rw [reading_eq_adds_iff, PathEntry.toList_text, (solid_exportLine _ hsolid).trim_eq,
    readPath?_eq_some_iff]
  refine ⟨'"' :: (e.value ref ++ ['"']), ?_, ?_, ?_⟩
  · exact assigns_exportLine (by decide) hsolid.startsDark
  · simpa using e.newline_not_mem_value ref h.newline_not_mem
  · rw [unquote_between '"' hquote]
    exact e.adds_value ref h

/-! ### Files -/

/-- The number of sections that entries of one kind take. -/
def sectionsOf {α : Type} (entries : List α) : Nat :=
  if entries.isEmpty then 0 else 1

namespace Config

/-- The number of sections that are not empty. -/
def sectionCount (c : Config) : Nat :=
  sectionsOf c.envVars + sectionsOf c.pathEntries + sectionsOf c.rawLines

/-- The number of empty lines that are written before the kept lines.  They
stand between two sections; the file of the empty configuration has one, too. -/
def separators (c : Config) : Nat :=
  if c.isEmpty then 1 else c.sectionCount - 1

theorem closed_lines (c : Config) :
    ∃ a b, a + b = c.separators ∧ ∀ ref, Lines.closed ((c.lines ref).map String.toList) =
      c.envVars.map (fun v => v.text.toList) ++ List.replicate a [] ++
        c.pathEntries.map (fun e => (e.text ref).toList) ++ List.replicate b [] ++
        c.rawLines.map (fun l => l.content.toList) ++ [[]] := by
  -- `a` empty lines follow the variables and `b` the directories
  obtain ⟨env, path, raw⟩ := c
  cases env with
  | nil =>
    cases path with
    | nil =>
      cases raw with
      | nil => exact ⟨1, 0, rfl, fun ref => rfl⟩
      | cons l raw => exact ⟨0, 0, rfl, fun ref => by simp [lines, sections, Lines.closed]⟩
    | cons e path =>
      cases raw with
      | nil => exact ⟨0, 0, rfl, fun ref => by simp [lines, sections, Lines.closed]⟩
      | cons l raw =>
        exact ⟨0, 1, rfl, fun ref => by simp [lines, sections, Lines.closed, Function.comp_def]⟩
  | cons v env =>
    cases path with
    | nil =>
      cases raw with
      | nil => exact ⟨0, 0, rfl, fun ref => by simp [lines, sections, Lines.closed]⟩
      | cons l raw =>
        exact ⟨1, 0, rfl, fun ref => by simp [lines, sections, Lines.closed, Function.comp_def]⟩
    | cons e path =>
      cases raw with
      | nil =>
        exact ⟨1, 0, rfl, fun ref => by simp [lines, sections, Lines.closed, Function.comp_def]⟩
      | cons l raw =>
        exact ⟨1, 1, rfl, fun ref => by simp [lines, sections, Lines.closed, Function.comp_def]⟩

theorem newline_not_mem_text_env {v : EnvVar} (h : Assignable v.name v.value) :
    '\n' ∉ v.text.toList := by
  rw [EnvVar.toList_text, newline_mem_exportLine, newline_mem_writtenValue, not_or]
  exact ⟨newline_not_mem_of_isName h.isName, h.newline_not_mem⟩

theorem newline_not_mem_text_path {e : PathEntry} (ref : PathRef) (h : '\n' ∉ e.path.toList) :
    '\n' ∉ (e.text ref).toList := by
  rw [PathEntry.toList_text, newline_mem_exportLine, not_or]
  exact ⟨by decide, by simpa using e.newline_not_mem_value ref h⟩

theorem readings_render {c : Config} (h : c.WellFormed) :
    ∃ a b, a + b = c.separators ∧ ∀ ref, (Lines.split (c.render ref).toList).map reading =
      c.envVars.map (fun v => .assigns v.name (peel v.value)) ++
        List.replicate a (.keeps "") ++
        c.pathEntries.map (fun e => .adds e.path e.position) ++ List.replicate b (.keeps "") ++
        c.rawLines.map (fun l => .keeps l.content) ++ [.keeps ""] := by
  obtain ⟨a, b, hab, hlines⟩ := c.closed_lines
  refine ⟨a, b, hab, fun ref => ?_⟩
  -- no written line holds a newline, so the reader sees the lines that were written
  have hnl : ∀ l ∈ Lines.closed ((c.lines ref).map String.toList), '\n' ∉ l := by
    rw [hlines ref]
    intro l hl
    simp only [List.mem_append, List.mem_map, List.mem_replicate, List.mem_singleton] at hl
    rcases hl with ((((⟨v, hv, rfl⟩ | ⟨-, rfl⟩) | ⟨e, he, rfl⟩) | ⟨-, rfl⟩) | ⟨r, hr, rfl⟩) | rfl
    · exact newline_not_mem_text_env (h.env v hv)
    · simp
    · exact newline_not_mem_text_path ref (h.path e he).newline_not_mem
    · simp
    · exact (h.raw r hr).newline_not_mem
    · simp
  -- and each says what it was written for
  have henv : c.envVars.map (fun v => reading v.text.toList) =
      c.envVars.map (fun v => .assigns v.name (peel v.value)) :=
    List.map_congr_left fun v hv => reading_text_env (h.env v hv)
  have hpath : c.pathEntries.map (fun e => reading (e.text ref).toList) =
      c.pathEntries.map (fun e => .adds e.path e.position) :=
    List.map_congr_left fun e he => reading_text_path ref (h.path e he)
  have hraw : c.rawLines.map (fun l => reading l.content.toList) =
      c.rawLines.map (fun l => .keeps l.content) :=
    List.map_congr_left fun l hl => (h.raw l hl).reading_eq
  rw [render, String.toList_ofList, Lines.split_join_newline hnl, hlines ref]
  simp only [List.map_append, List.map_map, List.map_replicate, List.map_singleton, reading_nil,
    Function.comp_def, henv, hpath, hraw]

end Config

end Dotfile

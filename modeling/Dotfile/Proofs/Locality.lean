/-
A file is read line by line.

What a line gives depends on that line alone, and only a line that is kept is
more to the reader than what is left of it after trimming.

* `Lines.split_append_newline`, `entries_append_newline` — the entries of two
  texts with a newline between them are those of the one and then, moved down,
  those of the other;
* `parse_append_newline` — so it is with the configurations;
* `Entry.ofLine_of_trim_eq` — lines that are trimmed to the same give the same
  entry, but for the text that is kept;
* `parse_determined_by_trim` — so it is with files, and therefore with the two
  ways to end a line.

Entries are changed through `Entry.map`, which never changes their kind, so that
sorting by kind has to be looked at only once (`ofEntries_map`).
-/
import Dotfile.Proofs.Numbering

namespace Dotfile

open Text

theorem Text.Lines.split_append_newline (a b : List Char) :
    Lines.split (a ++ '\n' :: b) = Lines.split a ++ Lines.split b := by
  rw [Lines.split_eq_splitOn, Lines.split_eq_splitOn, Lines.split_eq_splitOn, List.splitOn,
    List.splitOnP_append_cons a b (by simp)]
  rfl

/-! ### Changing entries within their kind -/

namespace Entry

/-- An entry changed by the function for its kind. -/
def map (f : EnvVar → EnvVar) (g : PathEntry → PathEntry) (h : RawLine → RawLine) : Entry → Entry
  | env v => env (f v)
  | path e => path (g e)
  | raw l => raw (h l)

/-- The entry of the line that is `k` lines further down. -/
def moveDown (k : Nat) : Entry → Entry :=
  map (fun v => { v with line := v.line.map (· + k) })
    (fun e => { e with line := e.line.map (· + k) })
    (fun l => { l with line := l.line.map (· + k) })

/-- The entry with `f` done to it if it is a line that is kept. -/
def mapRaw (f : RawLine → RawLine) : Entry → Entry :=
  map id id f

theorem mapRaw_mapRaw (f g : RawLine → RawLine) (e : Entry) :
    (e.mapRaw f).mapRaw g = e.mapRaw (g ∘ f) := by
  cases e <;> rfl

theorem ofLine_add (source : String) (cs : List Char) (n k : Nat) :
    ofLine source cs (n + k) = (ofLine source cs n).moveDown k := by
  rw [ofLine_eq_entry, ofLine_eq_entry]
  cases Line.reading cs <;> rfl

end Entry

namespace Config

instance : Append Config where
  append c d := ⟨c.envVars ++ d.envVars, c.pathEntries ++ d.pathEntries, c.rawLines ++ d.rawLines⟩

/-- The configuration with every line number increased by `k`. -/
def moveDown (k : Nat) (c : Config) : Config where
  envVars := c.envVars.map fun v => { v with line := v.line.map (· + k) }
  pathEntries := c.pathEntries.map fun e => { e with line := e.line.map (· + k) }
  rawLines := c.rawLines.map fun l => { l with line := l.line.map (· + k) }

theorem ofEntries_append (es es' : List Entry) :
    ofEntries (es ++ es') = ofEntries es ++ ofEntries es' := by
  simp only [ofEntries, List.filterMap_append]
  rfl

theorem ofEntries_map (f : EnvVar → EnvVar) (g : PathEntry → PathEntry) (h : RawLine → RawLine)
    (es : List Entry) :
    ofEntries (es.map (Entry.map f g h)) =
      ⟨(ofEntries es).envVars.map f, (ofEntries es).pathEntries.map g,
        (ofEntries es).rawLines.map h⟩ := by
  have henv : ∀ e : Entry, (e.map f g h).env? = e.env?.map f := by intro e; cases e <;> rfl
  have hpath : ∀ e : Entry, (e.map f g h).path? = e.path?.map g := by intro e; cases e <;> rfl
  have hraw : ∀ e : Entry, (e.map f g h).raw? = e.raw?.map h := by intro e; cases e <;> rfl
  simp only [ofEntries, List.filterMap_map, List.map_filterMap, Function.comp_def, henv, hpath,
    hraw]

theorem ofEntries_moveDown (k : Nat) (es : List Entry) :
    ofEntries (es.map (Entry.moveDown k)) = (ofEntries es).moveDown k :=
  ofEntries_map _ _ _ es

/-! ### Two texts, one after the other -/

theorem entries_append_newline (a b source : String) :
    entries (a ++ "\n" ++ b) source =
      entries a source ++ (entries b source).map (Entry.moveDown (a.toList.count '\n' + 1)) := by
  have hnewline : (a ++ "\n" ++ b).toList = a.toList ++ '\n' :: b.toList := by
    rw [String.toList_append, String.toList_append, List.append_assoc]
    rfl
  rw [entries, entries, entries, Lines.numbered, hnewline, Lines.split_append_newline,
    List.zipIdx_append, List.map_append, Lines.length_split, ← Lines.numbered]
  congr 1
  rw [Nat.add_comm, ← List.map_snd_add_zipIdx_eq_zipIdx, List.map_map, List.map_map, Lines.numbered]
  apply List.map_congr_left
  rintro ⟨cs, n⟩ -
  exact Entry.ofLine_add source cs n _

/-- **A file is read line by line.**  The entries of two texts, put one after the
other with a newline between them, are those of the first and, further down by as
many lines as the first has, those of the second. -/
theorem parse_append_newline (a b source : String) :
    parse (a ++ "\n" ++ b) source =
      parse a source ++ (parse b source).moveDown (a.toList.count '\n' + 1) := by
  rw [parse_eq_ofEntries, entries_append_newline, ofEntries_append, ofEntries_moveDown]
  rfl

end Config

/-! ### Blanks around a line -/

namespace Entry

variable {source : String} {cs ds : List Char} {n : Nat}

/-- Lines that are trimmed to the same give the same entry, but for the text
that is kept. -/
theorem ofLine_of_trim_eq (h : trim cs = trim ds) :
    ofLine source ds n =
      (ofLine source cs n).mapRaw fun l => { l with content := String.ofList ds } := by
  rw [ofLine, ofLine, h]
  split
  · rfl
  · split
    · rfl
    · split
      · rfl
      · rfl

/-- A kept line without its text. -/
def blot (l : RawLine) : RawLine :=
  { l with content := "" }

theorem mapRaw_blot_ofLine_trim (source : String) (cs : List Char) (n : Nat) :
    (ofLine source (trim cs) n).mapRaw blot = (ofLine source cs n).mapRaw blot := by
  rw [ofLine_of_trim_eq (trim_trim cs).symm, mapRaw_mapRaw]
  rfl

end Entry

/-- Is `l` a line of `text`, with its number? -/
def RawLine.IsLineOf (l : RawLine) (text : String) : Prop :=
  ∃ i, l.line = some (i + 1) ∧ (text.toList.splitOn '\n')[i]? = some l.content.toList

namespace Config

variable {text text' source : String}

theorem ofEntries_mapRaw (f : RawLine → RawLine) (es : List Entry) :
    ofEntries (es.map (Entry.mapRaw f)) =
      { ofEntries es with rawLines := (ofEntries es).rawLines.map f } := by
  have h := ofEntries_map id id f es
  rwa [List.map_id, List.map_id] at h

/-- Without the texts of its kept lines, a file is told by its trimmed lines. -/
theorem map_blot_entries (text source : String) :
    (entries text source).map (Entry.mapRaw Entry.blot) =
      (((text.toList.splitOn '\n').map trim).zipIdx 1).map fun (cs, n) =>
        (Entry.ofLine source cs n).mapRaw Entry.blot := by
  rw [entries, Lines.numbered, Lines.split_eq_splitOn, List.zipIdx_map, List.map_map, List.map_map]
  apply List.map_congr_left
  rintro ⟨cs, n⟩ -
  exact (Entry.mapRaw_blot_ofLine_trim source cs n).symm

theorem blot_parse_of_trim_eq (source : String)
    (h : (text.toList.splitOn '\n').map trim = (text'.toList.splitOn '\n').map trim) :
    ({ parse text source with rawLines := (parse text source).rawLines.map Entry.blot } : Config) =
      { parse text' source with rawLines := (parse text' source).rawLines.map Entry.blot } := by
  rw [parse_eq_ofEntries, parse_eq_ofEntries, ← ofEntries_mapRaw, ← ofEntries_mapRaw,
    map_blot_entries, map_blot_entries, h]

theorem isLineOf_of_mem_rawLines {l : RawLine} (h : l ∈ (parse text source).rawLines) :
    l.IsLineOf text := by
  obtain ⟨cs, i, hcs, hline⟩ :=
    mem_entries_iff.mp (make_mem_entries Entry.raw?_eq_some_iff h)
  obtain rfl := Entry.ofLine_eq_raw hline
  exact ⟨i, rfl, by rw [String.toList_ofList, hcs]⟩

end Config

/-! ### Carriage returns -/

/-- The text with a carriage return before every newline. -/
def crlf (text : String) : String :=
  String.ofList (text.toList.flatMap fun c => if c = '\n' then ['\r', '\n'] else [c])

namespace Text.Lines

/-- Lines with a carriage return at the end of each but the last. -/
def returned : List (List Char) → List (List Char)
  | [] => []
  | [l] => [l]
  | l :: m :: ls => (l ++ ['\r']) :: returned (m :: ls)

theorem split_crlf (cs : List Char) :
    split (cs.flatMap fun c => if c = '\n' then ['\r', '\n'] else [c]) = returned (split cs) := by
  induction cs with
  | nil => rfl
  | cons c cs ih =>
    obtain ⟨l, ls, hl⟩ := List.exists_cons_of_ne_nil (split_ne_nil cs)
    rw [hl] at ih
    rw [List.flatMap_cons]
    by_cases hc : c = '\n'
    · rw [if_pos hc, split, if_pos hc, hl, returned, ← ih]
      rfl
    · rw [if_neg hc, List.singleton_append, split, split, if_neg hc, if_neg hc, ih, hl]
      cases ls with
      | nil => rfl
      | cons m ls => rfl

end Text.Lines

/-- A kept line with a carriage return at its end, unless its number is `last`. -/
def RawLine.withReturn (last : Nat) (l : RawLine) : RawLine :=
  if l.line = some last then l else { l with content := l.content ++ "\r" }

namespace Entry

theorem mapRaw_congr {f g : RawLine → RawLine} {e : Entry} (h : ∀ l, e = raw l → f l = g l) :
    e.mapRaw f = e.mapRaw g := by
  cases e with
  | env v => rfl
  | path e => rfl
  | raw l => exact congrArg raw (h l rfl)

theorem ofLine_append_return (source : String) (cs : List Char) {n last : Nat} (h : n ≠ last) :
    ofLine source (cs ++ ['\r']) n = (ofLine source cs n).mapRaw (RawLine.withReturn last) := by
  have hreturn : AllBlank ['\r'] := List.forall_mem_singleton.mpr (by decide)
  rw [ofLine_of_trim_eq (trim_append_of_allBlank cs hreturn).symm]
  apply mapRaw_congr
  intro l hl
  obtain rfl := ofLine_eq_raw hl
  rw [RawLine.withReturn, if_neg (by simpa using h), String.ofList_append]

theorem mapRaw_withReturn_ofLine (source : String) (cs : List Char) (n : Nat) :
    (ofLine source cs n).mapRaw (RawLine.withReturn n) = ofLine source cs n := by
  have hself : (ofLine source cs n).mapRaw id = ofLine source cs n := by
    cases ofLine source cs n <;> rfl
  refine (mapRaw_congr ?_).trans hself
  intro l hl
  obtain rfl := ofLine_eq_raw hl
  exact if_pos rfl

end Entry

namespace Config

theorem entries_returned (source : String) (ls : List (List Char)) {k last : Nat}
    (h : k + ls.length = last + 1) :
    ((Lines.returned ls).zipIdx k).map (fun (cs, n) => Entry.ofLine source cs n) =
      ((ls.zipIdx k).map fun (cs, n) => Entry.ofLine source cs n).map
        (Entry.mapRaw (RawLine.withReturn last)) := by
  induction ls using Lines.returned.induct generalizing k with
  | case1 => rfl
  | case2 l =>
    obtain rfl : k = last := by simpa using h
    exact congrArg (· :: []) (Entry.mapRaw_withReturn_ofLine source l k).symm
  | case3 l m ls ih =>
    rw [List.length_cons, List.length_cons] at h
    rw [Lines.returned, List.zipIdx_cons, List.zipIdx_cons, List.map_cons, List.map_cons,
      List.map_cons, ih (by rw [List.length_cons]; omega)]
    exact congrArg (· :: _) (Entry.ofLine_append_return source l (by omega))

theorem parse_crlf (text source : String) :
    parse (crlf text) source =
      { parse text source with
        rawLines := (parse text source).rawLines.map
          (RawLine.withReturn (text.toList.count '\n' + 1)) } := by
  have hentries : entries (crlf text) source =
      (entries text source).map
        (Entry.mapRaw (RawLine.withReturn (text.toList.count '\n' + 1))) := by
    rw [entries, entries, crlf, String.toList_ofList, Lines.numbered, Lines.numbered,
      Lines.split_crlf]
    exact entries_returned source _ (by rw [Lines.length_split]; omega)
  rw [parse_eq_ofEntries, hentries, ofEntries_mapRaw, parse_eq_ofEntries]

/-- **Blanks around a line do not matter.**  Two texts whose lines are trimmed to
the same have the same variables and directories, with their lines, and keep lines
of the same numbers, each as it stands in its own text.  So it does not matter
either whether lines are ended by a newline alone: with a carriage return before
every newline, a file is the same but for the carriage returns at the end of the
lines that are kept, of which the last line has none. -/
theorem parse_determined_by_trim (text source : String) :
    (∀ text' : String,
      (text.toList.splitOn '\n').map trim = (text'.toList.splitOn '\n').map trim →
        (parse text source).envVars = (parse text' source).envVars ∧
        (parse text source).pathEntries = (parse text' source).pathEntries ∧
        (parse text source).rawLines.map RawLine.line =
          (parse text' source).rawLines.map RawLine.line ∧
        (∀ l ∈ (parse text source).rawLines, l.IsLineOf text) ∧
        ∀ l ∈ (parse text' source).rawLines, l.IsLineOf text') ∧
    parse (crlf text) source =
      { parse text source with
        rawLines := (parse text source).rawLines.map
          (RawLine.withReturn (text.toList.count '\n' + 1)) } := by
  refine ⟨?_, parse_crlf text source⟩
  intro text' htrim
  obtain ⟨henv, hpath, hraw⟩ := Config.mk.inj (blot_parse_of_trim_eq source htrim)
  refine ⟨henv, hpath, ?_, fun l => isLineOf_of_mem_rawLines, fun l => isLineOf_of_mem_rawLines⟩
  have hlines := congrArg (List.map RawLine.line) hraw
  rwa [List.map_map, List.map_map] at hlines

/-- Tabs, a carriage return and a space that does not break stand around the same lines. -/
theorem parse_determined_by_trim_sample :
    let text := "  export A=1\n# kept \nPATH=/x:$PATH"
    let text' := "export A=1\t\n\t# kept\r\n PATH=/x:$PATH\u00a0"
    (text.toList.splitOn '\n').map trim = (text'.toList.splitOn '\n').map trim ∧
      (parse text' "f").envVars = [⟨"A", "1", some 1, "f"⟩] ∧
      (parse text' "f").pathEntries = [⟨"/x", .prepend, some 3, "f"⟩] ∧
      (parse text' "f").rawLines.map RawLine.line = [some 2] ∧
      (⟨"\t# kept\r", some 2, "f"⟩ : RawLine).IsLineOf text' := by
  intro text text'
  have htrim : (text.toList.splitOn '\n').map trim = (text'.toList.splitOn '\n').map trim := by
    decide +kernel
  obtain ⟨henv, hpath, hraw, -, hkept⟩ := (parse_determined_by_trim text "f").1 text' htrim
  rw [← henv, ← hpath, ← hraw]
  exact ⟨htrim, by decide +kernel, by decide +kernel, by decide +kernel,
    hkept _ (by decide +kernel)⟩

end Config

end Dotfile

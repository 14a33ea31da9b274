/-
Files under changes of the file system.

Making directories only adds to what there is, and writing a file changes one
location.

* `Adds` — one file system has some directories more than another;
* `adds_makeDirs` — so much can come of making directories, also if it fails;
* `writeFile_cases` — a file is written where its path leads, before and after;
* `find?_writeFile`, `find?_save` — and is found there then;
* `refuses` — whether writing is refused where a path leads;
* `makeParents_of_file`, `writeFile_of_file`, `save_of_file` — a file that is
  there can be written exactly if that is not refused, and no directory is made
  for it.

The last three lemmas need that a path that leads to a file names it at its end.  A path
may well end with `..`; but what is above a directory that a path leads through
is a directory, if that is so where the path starts (`Rooted`), as it is at the
root.
-/
import Dotfile.FileSystem
import Mathlib.Data.List.Basic

namespace Dotfile

namespace FileSystem

variable {fs fs' : FileSystem} {cwd loc : Location}

/-! ### Nodes -/

@[simp]
theorem get?_nil (fs : FileSystem) : fs.get? [] = some .directory := rfl

theorem get?_set (fs : FileSystem) (hloc : loc ≠ []) (node : Node) (other : Location) :
    (fs.set loc node).get? other = if other = loc then some node else fs.get? other := by
  have hfilter : ∀ nodes : List (Location × Node), other ≠ loc →
      (nodes.filter (·.1 ≠ loc)).lookup other = nodes.lookup other := by
    intro nodes hne
    induction nodes with
    | nil => rfl
    | cons e nodes ih =>
      by_cases he : e.1 = loc
      · have hother : (other == e.1) = false := by simpa [he] using hne
        rw [List.filter_cons_of_neg (by simpa using he), ih, List.lookup_cons, hother]
      · rw [List.filter_cons_of_pos (by simpa using he), List.lookup_cons, List.lookup_cons, ih]
  by_cases hother : other = loc
  · rw [if_pos hother, hother, get?, if_neg hloc, set, List.lookup_cons_self]
  · rw [if_neg hother, get?, get?]
    by_cases hnil : other = []
    · rw [if_pos hnil, if_pos hnil]
    · have hne : (other == loc) = false := by simpa using hother
      rw [if_neg hnil, if_neg hnil, set, List.lookup_cons, hne]
      exact hfilter fs.nodes hother

theorem bytes?_eq_of_get?_eq (h : fs'.get? loc = fs.get? loc) : fs'.bytes? loc = fs.bytes? loc := by
  rw [bytes?, bytes?, h]

/-! ### Directories that are added -/

/-- Is `fs'` what `fs` is, but for some directories where nothing was? -/
def Adds (fs fs' : FileSystem) : Prop :=
  ∀ loc, fs'.get? loc = fs.get? loc ∨ fs.get? loc = none ∧ fs'.get? loc = some .directory

theorem Adds.refl (fs : FileSystem) : fs.Adds fs := fun _ => .inl rfl

theorem Adds.trans {fs'' : FileSystem} (h : fs.Adds fs') (h' : fs'.Adds fs'') : fs.Adds fs'' := by
  intro loc
  rcases h' loc with heq' | ⟨hnone', hdir'⟩
  · rw [heq']
    exact h loc
  · rcases h loc with heq | ⟨-, hdir⟩
    · exact .inr ⟨heq ▸ hnone', hdir'⟩
    · rw [hdir] at hnone'
      exact absurd hnone' (by simp)

theorem Adds.bytes?_eq (h : fs.Adds fs') (loc : Location) : fs'.bytes? loc = fs.bytes? loc := by
  rcases h loc with heq | ⟨hnone, hdir⟩
  · exact bytes?_eq_of_get?_eq heq
  · rw [bytes?, bytes?, hnone, hdir]

theorem Adds.get?_directory (h : fs.Adds fs') (hdir : fs.get? loc = some .directory) :
    fs'.get? loc = some .directory := by
  rcases h loc with heq | ⟨-, hdir'⟩
  · exact heq.trans hdir
  · exact hdir'

theorem adds_makeDir {pieces : List (List Char)} (h : fs.makeDir cwd pieces = .ok fs') :
    fs.Adds fs' := by
  rw [makeDir] at h
  split at h
  · exact absurd h (by simp)
  · rename_i loc last _
    dsimp only at h
    split_ifs at h with hdots hlong hsome hdenied
    rw [Except.ok.injEq] at h
    intro other
    rw [← h, get?_set fs (by simp)]
    by_cases hother : other = loc ++ [String.ofList last]
    · rw [if_pos hother, hother]
      exact .inr ⟨by simpa using hsome, rfl⟩
    · rw [if_neg hother]
      exact .inl rfl

theorem adds_ensureDir {pieces : List (List Char)} (h : fs.ensureDir cwd pieces = .ok fs') :
    fs.Adds fs' := by
  rw [ensureDir] at h
  split at h
  · rename_i made hmade
    rw [Except.ok.injEq] at h
    exact h ▸ adds_makeDir hmade
  · split_ifs at h
    rw [Except.ok.injEq] at h
    exact h ▸ Adds.refl fs

/-- What has been made stays where a later directory fails, but it is
directories only. -/
theorem adds_makeDirs (fs : FileSystem) (cwd : Location) (dirs : List (List (List Char))) :
    fs.Adds (fs.makeDirs cwd dirs).files := by
  induction dirs with
  | nil => exact Adds.refl fs
  | cons dir above ih =>
    rw [makeDirs]
    split
    · rename_i files hfiles
      exact adds_ensureDir hfiles
    · dsimp only
      split
      · exact ih
      · split
        · rename_i files hfiles
          exact ih.trans (adds_ensureDir hfiles)
        · exact ih
    · exact Adds.refl fs

theorem adds_makeParents (fs : FileSystem) (cwd : Location) (path : String) :
    fs.Adds (fs.makeParents cwd path).files :=
  adds_makeDirs fs cwd _

/-! ### Where a path leads -/

theorem walk_append (fs : FileSystem) (loc : Location) (as bs : List (List Char)) :
    fs.walk loc (as ++ bs) = (fs.walk loc as).bind fun l => fs.walk l bs := by
  induction as generalizing loc with
  | nil => rfl
  | cons piece as ih =>
    rw [List.cons_append, walk, walk]
    split
    · rfl
    · rfl
    · split_ifs
      · exact ih loc
      · exact ih loc.dropLast
      · rfl
      · exact ih _

theorem get?_of_walk_cons {piece : List Char} {rest : List (List Char)} {l : Location}
    (h : fs.walk loc (piece :: rest) = .ok l) : fs.get? loc = some .directory := by
  rw [walk] at h
  split at h
  · exact absurd h (by simp)
  · exact absurd h (by simp)
  · assumption

theorem walk_append_eq_ok_iff {as bs : List (List Char)} {l : Location} :
    fs.walk loc (as ++ bs) = .ok l ↔ ∃ m, fs.walk loc as = .ok m ∧ fs.walk m bs = .ok l := by
  rw [walk_append]
  cases fs.walk loc as with
  | error e => simp [Except.bind]
  | ok m => simp [Except.bind]

/-- A path leads on through the directories of a file system, so it leads to
the same place where they are directories, too. -/
theorem walk_mono (h : ∀ l, fs.get? l = some .directory → fs'.get? l = some .directory)
    {pieces : List (List Char)} {l : Location} (hwalk : fs.walk loc pieces = .ok l) :
    fs'.walk loc pieces = .ok l := by
  induction pieces generalizing loc with
  | nil => exact hwalk
  | cons piece rest ih =>
    have hdir := get?_of_walk_cons hwalk
    rw [walk, hdir] at hwalk
    rw [walk, h loc hdir]
    split_ifs at hwalk ⊢
    · exact ih hwalk
    · exact ih hwalk
    · exact ih hwalk

theorem locate_eq_ok_iff {pieces : List (List Char)} {l : Location} :
    fs.locate cwd pieces = .ok l ↔
      pathBytes pieces ≤ pathLimit ∧ pieces ≠ [[]] ∧ fs.walk (start cwd pieces) pieces = .ok l := by
  rw [locate]
  split_ifs with hlong hnil
  · simp [Nat.not_le.mpr hlong]
  · simp [hnil]
  · simp [hnil, Nat.not_lt.mp hlong]

theorem locate_mono (h : ∀ l, fs.get? l = some .directory → fs'.get? l = some .directory)
    {pieces : List (List Char)} {l : Location} (hlocate : fs.locate cwd pieces = .ok l) :
    fs'.locate cwd pieces = .ok l := by
  obtain ⟨hbytes, hne, hwalk⟩ := locate_eq_ok_iff.mp hlocate
  exact locate_eq_ok_iff.mpr ⟨hbytes, hne, walk_mono h hwalk⟩

end FileSystem

namespace Path

theorem isIdle_eq_false_iff {piece : List Char} :
    isIdle piece = false ↔ piece ≠ [] ∧ piece ≠ ['.'] := by
  simp [isIdle]

theorem pieces_ne_nil (cs : List Char) : pieces cs ≠ [] := by
  cases cs with
  | nil => simp [pieces]
  | cons c cs =>
    rw [pieces]
    split_ifs
    · simp
    · split
      · simp
      · simp

theorem exists_pieces_eq_concat (cs : List Char) : ∃ before last, pieces cs = before ++ [last] :=
  (List.eq_nil_or_concat' (pieces cs)).resolve_left (pieces_ne_nil cs)

theorem head?_pieces {path : String} (h : isAbsolute path = true) :
    (pieces path.toList).head? = some [] := by
  rw [isAbsolute, beq_iff_eq, List.head?_eq_some_iff] at h
  obtain ⟨cs, hcs⟩ := h
  rw [hcs, pieces, if_pos rfl, List.head?_cons]

theorem isAbsolute_join {base : String} (h : isAbsolute base = true) (path : String) :
    isAbsolute (join base path) = true := by
  rw [isAbsolute, beq_iff_eq, List.head?_eq_some_iff] at h
  obtain ⟨cs, hcs⟩ := h
  rw [join]
  split_ifs with hpath
  · exact hpath
  · simp [isAbsolute, hcs]
  · simp [isAbsolute, hcs]

/-- From an absolute working directory every path is made absolute. -/
theorem isAbsolute_resolve (home : String) {cwd : String} (h : isAbsolute cwd = true)
    (path : String) : isAbsolute (resolve home cwd path) = true :=
  isAbsolute_join h _

theorem concat_ne_root (before : List (List Char)) {last : List Char} (h : last ≠ []) :
    before ++ [last] ≠ [[]] := by
  intro heq
  have hlast := congrArg List.getLast? heq
  rw [List.getLast?_concat] at hlast
  exact h (by simpa using hlast)

theorem splitEnd?_concat (before : List (List Char)) {last : List Char} (h : last ≠ []) :
    splitEnd? (before ++ [last]) = some (before, last) := by
  simp [splitEnd?, h]

theorem beginnings_concat (before : List (List Char)) {last : List Char}
    (h : isIdle last = false) :
    beginnings (before ++ [last]) = beginnings before ++ [before ++ [last]] := by
  induction before with
  | nil => simp [beginnings, h]
  | cons piece before ih =>
    rw [List.cons_append, beginnings, beginnings, ih]
    by_cases hp : isIdle piece = true
    · simp [hp]
    · simp [hp]

theorem parents_concat (before : List (List Char)) {last : List Char} (h : isIdle last = false) :
    parents (before ++ [last]) = (beginnings before).reverse := by
  rw [parents, beginnings_concat before h, List.dropLast_concat]

/-- A beginning of a path ends with a piece that names something. -/
theorem exists_of_mem_beginnings {pieces dir : List (List Char)} (h : dir ∈ beginnings pieces) :
    ∃ before last rest, isIdle last = false ∧ dir = before ++ [last] ∧ pieces = dir ++ rest := by
  induction pieces generalizing dir with
  | nil => exact absurd h (by simp [beginnings])
  | cons piece pieces ih =>
    have hlonger : dir ∈ (beginnings pieces).map (piece :: ·) →
        ∃ before last rest, isIdle last = false ∧ dir = before ++ [last] ∧
          piece :: pieces = dir ++ rest := by
      intro hdir
      obtain ⟨sub, hsub, rfl⟩ := List.mem_map.mp hdir
      obtain ⟨before, last, rest, hlast, rfl, rfl⟩ := ih hsub
      exact ⟨piece :: before, last, rest, hlast, rfl, rfl⟩
    rw [beginnings] at h
    split_ifs at h with hidle
    · exact hlonger h
    · rcases List.mem_cons.mp h with rfl | hdir
      · exact ⟨[], piece, pieces, by simpa using hidle, rfl, rfl⟩
      · exact hlonger hdir

end Path

namespace FileSystem

variable {fs fs' : FileSystem} {cwd loc : Location}

/-- A path with a name at its end leads to that name in the directory before it. -/
theorem locateEnd_concat_eq_ok_iff {before : List (List Char)} {last piece : List Char}
    (hlast : last ≠ []) :
    fs.locateEnd cwd (before ++ [last]) = .ok (loc, piece) ↔
      pathBytes (before ++ [last]) ≤ pathLimit ∧ last = piece ∧
        fs.walk (start cwd (before ++ [last])) before = .ok loc ∧
        fs.get? loc = some .directory := by
  have hne := Path.concat_ne_root before hlast
  have hdot : ∀ m, fs.walk m [['.']] = .ok loc ↔ m = loc ∧ fs.get? loc = some .directory := by
    intro m
    constructor
    · intro h
      have hdir := get?_of_walk_cons h
      have hm : m = loc := by simpa [walk, hdir, Path.isIdle] using h
      exact ⟨hm, hm ▸ hdir⟩
    · rintro ⟨rfl, hdir⟩
      simp [walk, hdir, Path.isIdle]
  have hmap : ∀ x : Except FileError Location,
      x.map (fun l => (l, last)) = .ok (loc, piece) ↔ last = piece ∧ x = .ok loc := by
    intro x
    cases x with
    | error e => simp [Except.map]
    | ok l => simp [Except.map, and_comm]
  rw [locateEnd, Path.splitEnd?_concat before hlast]
  split_ifs with hlong
  · simp [Nat.not_le.mpr hlong]
  · simp only [hmap, walk_append_eq_ok_iff, hdot]
    simp [Nat.not_lt.mp hlong]

theorem isDots_eq_false_iff {piece : List Char} :
    isDots piece = false ↔ Path.isIdle piece = false ∧ piece ≠ ['.', '.'] := by
  simp [isDots]

/-- One more name leads one step down. -/
theorem walk_name (hdir : fs.get? loc = some .directory) {last : List Char}
    (hdots : isDots last = false) (hname : bytesOf last ≤ nameLimit) :
    fs.walk loc [last] = .ok (loc ++ [String.ofList last]) := by
  obtain ⟨hidle, hup⟩ := isDots_eq_false_iff.mp hdots
  simp [walk, hdir, hidle, hup, Nat.not_lt.mpr hname]

theorem locate_concat (hdir : fs.get? loc = some .directory) {before : List (List Char)}
    {last : List Char} (hdots : isDots last = false) (hname : bytesOf last ≤ nameLimit)
    (hbytes : pathBytes (before ++ [last]) ≤ pathLimit)
    (hwalk : fs.walk (start cwd (before ++ [last])) before = .ok loc) :
    fs.locate cwd (before ++ [last]) = .ok (loc ++ [String.ofList last]) := by
  obtain ⟨hidle, -⟩ := isDots_eq_false_iff.mp hdots
  have hne := Path.concat_ne_root before (Path.isIdle_eq_false_iff.mp hidle).1
  exact locate_eq_ok_iff.mpr
    ⟨hbytes, hne, walk_append_eq_ok_iff.mpr ⟨loc, hwalk, walk_name hdir hdots hname⟩⟩

/-- **Writing a file** changes what is where the path leads, which is no
directory.  The path leads there afterwards, too. -/
theorem writeFile_cases {path : String} {bytes : ByteArray}
    (h : fs.writeFile cwd path bytes = .ok fs') :
    ∃ loc, fs.locate cwd (Path.pieces path.toList) = .ok loc ∧
      fs'.locate cwd (Path.pieces path.toList) = .ok loc ∧
      fs'.get? loc = some (.file bytes) ∧ ∀ other, other ≠ loc → fs'.get? other = fs.get? other := by
  obtain ⟨before, last, hpieces⟩ := Path.exists_pieces_eq_concat path.toList
  rw [writeFile] at h
  dsimp only at h
  rw [hpieces] at h ⊢
  split at h
  · exact absurd h (by simp)
  · rename_i loc piece hend
    split_ifs at h with hrefused hlong hfound hdenied
    rw [Except.ok.injEq] at h
    simp only [Bool.or_eq_true, not_or, Bool.not_eq_true, decide_eq_true_iff,
      List.getLast?_concat, Option.some_inj] at hrefused
    obtain ⟨hdots, hslash⟩ := hrefused
    obtain ⟨hbytes, rfl, hwalk, hdir⟩ := (locateEnd_concat_eq_ok_iff hslash).mp hend
    have hlocate := locate_concat hdir hdots (Nat.not_lt.mp hlong) hbytes hwalk
    have hget : ∀ other, fs'.get? other =
        if other = loc ++ [String.ofList last] then some (.file bytes) else fs.get? other := by
      intro other
      rw [← h]
      exact get?_set fs (by simp) _ other
    refine ⟨loc ++ [String.ofList last], hlocate, locate_mono ?_ hlocate, ?_, ?_⟩
    · -- the path leads through directories, and what was written over is none
      intro l hl
      rw [hget l, if_neg]
      · exact hl
      · rintro rfl
        exact hfound hl
    · rw [hget, if_pos rfl]
    · intro other hother
      rw [hget, if_neg hother]

theorem find?_writeFile {path : String} {bytes : ByteArray}
    (h : fs.writeFile cwd path bytes = .ok fs') : fs'.find? cwd path = some (.file bytes) := by
  obtain ⟨loc, -, hlocate, hget, -⟩ := writeFile_cases h
  rw [find?, at?, hlocate]
  exact hget

/-- Saving a file makes directories at most, if it fails, and else it writes the
file after that. -/
theorem save_cases (fs : FileSystem) (cwd : Location) (path : String) (bytes : ByteArray) :
    (∃ e, (fs.save cwd path bytes).error = some e ∧ fs.Adds (fs.save cwd path bytes).files) ∨
      (fs.save cwd path bytes).error = none ∧
        (fs.makeParents cwd path).files.writeFile cwd path bytes =
          .ok (fs.save cwd path bytes).files := by
  have hadds := adds_makeParents fs cwd path
  rw [save]
  split
  · rename_i e he
    exact .inl ⟨e, he, hadds⟩
  · split
    · rename_i files hwrite
      exact .inr ⟨rfl, hwrite⟩
    · rename_i e _
      exact .inl ⟨e, rfl, hadds⟩

theorem find?_save {path : String} {bytes : ByteArray}
    (h : (fs.save cwd path bytes).error = none) :
    (fs.save cwd path bytes).files.find? cwd path = some (.file bytes) := by
  rcases fs.save_cases cwd path bytes with ⟨e, he, -⟩ | ⟨-, hwrite⟩
  · rw [he] at h
    exact absurd h (by simp)
  · exact find?_writeFile hwrite

/-! ### Files that are there -/

theorem pathBytes_le_of_append (as bs : List (List Char)) : pathBytes as ≤ pathBytes (as ++ bs) := by
  have hmono : ∀ (pieces : List (List Char)) {m n : Nat}, m ≤ n →
      pieces.foldr (fun piece k => bytesOf piece + k) m ≤
        pieces.foldr (fun piece k => bytesOf piece + k) n := by
    intro pieces m n hmn
    induction pieces with
    | nil => exact hmn
    | cons piece pieces ih =>
      rw [List.foldr_cons, List.foldr_cons]
      omega
  have hgrow : ∀ (pieces : List (List Char)) (n : Nat),
      n ≤ pieces.foldr (fun piece k => bytesOf piece + k) n := by
    intro pieces n
    induction pieces with
    | nil => exact Nat.le_refl n
    | cons piece pieces ih =>
      rw [List.foldr_cons]
      omega
  rw [pathBytes, pathBytes, List.foldr_append]
  refine hmono as (Nat.le_trans ?_ (hgrow bs _))
  rw [List.length_append]
  omega

/-- Is everything above `loc` a directory? -/
def Rooted (fs : FileSystem) (loc : Location) : Prop :=
  ∀ above, above <+: loc → above.length < loc.length → fs.get? above = some .directory

theorem rooted_nil (fs : FileSystem) : fs.Rooted [] :=
  fun above _ hlen => absurd hlen (Nat.not_lt_zero above.length)

theorem Rooted.dropLast (h : fs.Rooted loc) : fs.Rooted loc.dropLast := by
  intro above habove hlen
  rw [List.length_dropLast] at hlen
  exact h above (habove.trans (List.dropLast_prefix loc)) (by omega)

theorem Rooted.concat (h : fs.Rooted loc) (hdir : fs.get? loc = some .directory) (name : String) :
    fs.Rooted (loc ++ [name]) := by
  intro above habove hlen
  rw [List.length_append, List.length_singleton] at hlen
  by_cases heq : above.length = loc.length
  · have habove : above = loc := (List.prefix_concat_iff.mp habove).elim
      (fun h => by rw [h, List.length_append, List.length_singleton] at heq; omega)
      (fun h => h.eq_of_length heq)
    exact habove ▸ hdir
  · exact h above (List.prefix_of_prefix_length_le habove (List.prefix_append _ _) (by omega))
      (by omega)

theorem Rooted.walk (h : fs.Rooted loc) {pieces : List (List Char)} {l : Location}
    (hwalk : fs.walk loc pieces = .ok l) : fs.Rooted l := by
  induction pieces generalizing loc with
  | nil =>
    rw [FileSystem.walk, Except.ok.injEq] at hwalk
    exact hwalk ▸ h
  | cons piece rest ih =>
    have hdir := get?_of_walk_cons hwalk
    rw [FileSystem.walk, hdir] at hwalk
    dsimp only at hwalk
    split_ifs at hwalk
    · exact ih h hwalk
    · exact ih h.dropLast hwalk
    · exact ih (h.concat hdir _) hwalk

theorem rooted_start (h : fs.Rooted cwd) (pieces : List (List Char)) :
    fs.Rooted (start cwd pieces) := by
  rw [start]
  split
  · exact rooted_nil fs
  · exact h

theorem rooted_start_of_isAbsolute {path : String} (h : Path.isAbsolute path = true) :
    fs.Rooted (start cwd (Path.pieces path.toList)) := by
  rw [start, if_pos (Path.head?_pieces h)]
  exact rooted_nil fs

/-- What a path leads to, if it is a file, has the path's last piece as its name,
and the path leads to a directory before that. -/
theorem exists_name_of_locate_file {pieces : List (List Char)} {bytes : ByteArray}
    (hne : pieces ≠ []) (hrooted : fs.Rooted (start cwd pieces))
    (hlocate : fs.locate cwd pieces = .ok loc) (hfile : fs.get? loc = some (.file bytes)) :
    ∃ before last dir, pieces = before ++ [last] ∧ loc = dir ++ [String.ofList last] ∧
      isDots last = false ∧ bytesOf last ≤ nameLimit ∧
      fs.walk (start cwd pieces) before = .ok dir ∧ fs.get? dir = some .directory := by
  obtain ⟨-, -, hwalk⟩ := locate_eq_ok_iff.mp hlocate
  rcases List.eq_nil_or_concat' pieces with hnil | ⟨before, last, rfl⟩
  · exact absurd hnil hne
  · obtain ⟨dir, hbefore, hlast⟩ := walk_append_eq_ok_iff.mp hwalk
    have hdir := get?_of_walk_cons hlast
    have habove := hrooted.walk hbefore
    rw [walk, hdir] at hlast
    dsimp only at hlast
    split_ifs at hlast with hidle hup hlong
    · -- an idle piece stays in the directory
      rw [walk, Except.ok.injEq] at hlast
      rw [← hlast, hdir] at hfile
      exact absurd hfile (by simp)
    · -- above a directory there is none but directories
      rw [walk, Except.ok.injEq] at hlast
      have hup : fs.get? dir.dropLast = some .directory := by
        by_cases hnil : dir = []
        · rw [hnil]
          rfl
        · have hpos := List.length_pos_iff.mpr hnil
          exact habove _ (List.dropLast_prefix dir) (by rw [List.length_dropLast]; omega)
      rw [← hlast, hup] at hfile
      exact absurd hfile (by simp)
    · rw [walk, Except.ok.injEq] at hlast
      exact ⟨before, last, dir, rfl, hlast.symm,
        isDots_eq_false_iff.mpr ⟨by simpa using hidle, hup⟩, Nat.not_lt.mp hlong, hbefore, hdir⟩

theorem start_append {as : List (List Char)} (h : as ≠ []) (bs : List (List Char)) :
    start cwd (as ++ bs) = start cwd as := by
  rw [start, start, List.head?_append_of_ne_nil as h]

/-- A path that leads somewhere leads through directories. -/
theorem at?_of_mem_beginnings {before dir : List (List Char)} {last : List Char} {l : Location}
    (hbytes : pathBytes (before ++ [last]) ≤ pathLimit)
    (hwalk : fs.walk (start cwd (before ++ [last])) before = .ok l)
    (hl : fs.get? l = some .directory) (hdir : dir ∈ Path.beginnings before) :
    fs.at? cwd dir = some .directory := by
  obtain ⟨init, piece, rest, hpiece, rfl, rfl⟩ := Path.exists_of_mem_beginnings hdir
  have hne := Path.concat_ne_root init (Path.isIdle_eq_false_iff.mp hpiece).1
  rw [List.append_assoc] at hbytes hwalk
  rw [start_append (by simp)] at hwalk
  obtain ⟨m, hm, hrest⟩ := walk_append_eq_ok_iff.mp hwalk
  have hlocate : fs.locate cwd (init ++ [piece]) = .ok m :=
    locate_eq_ok_iff.mpr ⟨Nat.le_trans (pathBytes_le_of_append _ _) hbytes, hne, hm⟩
  rw [at?, hlocate]
  cases rest with
  | nil =>
    rw [walk, Except.ok.injEq] at hrest
    exact hrest ▸ hl
  | cons p rest => exact get?_of_walk_cons hrest

/-- Nothing is made where a directory is. -/
theorem ensureDir_of_at? {before : List (List Char)} {last : List Char}
    (hlast : Path.isIdle last = false) (h : fs.at? cwd (before ++ [last]) = some .directory) :
    fs.ensureDir cwd (before ++ [last]) = .ok fs := by
  have hmake : ∀ made, fs.makeDir cwd (before ++ [last]) ≠ .ok made := by
    intro made hmade
    rw [makeDir] at hmade
    split at hmade
    · exact absurd hmade (by simp)
    · rename_i dir piece hend
      dsimp only at hmade
      split_ifs at hmade with hdots hlong hsome hdenied
      obtain ⟨hbytes, rfl, hwalk, hdir⟩ :=
        (locateEnd_concat_eq_ok_iff (Path.isIdle_eq_false_iff.mp hlast).1).mp hend
      have hlocate := locate_concat hdir (by simpa using hdots) (Nat.not_lt.mp hlong) hbytes hwalk
      have hthere : fs.get? (dir ++ [String.ofList last]) = some .directory := by
        rw [at?, hlocate] at h
        exact h
      rw [hthere] at hsome
      exact hsome rfl
  rw [ensureDir]
  split
  · rename_i made hmade
    exact absurd hmade (hmake made)
  · rw [if_pos h]

/-- No directory is made for a file that is there. -/
theorem makeParents_of_file {path : String} {bytes : ByteArray}
    (hrooted : fs.Rooted (start cwd (Path.pieces path.toList)))
    (hlocate : fs.locate cwd (Path.pieces path.toList) = .ok loc)
    (hfile : fs.get? loc = some (.file bytes)) : fs.makeParents cwd path = { files := fs } := by
  obtain ⟨hbytes, -, -⟩ := locate_eq_ok_iff.mp hlocate
  obtain ⟨before, last, dir, hpieces, -, hdots, -, hwalk, hdir⟩ :=
    exists_name_of_locate_file (Path.pieces_ne_nil _) hrooted hlocate hfile
  rw [hpieces] at hbytes hwalk
  rw [makeParents, hpieces, Path.parents_concat before (isDots_eq_false_iff.mp hdots).1]
  cases hparents : (Path.beginnings before).reverse with
  | nil => rfl
  | cons nearest above =>
    have hmem : nearest ∈ Path.beginnings before := by
      rw [← List.mem_reverse, hparents]
      exact List.mem_cons_self
    have hat := at?_of_mem_beginnings hbytes hwalk hdir hmem
    obtain ⟨init, piece, -, hpiece, rfl, -⟩ := Path.exists_of_mem_beginnings hmem
    rw [makeDirs, ensureDir_of_at? hpiece hat]

/-- Writing over a file that is there fails only where nothing can be written. -/
theorem writeFile_of_file {path : String} {bytes : ByteArray}
    (hrooted : fs.Rooted (start cwd (Path.pieces path.toList)))
    (hlocate : fs.locate cwd (Path.pieces path.toList) = .ok loc)
    (hfile : fs.get? loc = some (.file bytes)) (new : ByteArray) :
    fs.writeFile cwd path new =
      if fs.readOnly loc then .error .denied else .ok (fs.set loc (.file new)) := by
  obtain ⟨hbytes, -, -⟩ := locate_eq_ok_iff.mp hlocate
  obtain ⟨before, last, dir, hpieces, hloc, hdots, hname, hwalk, hdir⟩ :=
    exists_name_of_locate_file (Path.pieces_ne_nil _) hrooted hlocate hfile
  have hne := (Path.isIdle_eq_false_iff.mp (isDots_eq_false_iff.mp hdots).1).1
  rw [hpieces] at hbytes hwalk
  have hend : fs.locateEnd cwd (before ++ [last]) = .ok (dir, last) :=
    (locateEnd_concat_eq_ok_iff hne).mpr ⟨hbytes, rfl, hwalk, hdir⟩
  rw [writeFile, hpieces, hend]
  simp [hdots, hne, Nat.not_lt.mpr hname, ← hloc, hfile]

theorem exists_locate_of_find? {path : String} {bytes : ByteArray}
    (h : fs.find? cwd path = some (.file bytes)) :
    ∃ loc, fs.locate cwd (Path.pieces path.toList) = .ok loc ∧
      fs.get? loc = some (.file bytes) := by
  rw [find?, at?] at h
  split at h
  · rename_i loc hlocate
    exact ⟨loc, hlocate, h⟩
  · exact absurd h (by simp)

/-- Is writing refused where a path leads? -/
def refuses (fs : FileSystem) (cwd : Location) (path : String) : Bool :=
  match fs.locate cwd (Path.pieces path.toList) with
  | .ok loc => fs.readOnly loc
  | .error _ => false

theorem refuses_of_locate {path : String}
    (h : fs.locate cwd (Path.pieces path.toList) = .ok loc) :
    fs.refuses cwd path = fs.readOnly loc := by
  rw [refuses, h]

theorem save_of_file {path : String} {bytes : ByteArray}
    (hrooted : fs.Rooted (start cwd (Path.pieces path.toList)))
    (hfile : fs.find? cwd path = some (.file bytes)) (new : ByteArray) :
    (fs.refuses cwd path = true → fs.save cwd path new = { files := fs, error := some .denied }) ∧
      (fs.refuses cwd path = false → (fs.save cwd path new).error = none) := by
  obtain ⟨loc, hlocate, hget⟩ := exists_locate_of_find? hfile
  rw [refuses_of_locate hlocate, save, makeParents_of_file hrooted hlocate hget]
  dsimp only
  rw [writeFile_of_file hrooted hlocate hget new]
  constructor
  · intro hdenied
    rw [if_pos hdenied]
  · intro hallowed
    rw [if_neg (by simp [hallowed])]

end FileSystem

end Dotfile

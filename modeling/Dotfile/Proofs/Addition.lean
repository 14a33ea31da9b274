/-
The lines that assign a variable and the lines that add a directory to PATH.

* `readEnv?_eq_some_iff`, `readPath?_eq_some_iff` — which lines do so, by the
  form of the line (`Assigns`) and of the value (`Adds`);
* `readEnv?_eq_none_of_readPath?` — no line does both;
* `read_eq_none_of_isComment` — an empty line or a comment does neither;
* `read_iff_grammar` — the readers accept exactly the grammar, and a line has
  at most one form in it.
-/
import Dotfile.Proofs.Assignment

namespace Dotfile.Line

open Text

/-! ### References to the old value -/

/-- `value` is `dir`, a colon and a reference to the old value of PATH. -/
def Prepends (value dir : List Char) : Prop :=
  dir ≠ [] ∧ ∃ ref ∈ references, value = dir ++ ':' :: ref

/-- `value` is a reference to the old value of PATH, a colon and `dir`. -/
def Appends (value dir : List Char) : Prop :=
  dir ≠ [] ∧ ∃ ref ∈ references, value = ref ++ ':' :: dir

/-- `value` adds `dir` to the old value of PATH.  Where it has both forms, as
`$PATH:$PATH` has, the directory is put before. -/
def Adds (value dir : List Char) : Position → Prop
  | .prepend => Prepends value dir
  | .append => Appends value dir ∧ ¬ ∃ dir', Prepends value dir'

theorem colon_not_mem_of_mem_references : ∀ ref ∈ references, ':' ∉ ref := by decide

theorem beforeReference?_eq_some_iff {cs dir : List Char} :
    beforeReference? cs = some dir ↔ ∃ ref ∈ references, cs = dir ++ ':' :: ref := by
  induction cs generalizing dir with
  | nil => simp [beforeReference?]
  | cons c cs ih =>
    rw [beforeReference?]
    split
    · rename_i h
      obtain ⟨rfl, href⟩ := h
      rw [Option.some_inj]
      constructor
      · rintro rfl
        exact ⟨cs, href, rfl⟩
      · rintro ⟨ref, -, heq⟩
        -- a later colon would be one of the reference
        cases dir with
        | nil => rfl
        | cons d dir =>
          obtain ⟨-, rfl⟩ := List.cons.inj heq
          exact absurd (by simp) (colon_not_mem_of_mem_references _ href)
    · rename_i h
      rw [Option.map_eq_some_iff]
      constructor
      · rintro ⟨rest, hrest, rfl⟩
        obtain ⟨ref, href, rfl⟩ := ih.mp hrest
        exact ⟨ref, href, rfl⟩
      · rintro ⟨ref, href, heq⟩
        cases dir with
        | nil =>
          obtain ⟨rfl, rfl⟩ := List.cons.inj heq
          exact absurd ⟨rfl, href⟩ h
        | cons d dir =>
          obtain ⟨rfl, rfl⟩ := List.cons.inj heq
          exact ⟨dir, ih.mpr ⟨ref, href, rfl⟩, rfl⟩

theorem eq_or_eq_cons_of_dropOne {c : Char} {cs rest : List Char} (h : dropOne c cs = rest) :
    cs = rest ∨ cs = c :: rest := by
  cases cs with
  | nil => exact .inl h
  | cons d cs =>
    rw [dropOne] at h
    split at h
    · rename_i hd
      exact .inr (by rw [hd, h])
    · exact .inl h

theorem afterReference?_eq_some_iff {cs dir : List Char} :
    afterReference? cs = some dir ↔ ∃ ref ∈ references, cs = ref ++ ':' :: dir := by
  constructor
  · intro h
    obtain ⟨r₁, h₁, h'⟩ := Option.bind_eq_some_iff.mp h
    obtain ⟨r₂, h₂, h₃⟩ := Option.bind_eq_some_iff.mp h'
    have e₁ := after?_eq_some_iff.mp h₁
    have e₂ := eq_or_eq_cons_of_dropOne (after?_eq_some_iff.mp h₂)
    have e₃ := eq_or_eq_cons_of_dropOne (after?_eq_some_iff.mp h₃)
    -- each brace may be there or not, and each choice is a spelling
    rcases e₂ with rfl | rfl <;> rcases e₃ with rfl | rfl
    · exact ⟨['$'] ++ pathWord, by decide, e₁⟩
    · exact ⟨['$'] ++ pathWord ++ ['\x7d'], by decide, e₁⟩
    · exact ⟨['$', '\x7b'] ++ pathWord, by decide, e₁⟩
    · exact ⟨['$', '\x7b'] ++ pathWord ++ ['\x7d'], by decide, e₁⟩
  · rintro ⟨ref, href, rfl⟩
    simp only [references, List.mem_cons, List.not_mem_nil, or_false] at href
    rcases href with rfl | rfl | rfl | rfl <;> rfl

theorem directory?_eq_some_iff {cs dir : List Char} :
    directory? cs = some dir ↔ cs = dir ∧ dir ≠ [] ∧ '\n' ∉ dir := by
  rw [directory?]
  split
  · rename_i h
    rw [List.isEmpty_iff] at h
    constructor
    · intro hd
      exact absurd hd (by simp)
    · rintro ⟨rfl, hne, -⟩
      exact absurd h hne
  · rename_i h
    rw [List.isEmpty_iff] at h
    rw [withinLine?_eq_some_iff]
    constructor
    · rintro ⟨rfl, hnl⟩
      exact ⟨rfl, h, hnl⟩
    · rintro ⟨rfl, -, hnl⟩
      exact ⟨rfl, hnl⟩

/-- A directory found next to a reference counts if it is not empty.  The
newline is no further condition where the line has none. -/
theorem bind_directory?_eq_some_iff {found : Option (List Char)} {P : List Char → Prop}
    (hfound : ∀ d, found = some d ↔ P d) (hnl : ∀ d, P d → '\n' ∉ d) {dir : List Char} :
    found.bind directory? = some dir ↔ dir ≠ [] ∧ P dir := by
  rw [Option.bind_eq_some_iff]
  constructor
  · rintro ⟨d, hd, hdir⟩
    obtain ⟨rfl, hne, -⟩ := directory?_eq_some_iff.mp hdir
    exact ⟨hne, (hfound d).mp hd⟩
  · rintro ⟨hne, hdir⟩
    exact ⟨dir, (hfound dir).mpr hdir, directory?_eq_some_iff.mpr ⟨rfl, hne, hnl dir hdir⟩⟩

theorem prepended?_eq_some_iff {cs dir : List Char} (hcs : '\n' ∉ cs) :
    prepended? cs = some dir ↔ Prepends cs dir := by
  apply bind_directory?_eq_some_iff (fun d => beforeReference?_eq_some_iff)
  rintro d ⟨ref, -, rfl⟩ hd
  exact hcs (by simp [hd])

theorem appended?_eq_some_iff {cs dir : List Char} (hcs : '\n' ∉ cs) :
    appended? cs = some dir ↔ Appends cs dir := by
  apply bind_directory?_eq_some_iff (fun d => afterReference?_eq_some_iff)
  rintro d ⟨ref, -, rfl⟩ hd
  exact hcs (by simp [hd])

/-! ### What a line assigns or adds -/

theorem pathAssignment?_of_assigns {cs value : List Char} (h : Assigns cs pathWord value)
    (hne : value ≠ []) (hnl : '\n' ∉ value) : pathAssignment? cs = some value := by
  obtain ⟨pre, rest, hpre, hb, rfl⟩ := h
  have hrest : (afterExport? (pre ++ rest)).getD (pre ++ rest) = rest := by
    rcases hpre with rfl | ⟨w, hw0, hw, rfl⟩
    · -- the line starts with the name, so there is no keyword to skip
      obtain ⟨-, -, w₁, w₂, -, -, rfl⟩ := hb
      rfl
    · rw [afterExport?_eq_some_iff.mpr ⟨w, hw0, hw, hb.startsDark, List.append_assoc _ _ _⟩,
        Option.getD_some]
  obtain ⟨-, hdark, w₁, w₂, hw₁, hw₂, rfl⟩ := hb
  rw [pathAssignment?, hrest, after?_eq_some_iff.mpr rfl, Option.bind_some,
    afterEquals?_eq_some_iff.mpr ⟨w₁, hw₁, rfl⟩, Option.bind_some, someValue?,
    trimLeft_append hw₂ hdark]
  cases value with
  | nil => exact absurd rfl hne
  | cons c value => exact withinLine?_eq_some_iff.mpr ⟨rfl, hnl⟩

/-- The value assigned to PATH is that of the assignment, or it is one blank. -/
theorem assigns_of_pathAssignment? {cs value : List Char} (h : pathAssignment? cs = some value) :
    Assigns cs pathWord value ∧ '\n' ∉ value ∨ AllBlank value := by
  obtain ⟨rest, hpath, hrest⟩ := Option.bind_eq_some_iff.mp h
  obtain ⟨tail, hsign, htail⟩ := Option.bind_eq_some_iff.mp hrest
  obtain ⟨w₁, hw₁, rfl⟩ := afterEquals?_eq_some_iff.mp hsign
  rw [someValue?] at htail
  split at htail
  · -- nothing but blanks behind the sign, of which the last is taken
    rename_i htrim
    right
    obtain ⟨c, hc, hvalue⟩ := Option.bind_eq_some_iff.mp htail
    obtain ⟨rfl, -⟩ := withinLine?_eq_some_iff.mp hvalue
    obtain ⟨w, hw, -, rfl⟩ := trimLeft_eq_iff.mp htrim
    intro d hd
    rw [List.mem_singleton] at hd
    subst hd
    exact hw d (by simpa using List.mem_of_getLast? hc)
  · rename_i c r htrim
    left
    obtain ⟨rfl, hnl⟩ := withinLine?_eq_some_iff.mp htail
    obtain ⟨w₂, hw₂, hdark, rfl⟩ := trimLeft_eq_iff.mp htrim
    have hb : Binds ((afterExport? cs).getD cs) pathWord (c :: r) :=
      ⟨by decide, hdark, w₁, w₂, hw₁, hw₂, after?_eq_some_iff.mp hpath⟩
    refine ⟨?_, hnl⟩
    cases hexp : afterExport? cs with
    | none =>
      rw [hexp, Option.getD_none] at hb
      exact ⟨[], cs, .inl rfl, hb, rfl⟩
    | some rest =>
      rw [hexp, Option.getD_some] at hb
      obtain ⟨w, hne, hw, -, rfl⟩ := afterExport?_eq_some_iff.mp hexp
      exact ⟨exportWord ++ w, rest, .inr ⟨w, hne, hw, rfl⟩, hb, by simp⟩

theorem unquote_of_allBlank {cs : List Char} (h : AllBlank cs) : unquote cs = [] := by
  have htrim : trim cs = [] := (trim_eq_nil_iff cs).mpr h
  rw [unquote_of_not_isEnclosed (by rw [htrim]; rfl), htrim]

theorem Adds.ne_nil {value dir : List Char} {position : Position} (h : Adds value dir position) :
    value ≠ [] := by
  cases position with
  | prepend =>
    obtain ⟨-, ref, -, rfl⟩ := h
    simp
  | append =>
    obtain ⟨⟨-, ref, -, rfl⟩, -⟩ := h
    simp

theorem addition_eq_some_iff {value : List Char} (hnl : '\n' ∉ value) {dir : String}
    {position : Position} :
    ((prepended? value).map fun d => (String.ofList d, Position.prepend)).or
        ((appended? value).map fun d => (String.ofList d, Position.append)) =
        some (dir, position) ↔
      Adds value dir.toList position := by
  rw [Option.or_eq_some_iff, Option.map_eq_some_iff, Option.map_eq_none_iff, Option.map_eq_some_iff]
  constructor
  · rintro (⟨d, hd, heq⟩ | ⟨hnone, d, hd, heq⟩)
    · obtain ⟨rfl, rfl⟩ := Prod.mk.inj heq
      rw [String.toList_ofList]
      exact (prepended?_eq_some_iff hnl).mp hd
    · obtain ⟨rfl, rfl⟩ := Prod.mk.inj heq
      rw [String.toList_ofList]
      refine ⟨(appended?_eq_some_iff hnl).mp hd, ?_⟩
      rintro ⟨d', hd'⟩
      rw [(prepended?_eq_some_iff hnl).mpr hd'] at hnone
      exact absurd hnone (by simp)
  · intro h
    cases position with
    | prepend =>
      exact .inl ⟨dir.toList, (prepended?_eq_some_iff hnl).mpr h, by rw [String.ofList_toList]⟩
    | append =>
      obtain ⟨happ, hno⟩ := h
      refine .inr ⟨?_, dir.toList, (appended?_eq_some_iff hnl).mpr happ, ?_⟩
      · by_contra hsome
        obtain ⟨d, hd⟩ := Option.ne_none_iff_exists'.mp hsome
        exact hno ⟨d, (prepended?_eq_some_iff hnl).mp hd⟩
      · rw [String.ofList_toList]

theorem readPath?_eq_some_iff {cs : List Char} {dir : String} {position : Position} :
    readPath? cs = some (dir, position) ↔
      ∃ value, Assigns cs pathWord value ∧ '\n' ∉ value ∧
        Adds (unquote value) dir.toList position := by
  have hunquote : ∀ {value : List Char}, '\n' ∉ value → '\n' ∉ unquote value :=
    fun hnl h => hnl (mem_of_mem_unquote h)
  rw [readPath?, Option.bind_eq_some_iff]
  constructor
  · rintro ⟨value, hvalue, h⟩
    rcases assigns_of_pathAssignment? hvalue with ⟨hassigns, hnl⟩ | hblank
    · exact ⟨value, hassigns, hnl, (addition_eq_some_iff (hunquote hnl)).mp h⟩
    · -- blanks alone add nothing
      rw [unquote_of_allBlank hblank] at h
      exact absurd rfl ((addition_eq_some_iff (by simp)).mp h).ne_nil
  · rintro ⟨value, hassigns, hnl, hadds⟩
    have hne : value ≠ [] := by
      rintro rfl
      exact hadds.ne_nil rfl
    exact ⟨value, pathAssignment?_of_assigns hassigns hne hnl,
      (addition_eq_some_iff (hunquote hnl)).mpr hadds⟩

theorem readEnv?_eq_some_iff {cs : List Char} {name value : String} :
    readEnv? cs = some (name, value) ↔
      ∃ written, Assigns cs name.toList written ∧ '\n' ∉ written ∧ name.toList ≠ pathWord ∧
        value = String.ofList (unquote written) := by
  rw [readEnv?]
  constructor
  · intro h
    split at h
    · rename_i n written hassign
      obtain ⟨hassigns, hnl⟩ := assignment?_eq_some_iff.mp hassign
      split at h
      · exact absurd h (by simp)
      · rename_i hpath
        obtain ⟨rfl, rfl⟩ := Prod.mk.inj (Option.some_inj.mp h)
        rw [String.toList_ofList]
        exact ⟨written, hassigns, hnl, hpath, rfl⟩
    · exact absurd h (by simp)
  · rintro ⟨written, hassigns, hnl, hpath, rfl⟩
    rw [assignment?_eq_some_iff.mpr ⟨hassigns, hnl⟩]
    show (if name.toList = pathWord then none else some _) = _
    rw [if_neg hpath, String.ofList_toList]

/-! ### At most one meaning -/

theorem readEnv?_eq_none_of_readPath? {cs : List Char} {p : String × Position}
    (h : readPath? cs = some p) : readEnv? cs = none := by
  -- the name is PATH, which is never taken for a variable
  obtain ⟨value, hassigns, hnl, -⟩ := readPath?_eq_some_iff.mp h
  rw [readEnv?, assignment?_eq_some_iff.mpr ⟨hassigns, hnl⟩]
  exact if_pos rfl

theorem read_eq_none_of_not_assigns {cs : List Char} (h : ∀ name value, ¬ Assigns cs name value) :
    readPath? cs = none ∧ readEnv? cs = none := by
  constructor
  · by_contra hsome
    obtain ⟨p, hp⟩ := Option.ne_none_iff_exists'.mp hsome
    obtain ⟨value, hassigns, -⟩ := readPath?_eq_some_iff.mp hp
    exact h _ _ hassigns
  · by_contra hsome
    obtain ⟨p, hp⟩ := Option.ne_none_iff_exists'.mp hsome
    obtain ⟨written, hassigns, -⟩ := readEnv?_eq_some_iff.mp hp
    exact h _ _ hassigns

theorem read_eq_none_of_isComment {cs : List Char} (h : isComment cs = true) :
    readPath? cs = none ∧ readEnv? cs = none := by
  apply read_eq_none_of_not_assigns
  intro name value hassigns
  exact absurd h (by simp [hassigns.isComment_eq_false])

/-! ### The grammar -/

theorem Prepends.unique {value dir dir' : List Char} (h : Prepends value dir)
    (h' : Prepends value dir') : dir = dir' := by
  have e := beforeReference?_eq_some_iff.mpr h.2
  have e' := beforeReference?_eq_some_iff.mpr h'.2
  exact Option.some_inj.mp (e.symm.trans e')

theorem Appends.unique {value dir dir' : List Char} (h : Appends value dir)
    (h' : Appends value dir') : dir = dir' := by
  have e := afterReference?_eq_some_iff.mpr h.2
  have e' := afterReference?_eq_some_iff.mpr h'.2
  exact Option.some_inj.mp (e.symm.trans e')

/-- `cs` assigns to PATH a value that has the given form with `dir`. -/
def AssignsPath (form : List Char → List Char → Prop) (cs dir : List Char) : Prop :=
  ∃ value, Assigns cs pathWord value ∧ form (unquote value) dir

theorem AssignsPath.unique {form : List Char → List Char → Prop} {cs dir dir' : List Char}
    (hform : ∀ {value dir dir'}, form value dir → form value dir' → dir = dir')
    (hcs : '\n' ∉ cs) (h : AssignsPath form cs dir) (h' : AssignsPath form cs dir') :
    dir = dir' := by
  obtain ⟨value, hassigns, hvalue⟩ := h
  obtain ⟨value', hassigns', hvalue'⟩ := h'
  obtain ⟨-, rfl⟩ := hassigns.unique hassigns' hcs
  exact hform hvalue hvalue'

theorem readPath?_prepend_iff {cs : List Char} (hcs : '\n' ∉ cs) {dir : String} :
    readPath? cs = some (dir, .prepend) ↔ AssignsPath Prepends cs dir.toList := by
  rw [readPath?_eq_some_iff]
  constructor
  · rintro ⟨value, hassigns, -, hadds⟩
    exact ⟨value, hassigns, hadds⟩
  · rintro ⟨value, hassigns, hadds⟩
    exact ⟨value, hassigns, hassigns.newline_not_mem hcs, hadds⟩

theorem readPath?_append_iff {cs : List Char} (hcs : '\n' ∉ cs) {dir : String} :
    readPath? cs = some (dir, .append) ↔
      AssignsPath Appends cs dir.toList ∧ ¬ ∃ dir', AssignsPath Prepends cs dir' := by
  rw [readPath?_eq_some_iff]
  constructor
  · rintro ⟨value, hassigns, -, happ, hno⟩
    refine ⟨⟨value, hassigns, happ⟩, ?_⟩
    rintro ⟨dir', value', hassigns', hpre⟩
    -- the line has one value, and that one does not prepend
    obtain ⟨-, rfl⟩ := hassigns.unique hassigns' hcs
    exact hno ⟨dir', hpre⟩
  · rintro ⟨⟨value, hassigns, happ⟩, hno⟩
    refine ⟨value, hassigns, hassigns.newline_not_mem hcs, happ, ?_⟩
    rintro ⟨dir', hpre⟩
    exact hno ⟨dir', value, hassigns, hpre⟩

/-- **The readers accept exactly the grammar.**  A line, trimmed or not, is read
as an assignment if it has the form of one and the name is not PATH.  It is read
as an addition to PATH if it assigns a value of one of the two forms, where the
form with the directory in front goes first.  None of these forms fits a line in
two ways. -/
theorem read_iff_grammar {cs : List Char} (hcs : '\n' ∉ cs) :
    (∀ name value : String, readEnv? cs = some (name, value) ↔
      ∃ rest, Assigns cs name.toList rest ∧ name.toList ≠ pathWord ∧
        value.toList = unquote rest) ∧
    (∀ dir : String, readPath? cs = some (dir, .prepend) ↔ AssignsPath Prepends cs dir.toList) ∧
    (∀ dir : String, readPath? cs = some (dir, .append) ↔
      AssignsPath Appends cs dir.toList ∧ ¬ ∃ dir', AssignsPath Prepends cs dir') ∧
    (∀ name rest name' rest', Assigns cs name rest → Assigns cs name' rest' →
      name = name' ∧ rest = rest') ∧
    (∀ dir dir', AssignsPath Prepends cs dir → AssignsPath Prepends cs dir' → dir = dir') ∧
    ∀ dir dir', AssignsPath Appends cs dir → AssignsPath Appends cs dir' → dir = dir' := by
  refine ⟨?_, fun dir => readPath?_prepend_iff hcs, fun dir => readPath?_append_iff hcs,
    fun name rest name' rest' h h' => h.unique h' hcs,
    fun dir dir' => AssignsPath.unique Prepends.unique hcs,
    fun dir dir' => AssignsPath.unique Appends.unique hcs⟩
  intro name value
  rw [readEnv?_eq_some_iff]
  constructor
  · rintro ⟨rest, hassigns, -, hpath, rfl⟩
    exact ⟨rest, hassigns, hpath, String.toList_ofList⟩
  · rintro ⟨rest, hassigns, hpath, hvalue⟩
    refine ⟨rest, hassigns, hassigns.newline_not_mem hcs, hpath, ?_⟩
    rw [← hvalue, String.ofList_toList]

/-- In `export =1` the keyword is the name, and in no other way. -/
theorem read_iff_grammar_export :
    let cs := "export =1".toList
    '\n' ∉ cs ∧ readEnv? cs = some ("export", "1") ∧
      ∀ name rest, Assigns cs name rest → name = "export".toList ∧ rest = "1".toList := by
  intro cs
  have hcs : '\n' ∉ cs := by decide
  obtain ⟨henv, -, -, hunique, -⟩ := read_iff_grammar hcs
  have hblank : AllBlank [' '] := List.forall_mem_singleton.mpr (by decide)
  have hdark : StartsDark "1".toList := startsDark_cons.mpr (by decide)
  have hassigns : Assigns cs "export".toList "1".toList :=
    ⟨[], cs, .inl rfl, ⟨by decide, hdark, [' '], [], hblank, allBlank_nil, rfl⟩, rfl⟩
  refine ⟨hcs, (henv "export" "1").mpr ⟨"1".toList, hassigns, by decide, by decide⟩, ?_⟩
  exact fun name rest h => hunique name rest _ _ h hassigns

end Dotfile.Line

/-
The form of an assignment line, and that assignments are read off exactly the
lines of this form.

* `IsName`, `isName_iff` — the names of variables, said by their characters;
* `assignment?_eq_some_iff` — an assignment is read off a line exactly where
  the line has the form of one (`Assigns`);
* `Assigns.unique` — a line has at most one such form, although `export` is a
  keyword in some lines and a name in others;
* `Assigns.isComment_eq_false` — an assignment is neither empty nor a comment.

Nothing here mentions how a reader backtracks: a form is stated by its parts,
and the only work is that the parts are where the reader looks for them.
-/
import Dotfile.Line
import Dotfile.Proofs.Text

namespace Dotfile.Line

open Text

/-- The characters `[A-Za-z_]`. -/
def IsLetter (c : Char) : Prop :=
  'A' ≤ c ∧ c ≤ 'Z' ∨ 'a' ≤ c ∧ c ≤ 'z' ∨ c = '_'

/-- The names `[A-Za-z_][A-Za-z0-9_]*`. -/
def IsName : List Char → Prop
  | [] => False
  | c :: cs => IsLetter c ∧ ∀ d ∈ cs, IsLetter d ∨ '0' ≤ d ∧ d ≤ '9'

/-- What may stand before the name: nothing, or `export` and blanks. -/
def IsKeyword (pre : List Char) : Prop :=
  pre = [] ∨ ∃ w, w ≠ [] ∧ AllBlank w ∧ pre = exportWord ++ w

/-- `cs` is a name, an equals sign and a value, with blanks around the sign. -/
def Binds (cs name value : List Char) : Prop :=
  IsName name ∧ StartsDark value ∧
    ∃ w₁ w₂, AllBlank w₁ ∧ AllBlank w₂ ∧ cs = name ++ (w₁ ++ '=' :: (w₂ ++ value))

/-- `cs` assigns `value`, as it is written, to `name`. -/
def Assigns (cs name value : List Char) : Prop :=
  ∃ pre rest, IsKeyword pre ∧ Binds rest name value ∧ cs = pre ++ rest

/-! ### Names -/

theorem isNameStart_iff {c : Char} : isNameStart c = true ↔ IsLetter c := by
  delta isNameStart IsLetter Char.isAlpha Char.isUpper Char.isLower
  simp [Char.le_def, or_assoc]

theorem isNameChar_iff {c : Char} : isNameChar c = true ↔ IsLetter c ∨ '0' ≤ c ∧ c ≤ '9' := by
  rw [← isNameStart_iff]
  delta isNameStart isNameChar Char.isAlphanum Char.isDigit
  simp [Char.le_def, or_right_comm]

theorem isNameChar_of_isNameStart {c : Char} (h : isNameStart c = true) : isNameChar c = true :=
  isNameChar_iff.mpr (.inl (isNameStart_iff.mp h))

theorem isBlank_eq_false_of_isNameChar {c : Char} (h : isNameChar c = true) :
    isBlank c = false := by
  rw [← Bool.not_eq_true]
  intro hb
  simp only [isBlank, blankRanges, List.any_cons, List.any_nil, Bool.or_false, Bool.or_eq_true,
    Bool.and_eq_true, decide_eq_true_eq] at hb
  have hle : ∀ a b : Char, a ≤ b ↔ a.toNat ≤ b.toNat := fun _ _ => UInt32.le_iff_toNat_le
  -- letters and digits lie outside every range of blanks
  rw [isNameChar_iff, IsLetter] at h
  simp only [hle, Char.reduceToNat] at h
  rcases h with (h | h | rfl) | h
  · omega
  · omega
  · exact absurd hb (by decide)
  · omega

theorem isNameChar_eq_false_of_isBlank {c : Char} (h : isBlank c = true) :
    isNameChar c = false := by
  rw [← Bool.not_eq_true]
  intro hn
  exact absurd h (by simp [isBlank_eq_false_of_isNameChar hn])

theorem isName_cons {c : Char} {cs : List Char} :
    isName (c :: cs) = true ↔ isNameStart c = true ∧ ∀ d ∈ cs, isNameChar d = true := by
  simp [isName]

theorem isName_iff {name : List Char} : isName name = true ↔ IsName name := by
  cases name with
  | nil => simp [isName, IsName]
  | cons c cs => simp only [isName_cons, IsName, isNameStart_iff, isNameChar_iff]

instance : DecidablePred IsName := fun _ => decidable_of_iff _ isName_iff

theorem isNameChar_of_isName {name : List Char} (h : IsName name) :
    ∀ c ∈ name, isNameChar c = true := by
  cases name with
  | nil => simp
  | cons c cs =>
    rw [← isName_iff, isName_cons] at h
    intro d hd
    rcases List.mem_cons.mp hd with rfl | hd
    · exact isNameChar_of_isNameStart h.1
    · exact h.2 d hd

theorem newline_not_mem_of_isName {name : List Char} (h : IsName name) : '\n' ∉ name := by
  intro hn
  exact absurd (isNameChar_of_isName h _ hn) (by decide)

/-! ### One name, one equals sign, one value -/

theorem withinLine?_eq_some_iff {cs ds : List Char} :
    withinLine? cs = some ds ↔ cs = ds ∧ '\n' ∉ ds := by
  rw [withinLine?]
  split
  · rename_i h
    constructor
    · intro hd
      exact absurd hd (by simp)
    · rintro ⟨rfl, hd⟩
      exact absurd h hd
  · rename_i h
    rw [Option.some_inj]
    constructor
    · rintro rfl
      exact ⟨rfl, h⟩
    · exact And.left

theorem afterEquals?_eq_some_iff {cs rest : List Char} :
    afterEquals? cs = some rest ↔ ∃ w, AllBlank w ∧ cs = w ++ '=' :: rest := by
  rw [afterEquals?, after?_eq_some_iff, List.singleton_append, trimLeft_eq_iff]
  constructor
  · rintro ⟨w, hw, -, h⟩
    exact ⟨w, hw, h⟩
  · rintro ⟨w, hw, h⟩
    exact ⟨w, hw, startsDark_cons.mpr (by decide), h⟩

/-- After the name there is no character of a name, be it blank or the sign. -/
theorem isNameChar_head_sign {w : List Char} (hw : AllBlank w) (cs : List Char) :
    ∀ c ∈ (w ++ '=' :: cs).head?, isNameChar c = false := by
  intro c hc
  cases w with
  | nil =>
    obtain rfl : '=' = c := by simpa using hc
    decide
  | cons b w =>
    obtain rfl : b = c := by simpa using hc
    exact isNameChar_eq_false_of_isBlank (hw b (by simp))

theorem binding?_eq_some_iff {cs name value : List Char} :
    binding? cs = some (name, value) ↔ Binds cs name value ∧ '\n' ∉ value := by
  constructor
  · intro h
    cases cs with
    | nil => exact absurd h (by simp [binding?])
    | cons c cs =>
      rw [binding?] at h
      split at h
      · rename_i hc
        split at h
        · rename_i rest hrest
          obtain ⟨v, hv, heq⟩ := Option.map_eq_some_iff.mp h
          obtain ⟨htrim, hnl⟩ := withinLine?_eq_some_iff.mp hv
          obtain ⟨rfl, rfl⟩ := Prod.mk.inj heq
          obtain ⟨w₁, hw₁, hcs⟩ := afterEquals?_eq_some_iff.mp hrest
          obtain ⟨w₂, hw₂, hdark, hrest'⟩ := trimLeft_eq_iff.mp htrim
          refine ⟨⟨?_, hdark, w₁, w₂, hw₁, hw₂, ?_⟩, hnl⟩
          · exact isName_iff.mp (isName_cons.mpr ⟨hc, fun d hd => List.mem_takeWhile_imp hd⟩)
          · rw [← hrest', ← hcs, List.cons_append, List.takeWhile_append_dropWhile]
        · exact absurd h (by simp)
      · exact absurd h (by simp)
  · rintro ⟨⟨hname, hdark, w₁, w₂, hw₁, hw₂, rfl⟩, hnl⟩
    cases name with
    | nil => exact hname.elim
    | cons c name =>
      obtain ⟨hc, hcs⟩ := isName_cons.mp (isName_iff.mpr hname)
      have hstop := isNameChar_head_sign hw₁ (w₂ ++ value)
      have hsign : afterEquals? (w₁ ++ '=' :: (w₂ ++ value)) = some (w₂ ++ value) :=
        afterEquals?_eq_some_iff.mpr ⟨w₁, hw₁, rfl⟩
      obtain ⟨htake, hdrop⟩ := span_append hcs hstop
      rw [List.cons_append, binding?, if_pos hc, hdrop, htake, hsign]
      show (withinLine? (trimLeft (w₂ ++ value))).map _ = _
      rw [trimLeft_append hw₂ hdark, withinLine?_eq_some_iff.mpr ⟨rfl, hnl⟩, Option.map_some]

/-! ### The keyword -/

theorem afterExport?_eq_some_iff {cs rest : List Char} :
    afterExport? cs = some rest ↔
      ∃ w, w ≠ [] ∧ AllBlank w ∧ StartsDark rest ∧ cs = exportWord ++ (w ++ rest) := by
  constructor
  · intro h
    rw [afterExport?] at h
    split at h
    · rename_i b tail hafter
      split at h
      · rename_i hb
        obtain ⟨w, hw, hdark, rfl⟩ := trimLeft_eq_iff.mp (Option.some_inj.mp h)
        refine ⟨b :: w, by simp, ?_, hdark, ?_⟩
        · intro c hc
          rcases List.mem_cons.mp hc with rfl | hc
          · exact hb
          · exact hw c hc
        · exact after?_eq_some_iff.mp hafter
      · exact absurd h (by simp)
    · exact absurd h (by simp)
  · rintro ⟨w, hne, hw, hdark, rfl⟩
    cases w with
    | nil => exact absurd rfl hne
    | cons b w =>
      have hafter : after? exportWord (exportWord ++ (b :: w ++ rest)) = some (b :: (w ++ rest)) :=
        after?_eq_some_iff.mpr rfl
      rw [afterExport?, hafter]
      show (if isBlank b = true then some (trimLeft (w ++ rest)) else none) = some rest
      rw [if_pos (hw b (by simp)), trimLeft_append (fun c hc => hw c (by simp [hc])) hdark]

theorem Binds.head {cs name value : List Char} (h : Binds cs name value) :
    ∃ c tail, cs = c :: tail ∧ isNameStart c = true := by
  obtain ⟨hname, -, w₁, w₂, -, -, rfl⟩ := h
  cases name with
  | nil => exact hname.elim
  | cons c name => exact ⟨c, _, rfl, isNameStart_iff.mpr hname.1⟩

theorem Binds.startsDark {cs name value : List Char} (h : Binds cs name value) : StartsDark cs := by
  obtain ⟨c, tail, rfl, hc⟩ := h.head
  exact startsDark_cons.mpr (isBlank_eq_false_of_isNameChar (isNameChar_of_isNameStart hc))

/-- Where a binding follows the keyword, the keyword is not itself a name that
is bound: the sign would have to come next. -/
theorem binding?_export_eq_none {w rest name value : List Char} (hne : w ≠ []) (hw : AllBlank w)
    (h : Binds rest name value) : binding? (exportWord ++ (w ++ rest)) = none := by
  have hstop : ∀ c ∈ (w ++ rest).head?, isNameChar c = false := by
    intro c hc
    cases w with
    | nil => exact absurd rfl hne
    | cons b w =>
      obtain rfl : b = c := by simpa using hc
      exact isNameChar_eq_false_of_isBlank (hw b (by simp))
  have hdrop : (['x', 'p', 'o', 'r', 't'] ++ (w ++ rest)).dropWhile isNameChar = w ++ rest :=
    (span_append (List.all_eq_true.mp rfl) hstop).2
  have hsign : afterEquals? (w ++ rest) = none := by
    obtain ⟨c, tail, rfl, hc⟩ := h.head
    rw [afterEquals?, trimLeft_append hw h.startsDark, after?, if_neg]
    rintro rfl
    exact absurd hc (by decide)
  show binding? ('e' :: (['x', 'p', 'o', 'r', 't'] ++ (w ++ rest))) = none
  rw [binding?, if_pos (by decide), hdrop, hsign]

theorem assignment?_eq_some_iff {cs name value : List Char} :
    assignment? cs = some (name, value) ↔ Assigns cs name value ∧ '\n' ∉ value := by
  rw [assignment?, Option.or_eq_some_iff]
  constructor
  · rintro (h | ⟨-, h⟩)
    · obtain ⟨rest, hrest, hbind⟩ := Option.bind_eq_some_iff.mp h
      obtain ⟨w, hne, hw, -, rfl⟩ := afterExport?_eq_some_iff.mp hrest
      obtain ⟨hb, hnl⟩ := binding?_eq_some_iff.mp hbind
      exact ⟨⟨exportWord ++ w, rest, .inr ⟨w, hne, hw, rfl⟩, hb, by simp⟩, hnl⟩
    · obtain ⟨hb, hnl⟩ := binding?_eq_some_iff.mp h
      exact ⟨⟨[], cs, .inl rfl, hb, rfl⟩, hnl⟩
  · rintro ⟨⟨pre, rest, hpre | ⟨w, hne, hw, hpre⟩, hb, rfl⟩, hnl⟩
    · subst hpre
      right
      have hbind := binding?_eq_some_iff.mpr ⟨hb, hnl⟩
      refine ⟨?_, hbind⟩
      -- a second reading, with the keyword, would make the first one impossible
      by_contra hsome
      obtain ⟨p, hp⟩ := Option.ne_none_iff_exists'.mp hsome
      obtain ⟨tail, htail, hp'⟩ := Option.bind_eq_some_iff.mp hp
      obtain ⟨w, hne, hw, -, heq⟩ := afterExport?_eq_some_iff.mp htail
      have hnone := binding?_export_eq_none hne hw (binding?_eq_some_iff.mp hp').1
      rw [List.nil_append] at heq
      rw [← heq, hbind] at hnone
      exact absurd hnone (by simp)
    · subst hpre
      left
      have hafter : afterExport? (exportWord ++ w ++ rest) = some rest :=
        afterExport?_eq_some_iff.mpr ⟨w, hne, hw, hb.startsDark, by simp⟩
      rw [hafter, Option.bind_some]
      exact binding?_eq_some_iff.mpr ⟨hb, hnl⟩

theorem Assigns.newline_not_mem {cs name value : List Char} (h : Assigns cs name value)
    (hcs : '\n' ∉ cs) : '\n' ∉ value := by
  obtain ⟨pre, rest, -, ⟨-, -, w₁, w₂, -, -, rfl⟩, rfl⟩ := h
  exact fun hv => hcs (by simp [hv])

theorem Assigns.unique {cs name value name' value' : List Char} (h : Assigns cs name value)
    (h' : Assigns cs name' value') (hcs : '\n' ∉ cs) : name = name' ∧ value = value' := by
  have e := assignment?_eq_some_iff.mpr ⟨h, h.newline_not_mem hcs⟩
  have e' := assignment?_eq_some_iff.mpr ⟨h', h'.newline_not_mem hcs⟩
  rw [e, Option.some_inj, Prod.mk.injEq] at e'
  exact e'

theorem Assigns.head {cs name value : List Char} (h : Assigns cs name value) :
    ∃ c tail, cs = c :: tail ∧ isNameStart c = true := by
  obtain ⟨pre, rest, hpre | ⟨w, -, -, hpre⟩, hb, rfl⟩ := h
  · subst hpre
    exact hb.head
  · subst hpre
    exact ⟨'e', _, rfl, by decide⟩

theorem Assigns.isComment_eq_false {cs name value : List Char} (h : Assigns cs name value) :
    isComment cs = false := by
  obtain ⟨c, tail, rfl, hc⟩ := h.head
  rw [isComment, beq_eq_false_iff_ne]
  rintro rfl
  exact absurd hc (by decide)

end Dotfile.Line

/-
Blanks, quotes and lines, as the readers need them.

* `trimLeft_eq_iff` — what is left of a text starts where its blanks end;
* `Solid.trim_eq` — a text that neither starts nor ends with a blank is not trimmed;
* `solid_trim`, `trim_trim` — what is left of a text after trimming is such a text;
* `trim_append_of_allBlank` — blanks at the end of a text do not matter;
* `mem_of_mem_unquote` — removing quotes adds no character;
* `join_newline` — a newline at the end is one more line, an empty one.
-/
import Dotfile.Text.Lines
import Dotfile.Text.Quotes
import Mathlib.Data.List.TakeWhile

namespace Dotfile.Text

/-- Does a text consist of blanks? -/
def AllBlank (cs : List Char) : Prop := ∀ c ∈ cs, isBlank c = true

/-- A text that does not start with a blank; it may be empty. -/
def StartsDark (cs : List Char) : Prop := ∀ c ∈ cs.head?, isBlank c = false

theorem allBlank_nil : AllBlank [] := by simp [AllBlank]

theorem startsDark_cons {c : Char} {cs : List Char} : StartsDark (c :: cs) ↔ isBlank c = false := by
  simp [StartsDark]

/-! ### Spans -/

/-- A run of characters of a class ends at the first character outside of it. -/
theorem span_append {p : Char → Bool} {xs rest : List Char} (hin : ∀ c ∈ xs, p c = true)
    (hout : ∀ c ∈ rest.head?, p c = false) :
    (xs ++ rest).takeWhile p = xs ∧ (xs ++ rest).dropWhile p = rest := by
  induction xs with
  | nil =>
    cases rest with
    | nil => exact ⟨rfl, rfl⟩
    | cons c rest => simp [hout c (by simp)]
  | cons x xs ih =>
    have hx : p x = true := hin x (by simp)
    obtain ⟨htake, hdrop⟩ := ih fun c hc => hin c (by simp [hc])
    rw [List.cons_append, List.takeWhile_cons, List.dropWhile_cons, if_pos hx, if_pos hx]
    exact ⟨by rw [htake], hdrop⟩

theorem head_dropWhile {p : Char → Bool} (cs : List Char) :
    ∀ c ∈ (cs.dropWhile p).head?, p c = false := by
  intro c hc
  have h := List.head?_dropWhile_not p cs
  rw [Option.mem_def] at hc
  rw [hc] at h
  simpa using h

/-! ### Trimming -/

theorem startsDark_trimLeft (cs : List Char) : StartsDark (trimLeft cs) := head_dropWhile cs

theorem trimLeft_append {w cs : List Char} (hw : AllBlank w) (hcs : StartsDark cs) :
    trimLeft (w ++ cs) = cs :=
  (span_append hw hcs).2

theorem trimLeft_eq_iff {cs rest : List Char} :
    trimLeft cs = rest ↔ ∃ w, AllBlank w ∧ StartsDark rest ∧ cs = w ++ rest := by
  constructor
  · rintro rfl
    refine ⟨cs.takeWhile isBlank, ?_, startsDark_trimLeft cs, ?_⟩
    · intro c hc
      exact List.mem_takeWhile_imp hc
    · exact (List.takeWhile_append_dropWhile).symm
  · rintro ⟨w, hw, hrest, rfl⟩
    exact trimLeft_append hw hrest

/-- A text that is not empty and neither starts nor ends with a blank. -/
structure Solid (cs : List Char) : Prop where
  ne_nil : cs ≠ []
  startsDark : StartsDark cs
  endsDark : ∀ c ∈ cs.getLast?, isBlank c = false

theorem Solid.trim_eq {cs : List Char} (h : Solid cs) : trim cs = cs := by
  have htrim := trim_append [] cs [] (by simp) (by simp) h.startsDark h.endsDark h.ne_nil
  simpa using htrim

theorem solid_of_forall {cs : List Char} (hne : cs ≠ []) (h : ∀ c ∈ cs, isBlank c = false) :
    Solid cs where
  ne_nil := hne
  startsDark c hc := h c (List.mem_of_mem_head? hc)
  endsDark c hc := h c (List.mem_of_getLast? hc)

/-- What stands between two quotes may be blank, the quotes are not. -/
theorem solid_between {q : Char} (hq : isQuote q = true) (x : List Char) :
    Solid (q :: (x ++ [q])) where
  ne_nil := by simp
  startsDark := startsDark_cons.mpr (isBlank_eq_false_of_isQuote hq)
  endsDark c hc := by
    rw [← List.cons_append, List.getLast?_concat, Option.mem_some_iff] at hc
    exact hc ▸ isBlank_eq_false_of_isQuote hq

theorem Solid.cons_append {c : Char} {cs ds : List Char} (hc : isBlank c = false) (h : Solid ds) :
    Solid (c :: (cs ++ ds)) where
  ne_nil := by simp
  startsDark := startsDark_cons.mpr hc
  endsDark d hd := by
    -- `ds` has a last character, and it is the last one of all
    obtain ⟨e, he⟩ := Option.ne_none_iff_exists'.mp (mt List.getLast?_eq_none_iff.mp h.ne_nil)
    rw [← List.cons_append, List.getLast?_append, he, Option.some_or, ← he] at hd
    exact h.endsDark d hd

theorem exists_eq_trimRight_append (cs : List Char) : ∃ w, cs = trimRight cs ++ w := by
  obtain ⟨w, hw⟩ := List.dropWhile_suffix (l := cs.reverse) isBlank
  refine ⟨w.reverse, ?_⟩
  rw [trimRight, ← List.reverse_append, hw, List.reverse_reverse]

theorem StartsDark.of_append {cs ds : List Char} (h : StartsDark (cs ++ ds)) : StartsDark cs := by
  cases cs with
  | nil => simp [StartsDark]
  | cons c cs => exact h

theorem solid_trim {cs : List Char} (h : trim cs ≠ []) : Solid (trim cs) where
  ne_nil := h
  startsDark := by
    obtain ⟨w, hw⟩ := exists_eq_trimRight_append (trimLeft cs)
    exact StartsDark.of_append (hw ▸ startsDark_trimLeft cs)
  endsDark c hc := by
    rw [trim, trimRight, List.getLast?_reverse] at hc
    exact head_dropWhile _ c hc

theorem trim_trim (cs : List Char) : trim (trim cs) = trim cs := by
  by_cases h : trim cs = []
  · rw [h]
    rfl
  · exact (solid_trim h).trim_eq

theorem trim_append_of_allBlank (cs : List Char) {w : List Char} (hw : AllBlank w) :
    trim (cs ++ w) = trim cs := by
  rw [trim, trim, trimLeft, trimLeft, List.dropWhile_append]
  split
  · -- blanks only, so that nothing is left on either side
    rename_i hcs
    rw [List.dropWhile_eq_nil_iff.mpr hw, List.isEmpty_iff.mp hcs]
  · rw [trimRight, trimRight, List.reverse_append, List.dropWhile_append_of_pos]
    intro c hc
    exact hw c (List.mem_reverse.mp hc)

theorem mem_of_mem_trim {cs : List Char} {c : Char} (h : c ∈ trim cs) : c ∈ cs := by
  rw [trim, trimRight, List.mem_reverse] at h
  have h1 : c ∈ trimLeft cs := by simpa using (List.dropWhile_suffix isBlank).subset h
  exact (List.dropWhile_suffix isBlank).subset h1

/-! ### Quotes -/

theorem mem_of_mem_unquote {cs : List Char} {c : Char} (h : c ∈ unquote cs) : c ∈ cs := by
  apply mem_of_mem_trim
  cases henclosed : isEnclosed (trim cs) with
  | false => rwa [unquote_of_not_isEnclosed henclosed] at h
  | true =>
    rw [unquote_of_isEnclosed henclosed] at h
    exact List.mem_of_mem_tail (List.dropLast_subset _ h)

theorem unquote_between (q : Char) (hq : isQuote q = true) (x : List Char) :
    unquote (q :: (x ++ [q])) = x := by
  have h := unquote_quoted [] x [] q hq (by simp) (by simp)
  simpa using h

/-! ### Lines -/

namespace Lines

/-- The lines of a file that is ended by a newline.  A file without a line
before that newline has an empty one there. -/
def closed (ls : List (List Char)) : List (List Char) :=
  (if ls = [] then [[]] else ls) ++ [[]]

theorem join_cons_newline (l : List Char) (ls : List (List Char)) :
    join (l :: ls) ++ ['\n'] = join (l :: (ls ++ [[]])) := by
  induction ls generalizing l with
  | nil => rfl
  | cons m ls ih =>
    rw [join, List.append_assoc, List.cons_append, ih m, List.cons_append, join]

theorem join_newline (ls : List (List Char)) : join ls ++ ['\n'] = join (closed ls) := by
  cases ls with
  | nil => rfl
  | cons l ls => rw [join_cons_newline, closed, if_neg (by simp), List.cons_append]

theorem split_join_newline {ls : List (List Char)} (h : ∀ l ∈ closed ls, '\n' ∉ l) :
    split (join ls ++ ['\n']) = closed ls := by
  rw [join_newline]
  exact split_join (closed ls) (by simp [closed]) h

end Lines

end Dotfile.Text

/-
The lines of a text.

A text with `n` newline characters has `n + 1` lines, the last of which may be
empty; a carriage return is an ordinary character of its line.

* **`split_ne_nil`** — every text has a line;
* **`not_mem_of_mem_split`** — a line holds no newline;
* **`split_join`** — splitting undoes joining for lines without newlines.
-/
namespace Dotfile.Text.Lines

/-- The lines of a text. -/
def split : List Char → List (List Char)
  | [] => [[]]
  | c :: cs =>
    if c = '\n' then [] :: split cs
    else
      match split cs with
      | [] => [[c]]
      | l :: ls => (c :: l) :: ls

/-- Lines put together, with a newline between two of them. -/
def join : List (List Char) → List Char
  | [] => []
  | [l] => l
  | l :: m :: ls => l ++ '\n' :: join (m :: ls)

/-- The lines of a text with their numbers, counted from one. -/
def numbered (cs : List Char) : List (List Char × Nat) :=
  (split cs).zipIdx 1

theorem split_ne_nil (cs : List Char) : split cs ≠ [] := by
  cases cs with
  | nil => simp [split]
  | cons c cs =>
    rw [split]
    split
    · simp
    · split <;> simp

theorem not_mem_of_mem_split (cs : List Char) : ∀ l ∈ split cs, '\n' ∉ l := by
  induction cs with
  | nil => simp [split]
  | cons c cs ih =>
    rw [split]
    split
    · simpa using ih
    · rename_i hc
      split
      · simpa using fun h => hc h.symm
      · rename_i l ls hl
        rw [hl] at ih
        intro m hm
        rcases List.mem_cons.1 hm with rfl | hm
        · simpa using ⟨fun h => hc h.symm, ih l (by simp)⟩
        · exact ih m (by simp [hm])

theorem split_append (l cs : List Char) (h : '\n' ∉ l) :
    split (l ++ '\n' :: cs) = l :: split cs := by
  induction l with
  | nil => simp [split]
  | cons c l ih =>
    simp only [List.mem_cons, not_or] at h
    rw [List.cons_append, split, if_neg fun hc => h.1 hc.symm, ih h.2]

theorem split_of_not_mem (l : List Char) (h : '\n' ∉ l) : split l = [l] := by
  induction l with
  | nil => rfl
  | cons c l ih =>
    simp only [List.mem_cons, not_or] at h
    rw [split, if_neg fun hc => h.1 hc.symm, ih h.2]

theorem split_join (ls : List (List Char)) (hne : ls ≠ []) (h : ∀ l ∈ ls, '\n' ∉ l) :
    split (join ls) = ls := by
  induction ls with
  | nil => exact absurd rfl hne
  | cons l ls ih =>
    cases ls with
    | nil => exact split_of_not_mem l (h l (by simp))
    | cons m ls =>
      rw [join, split_append l _ (h l (by simp)), ih (by simp) fun k hk => h k (by simp [hk])]

end Dotfile.Text.Lines

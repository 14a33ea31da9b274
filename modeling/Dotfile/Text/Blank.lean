/-
Blank characters and trimming.

A character is blank if it has the Unicode property White_Space.  Everything
in this library that skips or tests blanks means this one class, also inside
the patterns of assignment lines.

* **`trim_eq_nil_iff`** — nothing is left of a text exactly if it is all blank.
-/
namespace Dotfile.Text

/-- The code points with the property White_Space, as closed ranges in order. -/
def blankRanges : List (Nat × Nat) :=
  [(0x09, 0x0D), (0x20, 0x20), (0x85, 0x85), (0xA0, 0xA0), (0x1680, 0x1680),
   (0x2000, 0x200A), (0x2028, 0x2029), (0x202F, 0x202F), (0x205F, 0x205F), (0x3000, 0x3000)]

/-- Is `c` a blank character? -/
def isBlank (c : Char) : Bool :=
  blankRanges.any fun r => r.1 ≤ c.toNat && c.toNat ≤ r.2

/-- `cs` without its leading blanks. -/
def trimLeft (cs : List Char) : List Char :=
  cs.dropWhile isBlank

/-- `cs` without its trailing blanks. -/
def trimRight (cs : List Char) : List Char :=
  (cs.reverse.dropWhile isBlank).reverse

/-- `cs` without leading and trailing blanks. -/
def trim (cs : List Char) : List Char :=
  trimRight (trimLeft cs)

theorem trim_eq_nil_iff (cs : List Char) : trim cs = [] ↔ ∀ c ∈ cs, isBlank c = true := by
  have hdrop : ∀ l : List Char, l.dropWhile isBlank = [] ↔ ∀ c ∈ l, isBlank c = true := by
    intro l
    induction l with
    | nil => simp
    | cons a l ih => by_cases ha : isBlank a = true <;> simp [ha, ih]
  rw [trim, trimRight, List.reverse_eq_nil_iff, hdrop]
  constructor
  · intro h
    rw [← hdrop]
    rcases hl : cs.dropWhile isBlank with _ | ⟨a, l⟩
    · rfl
    · have ha : isBlank a = true := h a (by simp [trimLeft, hl])
      have hn : isBlank a = false := by
        have := List.head?_dropWhile_not isBlank cs
        rw [hl] at this
        simpa using this
      rw [ha] at hn
      exact absurd hn (by simp)
  · intro h c hc
    exact h c ((List.dropWhile_suffix isBlank).subset (by simpa [trimLeft] using hc))

end Dotfile.Text

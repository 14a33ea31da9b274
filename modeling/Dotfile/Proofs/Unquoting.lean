/-
Quotes come off by bytes as they would by characters.

The quotes around a value are cut off at byte offsets, and a value can hold
characters of any width.  The cut is made only if the value starts and ends
with the same quote, so it never falls inside a character; it fails at one
kind of value, a quote that stands alone and is both ends.

* `slice?_enclosed_eq_none_iff` — when the cut fails;
* `slice?_enclosed_eq_some` — what it gives elsewhere;
* `unquote_by_bytes` — so a value loses its first and its last character, and
  whatever is put between two quotes comes back.
-/
import Dotfile.Proofs.Text

namespace Dotfile.Text

theorem slice?_enclosed_eq_none_iff {text : List Char} (h : isEnclosed text = true) :
    slice? text 1 (lastOffset text (ne_nil_of_isEnclosed h)) = none ↔
      ∃ q, isQuote q = true ∧ text = [q] := by
  constructor
  · intro hnone
    obtain ⟨q, hq, hone | ⟨x, htwo⟩⟩ := isEnclosed_cases h
    · exact ⟨q, hq, hone⟩
    · rw [slice?_between hq htwo] at hnone
      exact absurd hnone (Option.some_ne_none x)
  · rintro ⟨q, hq, hone⟩
    exact slice?_singleton hq hone _

theorem slice?_enclosed_eq_some {v : List Char} (h : isEnclosed (trim v) = true)
    (hmore : ∀ q, isQuote q = true → trim v ≠ [q]) :
    slice? (trim v) 1 (lastOffset (trim v) (ne_nil_of_isEnclosed h)) = some (unquote v) := by
  obtain ⟨q, hq, hone | ⟨x, htwo⟩⟩ := isEnclosed_cases h
  · exact absurd hone (hmore q hq)
  · rw [slice?_between hq htwo, unquote_of_between hq htwo]

theorem trim_eq_between {v : List Char} {q : Char} (hq : isQuote q = true)
    (hhead : (trim v).head? = some q) (hlast : (trim v).getLast? = some q)
    (htwo : 2 ≤ (trim v).length) : trim v = q :: (unquote v ++ [q]) := by
  have henclosed : isEnclosed (trim v) = true := isEnclosed_iff.mpr ⟨q, hq, hhead, hlast⟩
  obtain ⟨r, hr, hone | ⟨x, hx⟩⟩ := isEnclosed_cases henclosed
  · rw [hone] at htwo
    exact absurd htwo (by simp)
  · rw [hx, List.head?_cons, Option.some_inj] at hhead
    rw [unquote_of_between hr hx, ← hhead, hx]

/-- **Quotes come off by bytes as they would by characters.**  The offset of the
last byte is asked for only if the trimmed value starts and ends with the same
quote, and then the value has a last byte.  The cut behind the first and before
the last byte fails exactly if the trimmed value is a lone quote; elsewhere both
offsets are at boundaries of characters and in order.  What comes out is the
trimmed value without its first and last character if it has two or more and
both are the same quote, nothing if it is a lone quote, and else the trimmed
value itself.  So a text between two quotes comes back, whatever it is and
whatever blanks are around the quotes. -/
theorem unquote_by_bytes (v : List Char) :
    (∀ h : isEnclosed (trim v) = true,
      trim v ≠ [] ∧
      lastOffset (trim v) (ne_nil_of_isEnclosed h) + 1 = byteLength (trim v) ∧
      (slice? (trim v) 1 (lastOffset (trim v) (ne_nil_of_isEnclosed h)) = none ↔
        ∃ q, isQuote q = true ∧ trim v = [q]) ∧
      ((∀ q, isQuote q = true → trim v ≠ [q]) →
        slice? (trim v) 1 (lastOffset (trim v) (ne_nil_of_isEnclosed h)) = some (unquote v) ∧
        IsPart (trim v) 1 (lastOffset (trim v) (ne_nil_of_isEnclosed h)) (unquote v))) ∧
    (∀ q, isQuote q = true → (trim v).head? = some q → (trim v).getLast? = some q →
      2 ≤ (trim v).length → trim v = q :: (unquote v ++ [q])) ∧
    (∀ q, isQuote q = true → trim v = [q] → unquote v = []) ∧
    ((∀ q, isQuote q = true → (trim v).head? = some q → (trim v).getLast? ≠ some q) →
      unquote v = trim v) ∧
    ∀ (q : Char) (x w₁ w₂ : List Char), isQuote q = true → AllBlank w₁ → AllBlank w₂ →
      unquote (w₁ ++ [q] ++ x ++ [q] ++ w₂) = x := by
  refine ⟨fun h => ⟨ne_nil_of_isEnclosed h, lastOffset_add_one _, slice?_enclosed_eq_none_iff h, ?_⟩,
    ?_, ?_, ?_, ?_⟩
  · intro hmore
    have hslice := slice?_enclosed_eq_some h hmore
    exact ⟨hslice, slice?_eq_some_iff.mp hslice⟩
  · intro q hq hhead hlast htwo
    exact trim_eq_between hq hhead hlast htwo
  · intro q hq hone
    exact unquote_singleton hq hone
  · intro hopen
    apply unquote_of_not_isEnclosed
    rw [← Bool.not_eq_true, isEnclosed_iff]
    rintro ⟨q, hq, hhead, hlast⟩
    exact hopen q hq hhead hlast
  · intro q x w₁ w₂ hq hw₁ hw₂
    have hquoted := unquote_quoted w₁ x w₂ q hq hw₁ hw₂
    simpa using hquoted

/-- Between two quotes stand characters of two, one and four bytes; then a quote
stands alone, and at last the quotes differ. -/
theorem unquote_by_bytes_sample :
    IsPart ['\x27', 'é', '"', '😀', '\x27'] 1 8 ['é', '"', '😀'] ∧
    unquote ['\u3000', '\x27', 'é', '"', '😀', '\x27', '\n'] = ['é', '"', '😀'] ∧
    slice? ['"'] 1 0 = none ∧ unquote [' ', '"'] = [] ∧
    unquote ['"', 'é', '\x27', ' '] = ['"', 'é', '\x27'] := by
  have hquoted : trim ['\u3000', '\x27', 'é', '"', '😀', '\x27', '\n'] =
      ['\x27', 'é', '"', '😀', '\x27'] := by decide
  have hlone : trim [' ', '"'] = ['"'] := by decide
  have hopen : trim ['"', 'é', '\x27', ' '] = ['"', 'é', '\x27'] := by decide
  obtain ⟨hcut, -, -, -, hback⟩ :=
    unquote_by_bytes ['\u3000', '\x27', 'é', '"', '😀', '\x27', '\n']
  obtain ⟨hcutLone, -, hempty, -, -⟩ := unquote_by_bytes [' ', '"']
  obtain ⟨-, -, -, hsame, -⟩ := unquote_by_bytes ['"', 'é', '\x27', ' ']
  have hvalue : unquote ['\u3000', '\x27', 'é', '"', '😀', '\x27', '\n'] = ['é', '"', '😀'] :=
    hback '\x27' ['é', '"', '😀'] ['\u3000'] ['\n'] (by decide)
      (List.all_eq_true.mp (by decide)) (List.all_eq_true.mp (by decide))
  refine ⟨?_, hvalue, ?_, hempty '"' (by decide) hlone, ?_⟩
  · obtain ⟨-, -, -, hpart⟩ := hcut (by decide)
    have hpart := (hpart (by rw [hquoted]; simp)).2
    rwa [show lastOffset (trim ['\u3000', '\x27', 'é', '"', '😀', '\x27', '\n']) _ = 8 by decide,
      hvalue, hquoted] at hpart
  · obtain ⟨-, -, hfails, -⟩ := hcutLone (by decide)
    have hfails := hfails.mpr ⟨'"', by decide, hlone⟩
    rwa [show lastOffset (trim [' ', '"']) _ = 0 by decide, hlone] at hfails
  · rw [hsame, hopen]
    rw [hopen]
    rintro q - hhead
    rw [List.head?_cons, Option.some_inj] at hhead
    rw [← hhead]
    decide

end Dotfile.Text

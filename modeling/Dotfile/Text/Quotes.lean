/-
Quotes around a value.

A value may stand between two double or two single quotes.  Nothing inside the
quotes is interpreted.  A quote is one byte wide, so the value is the part of
the text from the second byte up to the last one.

* **`isEnclosed_iff`** — the texts that start and end with the same quote;
* **`unquote_of_isEnclosed`** — such a text loses its first and last character;
* **`unquote_quoted`** — the quotes and the blanks around them come off;
* **`unquote_singleton`** — a quote that stands alone reads as the empty value.
-/
import Dotfile.Text.Blank
import Dotfile.Text.Slice

namespace Dotfile.Text

/-- The characters that can enclose a value. -/
def isQuote (c : Char) : Bool :=
  c == '"' || c == '\x27'

/-- Does `cs` start and end with `q`? -/
def isEnclosedBy (q : Char) (cs : List Char) : Bool :=
  cs.head? == some q && cs.getLast? == some q

/-- Does `cs` start and end with the same quote?  A lone quote is both ends. -/
def isEnclosed (cs : List Char) : Bool :=
  isEnclosedBy '"' cs || isEnclosedBy '\x27' cs

theorem ne_nil_of_isEnclosed {cs : List Char} (h : isEnclosed cs = true) : cs ≠ [] := by
  rintro rfl
  exact absurd h (by decide)

/-- The offset of the last byte of a text that has one. -/
def lastOffset (cs : List Char) (_ : cs ≠ []) : Nat :=
  byteLength cs - 1

/-- The value written as `cs`: trimmed, and without the first and the last
byte if these are the same quote. -/
def unquote (cs : List Char) : List Char :=
  let text := trim cs
  if h : isEnclosed text = true then
    (slice? text 1 (lastOffset text (ne_nil_of_isEnclosed h))).getD []
  else text

/-! ### Enclosed texts -/

theorem isBlank_eq_false_of_isQuote {q : Char} (h : isQuote q = true) : isBlank q = false := by
  simp only [isQuote, Bool.or_eq_true, beq_iff_eq] at h
  rcases h with rfl | rfl <;> decide

theorem byteLength_quote {q : Char} (h : isQuote q = true) : byteLength [q] = 1 := by
  simp only [isQuote, Bool.or_eq_true, beq_iff_eq] at h
  rcases h with rfl | rfl <;> decide

theorem isEnclosed_iff {cs : List Char} :
    isEnclosed cs = true ↔ ∃ q, isQuote q = true ∧ cs.head? = some q ∧ cs.getLast? = some q := by
  simp only [isEnclosed, isEnclosedBy, isQuote, Bool.or_eq_true, Bool.and_eq_true, beq_iff_eq]
  constructor
  · rintro (h | h)
    · exact ⟨'"', .inl rfl, h⟩
    · exact ⟨'\x27', .inr rfl, h⟩
  · rintro ⟨q, rfl | rfl, h⟩
    · exact .inl h
    · exact .inr h

/-- An enclosed text is a lone quote, or there are two of them. -/
theorem isEnclosed_cases {cs : List Char} (h : isEnclosed cs = true) :
    ∃ q, isQuote q = true ∧ (cs = [q] ∨ ∃ x, cs = q :: (x ++ [q])) := by
  obtain ⟨q, hq, hhead, hlast⟩ := isEnclosed_iff.mp h
  obtain ⟨rest, rfl⟩ := List.head?_eq_some_iff.mp hhead
  refine ⟨q, hq, ?_⟩
  rcases List.eq_nil_or_concat rest with rfl | ⟨x, c, rfl⟩
  · exact .inl rfl
  · rw [List.concat_eq_append, ← List.cons_append, List.getLast?_concat, Option.some_inj] at hlast
    exact .inr ⟨x, by rw [hlast, List.concat_eq_append]⟩

theorem isEnclosed_between {q : Char} (hq : isQuote q = true) (x : List Char) :
    isEnclosed (q :: (x ++ [q])) = true :=
  isEnclosed_iff.mpr ⟨q, hq, rfl, by rw [← List.cons_append, List.getLast?_concat]⟩

theorem isEnclosed_singleton {q : Char} (hq : isQuote q = true) : isEnclosed [q] = true :=
  isEnclosed_iff.mpr ⟨q, hq, rfl, rfl⟩

/-! ### The value -/

theorem lastOffset_add_one {cs : List Char} (h : cs ≠ []) : lastOffset cs h + 1 = byteLength cs :=
  Nat.sub_add_cancel (byteLength_pos h)

/-- The offsets at a lone quote are out of order. -/
theorem slice?_singleton {text : List Char} {q : Char} (hq : isQuote q = true)
    (ht : text = [q]) (h : text ≠ []) : slice? text 1 (lastOffset text h) = none := by
  subst ht
  have hlast := lastOffset_add_one h
  rw [byteLength_quote hq] at hlast
  exact slice?_of_lt [q] (by omega)

/-- The offsets at two quotes enclose what stands between them. -/
theorem slice?_between {text x : List Char} {q : Char} (hq : isQuote q = true)
    (ht : text = q :: (x ++ [q])) (h : text ≠ []) :
    slice? text 1 (lastOffset text h) = some x := by
  subst ht
  have hone := byteLength_quote hq
  have hlen : byteLength (q :: (x ++ [q])) = byteLength ([q] ++ x) + 1 := by
    rw [← List.cons_append, byteLength_append, hone, List.singleton_append]
  have hlast : lastOffset (q :: (x ++ [q])) h = byteLength ([q] ++ x) :=
    Nat.add_right_cancel ((lastOffset_add_one h).trans hlen)
  have hpart := isPart_append [q] x [q]
  rw [hone] at hpart
  rw [hlast, slice?_eq_some_iff]
  exact hpart

theorem unquote_of_not_isEnclosed {cs : List Char} (h : isEnclosed (trim cs) = false) :
    unquote cs = trim cs := by
  simp [unquote, h]

theorem unquote_of_isEnclosed {cs : List Char} (h : isEnclosed (trim cs) = true) :
    unquote cs = (trim cs).tail.dropLast := by
  rw [unquote, dif_pos h]
  obtain ⟨q, hq, hone | ⟨x, htwo⟩⟩ := isEnclosed_cases h
  · rw [slice?_singleton hq hone, Option.getD_none, hone]
    rfl
  · rw [slice?_between hq htwo, Option.getD_some, htwo, List.tail_cons, List.dropLast_concat]

theorem unquote_singleton {cs : List Char} {q : Char} (hq : isQuote q = true)
    (h : trim cs = [q]) : unquote cs = [] := by
  rw [unquote_of_isEnclosed (by rw [h]; exact isEnclosed_singleton hq), h]
  rfl

theorem unquote_of_between {cs x : List Char} {q : Char} (hq : isQuote q = true)
    (h : trim cs = q :: (x ++ [q])) : unquote cs = x := by
  rw [unquote_of_isEnclosed (by rw [h]; exact isEnclosed_between hq x), h, List.tail_cons,
    List.dropLast_concat]

/-- Blanks around a text that neither starts nor ends with one come off. -/
theorem trim_append (w x v : List Char) (hw : ∀ c ∈ w, isBlank c = true)
    (hv : ∀ c ∈ v, isBlank c = true) (hhead : ∀ c ∈ x.head?, isBlank c = false)
    (hlast : ∀ c ∈ x.getLast?, isBlank c = false) (hx : x ≠ []) : trim (w ++ x ++ v) = x := by
  have hskip : ∀ (u l : List Char), (∀ c ∈ u, isBlank c = true) →
      (∀ c ∈ l.head?, isBlank c = false) → l ≠ [] → (u ++ l).dropWhile isBlank = l := by
    intro u l hu hl hne
    induction u with
    | nil =>
      cases l with
      | nil => exact absurd rfl hne
      | cons a l => simp [hl a (by simp)]
    | cons a u ih =>
      rw [List.cons_append, List.dropWhile_cons, if_pos (hu a (by simp))]
      exact ih fun c hc => hu c (by simp [hc])
  have hleft : trimLeft (w ++ x ++ v) = x ++ v := by
    rw [trimLeft, List.append_assoc]
    refine hskip w (x ++ v) hw ?_ (by simp [hx])
    cases x with
    | nil => exact absurd rfl hx
    | cons a x => simpa using hhead
  rw [trim, hleft, trimRight, List.reverse_append,
    hskip v.reverse x.reverse (by simpa using hv) (by simpa using hlast) (by simpa using hx),
    List.reverse_reverse]

theorem unquote_quoted (w x v : List Char) (q : Char) (hq : isQuote q = true)
    (hw : ∀ c ∈ w, isBlank c = true) (hv : ∀ c ∈ v, isBlank c = true) :
    unquote (w ++ (q :: x ++ [q]) ++ v) = x := by
  have hb := isBlank_eq_false_of_isQuote hq
  have ht : trim (w ++ (q :: (x ++ [q])) ++ v) = q :: (x ++ [q]) :=
    trim_append w _ v hw hv (by simpa using hb) (by simp [List.getLast?_cons, hb]) (by simp)
  exact unquote_of_between hq ht

end Dotfile.Text

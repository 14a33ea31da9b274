/-
Strings of TOML, written and read back.

A string is written in the first of four styles that fits it.  It comes back
whatever the style is, if no quote follows it:

* `Spells` — what a text means that is read piece by piece, and `gather_of_spells`:
  the reader's fuel is enough for it;
* `escapedChar_cases` — a character is written as it is or as an escape;
* `spells_escapedLine`, `spells_escapedLines`, `spells_literal`,
  `spells_literalLines` — what is written in each style means the string;
* `readString?_quoted` — so it is read.

The styles over several lines are the hard ones.  Up to two quotes may stand
right before the three that end the string, and only what follows a quote tells
whether it belongs to the string; and a newline at the start does not count.
-/
import Dotfile.Toml.Writer
import Mathlib.Data.List.Basic

namespace Dotfile.Toml

/-! ### Pieces -/

section Pieces

variable {piece : List Char → Option Piece} {text value rest : List Char}

/-- Is `text` read as `value`, piece by piece, with `rest` left over? -/
inductive Spells (piece : List Char → Option Piece) : (text value rest : List Char) → Prop where
  | stop {text last rest : List Char} (h : piece text = some (.stop last rest)) :
    Spells piece text last rest
  | chars {text part text' value rest : List Char} (h : piece text = some (.chars part text'))
    (hlength : text'.length < text.length) (hrest : Spells piece text' value rest) :
    Spells piece text (part ++ value) rest

theorem gather_of_spells (h : Spells piece text value rest) {fuel : Nat}
    (hfuel : text.length < fuel) : gather piece fuel text = some (value, rest) := by
  induction h generalizing fuel with
  | stop h =>
    obtain ⟨n, rfl⟩ : ∃ n, fuel = n + 1 := ⟨fuel - 1, by omega⟩
    rw [gather, h]
  | chars h hlength _ ih =>
    obtain ⟨n, rfl⟩ : ∃ n, fuel = n + 1 := ⟨fuel - 1, by omega⟩
    rw [gather, h]
    dsimp only
    rw [ih (by omega), Option.map_some]

/-- One character, written as `part`. -/
theorem Spells.cons {c : Char} {part tail : List Char} (hpart : part ≠ [])
    (h : piece (part ++ tail) = some (.chars [c] tail)) (hrest : Spells piece tail value rest) :
    Spells piece (part ++ tail) (c :: value) rest := by
  refine .chars h ?_ hrest
  have hpos := List.length_pos_iff.mpr hpart
  rw [List.length_append]
  omega

theorem Spells.eq_of_stop {last left : List Char} (h : Spells piece text value rest)
    (hstop : piece text = some (.stop last left)) : value = last := by
  cases h with
  | stop h =>
    rw [h] at hstop
    cases hstop
    rfl
  | chars h =>
    rw [h] at hstop
    cases hstop

end Pieces

/-! ### Characters -/

theorem newline?_cons_eq_none {c : Char} (hfeed : c ≠ '\n') (hreturn : c ≠ '\r')
    (cs : List Char) : newline? (c :: cs) = none := by
  unfold newline?
  split
  · rename_i heq
    exact absurd (List.cons.inj heq).1 hfeed
  · rename_i heq
    exact absurd (List.cons.inj heq).1 hreturn
  · rfl

theorem newline?_eq_none_of_isPlain {c : Char} (h : isPlain c = true) (cs : List Char) :
    newline? (c :: cs) = none := by
  refine newline?_cons_eq_none ?_ ?_ cs
  · rintro rfl
    exact absurd h (by decide)
  · rintro rfl
    exact absurd h (by decide)

theorem linePiece_eq {c : Char} (h : isPlain c = true ∨ c = '\n') (cs : List Char) :
    linePiece c cs = some (.chars [c] cs) := by
  rcases h with h | rfl
  · rw [linePiece, newline?_eq_none_of_isPlain h cs]
    exact if_pos h
  · rfl

/-- Does `e`, after a backslash, stand for `c`?  It does not look like the end of a line. -/
structure Escape (c : Char) (e : List Char) : Prop where
  read : ∀ rest, escape? (e ++ rest) = some (c, rest)
  sameLine : ∀ rest, newline? (skipSpace (e ++ rest)) = none

theorem hexDigit?_hexChar {n : Nat} (h : n < 16) : hexDigit? (hexChar n) = some n := by
  have hall : ∀ m : Fin 16, hexDigit? (hexChar m) = some m.val := by decide
  exact hall ⟨n, h⟩

theorem toNat_lt_of_isControl {c : Char} (h : isControl c = true) : c.toNat < 128 := by
  simp only [isControl, Bool.or_eq_true, decide_eq_true_eq] at h
  omega

/-- Four digits, the first two of them zero. -/
theorem codePoint?_low {c : Char} (h : c.toNat < 256) (rest : List Char) :
    codePoint? 4 ('0' :: '0' :: hexChar (c.toNat / 16) :: hexChar (c.toNat % 16) :: rest) =
      some (c, rest) := by
  have hzero : hexDigit? '0' = some 0 := by decide
  have hhigh := hexDigit?_hexChar (n := c.toNat / 16) (by omega)
  have hlow := hexDigit?_hexChar (n := c.toNat % 16) (by omega)
  have hvalue : hexValue? ['0', '0', hexChar (c.toNat / 16), hexChar (c.toNat % 16)] =
      some c.toNat := by
    simp only [hexValue?, List.foldlM_cons, List.foldlM_nil, hzero, hhigh, hlow, Option.map_some,
      Option.bind_eq_bind, Option.bind_some, Option.pure_def]
    congr 1
    omega
  have hvalid : c.toNat.isValidChar := c.valid
  rw [codePoint?]
  simp only [List.take_succ_cons, List.take_zero, List.drop_succ_cons, List.drop_zero, hvalue,
    Option.bind_some, if_pos hvalid, Char.ofNat_toNat]
  rfl

theorem escape_control {c : Char} (h : isControl c = true) :
    Escape c ['u', '0', '0', hexChar (c.toNat / 16), hexChar (c.toNat % 16)] where
  read rest := codePoint?_low (by have := toNat_lt_of_isControl h; omega) rest
  sameLine _ := rfl

/-- A character is written as it is, or as an escape. -/
theorem escapedChar_cases (c : Char) :
    (escapedChar c = [c] ∧ isPlain c = true ∧ c ≠ '\\') ∨
      ∃ e, escapedChar c = '\\' :: e ∧ Escape c e := by
  unfold escapedChar
  split
  · exact .inr ⟨['b'], rfl, fun _ => rfl, fun _ => rfl⟩
  · exact .inr ⟨['t'], rfl, fun _ => rfl, fun _ => rfl⟩
  · exact .inr ⟨['f'], rfl, fun _ => rfl, fun _ => rfl⟩
  · exact .inr ⟨['r'], rfl, fun _ => rfl, fun _ => rfl⟩
  · exact .inr ⟨['\\'], rfl, fun _ => rfl, fun _ => rfl⟩
  · rename_i hslash
    split_ifs with hcontrol
    · exact .inr ⟨_, rfl, escape_control hcontrol⟩
    · refine .inl ⟨rfl, ?_, hslash⟩
      simp [isPlain, hcontrol]

theorem escape_newline : Escape '\n' ['n'] := ⟨fun _ => rfl, fun _ => rfl⟩

theorem escape_quote : Escape '"' ['"'] := ⟨fun _ => rfl, fun _ => rfl⟩

theorem Escape.escapePiece? {c : Char} {e : List Char} (h : Escape c e) (rest : List Char) :
    Toml.escapePiece? (e ++ rest) = some (.chars [c] rest) := by
  rw [Toml.escapePiece?, h.read rest, Option.map_some]

/-! ### On one line -/

theorem basicPiece_of_isPlain {c : Char} (hplain : isPlain c = true) (hquote : c ≠ '"')
    (hslash : c ≠ '\\') (cs : List Char) : basicPiece (c :: cs) = some (.chars [c] cs) := by
  rw [basicPiece, if_pos hplain]
  · exact hquote
  · exact hslash

theorem literalPiece_of_isPlain {c : Char} (hplain : isPlain c = true) (hquote : c ≠ '\x27')
    (cs : List Char) : literalPiece (c :: cs) = some (.chars [c] cs) := by
  rw [literalPiece, if_pos hplain]
  exact hquote

/-- A character on one line, as it is or as an escape; a quote is not as it is. -/
theorem escapedLine_cons_cases (c : Char) (cs : List Char) :
    (escapedLine (c :: cs) = [c] ++ escapedLine cs ∧ isPlain c = true ∧ c ≠ '\\' ∧ c ≠ '"') ∨
      ∃ e, escapedLine (c :: cs) = ('\\' :: e) ++ escapedLine cs ∧ Escape c e := by
  simp only [escapedLine, List.flatMap_cons]
  split_ifs with hfeed hquote
  · exact .inr ⟨['n'], rfl, hfeed ▸ escape_newline⟩
  · exact .inr ⟨['"'], rfl, hquote ▸ escape_quote⟩
  · rcases escapedChar_cases c with ⟨heq, hplain, hslash⟩ | ⟨e, heq, he⟩
    · exact .inl ⟨by rw [heq], hplain, hslash, hquote⟩
    · exact .inr ⟨e, by rw [heq], he⟩

theorem spells_escapedLine (cs rest : List Char) :
    Spells basicPiece (escapedLine cs ++ '"' :: rest) cs rest := by
  induction cs with
  | nil => exact .stop rfl
  | cons c cs ih =>
    rcases escapedLine_cons_cases c cs with ⟨heq, hplain, hslash, hquote⟩ | ⟨e, heq, he⟩
    · rw [heq, List.append_assoc]
      exact .cons (by simp) (basicPiece_of_isPlain hplain hquote hslash _) ih
    · rw [heq, List.append_assoc]
      exact .cons (by simp) (he.escapePiece? _) ih

theorem spells_literal {cs : List Char} (h : ∀ c ∈ cs, isPlain c = true ∧ c ≠ '\x27')
    (rest : List Char) : Spells literalPiece (cs ++ '\x27' :: rest) cs rest := by
  induction cs with
  | nil => exact .stop rfl
  | cons c cs ih =>
    obtain ⟨hplain, hquote⟩ := h c (by simp)
    have htail := ih fun d hd => h d (by simp [hd])
    show Spells literalPiece ([c] ++ (cs ++ '\x27' :: rest)) (c :: cs) rest
    exact .cons (by simp) (literalPiece_of_isPlain hplain hquote _) htail

/-! ### Quotes that follow each other -/

theorem not_prefix_of_ne {q c : Char} (h : c ≠ q) (cs : List Char) : ¬[q, q] <+: c :: cs :=
  fun hq => h (List.cons_prefix_cons.mp hq).1.symm

theorem not_prefix_cons {q : Char} {cs : List Char} (h : q ∉ cs.head?) : ¬[q, q] <+: q :: cs := by
  rintro ⟨tail, htail⟩
  rw [← (List.cons.inj htail).2] at h
  exact h rfl

/-! ### Over several lines -/

/-- Three quotes `q` end what `piece` reads, and up to two more before them belong to it. -/
structure EndsAt (q : Char) (piece : List Char → Option Piece) : Prop where
  stop : ∀ k ≤ 2, ∀ rest : List Char, q ∉ rest.head? →
    piece (List.replicate k q ++ q :: q :: q :: rest) = some (.stop (List.replicate k q) rest)
  go : ∀ text, ¬[q, q] <+: text → piece (q :: text) = some (.chars [q] text)

/-- A quote of the string itself.  It is read alone, or at the end together with
one that follows it and the three that end the string. -/
theorem EndsAt.spells_cons {q : Char} {piece : List Char → Option Piece} (h : EndsAt q piece)
    {text value rest : List Char} (htext : ¬[q, q] <+: text) (hrest : q ∉ rest.head?)
    (ih : Spells piece (text ++ q :: q :: q :: rest) value rest) :
    Spells piece (q :: (text ++ q :: q :: q :: rest)) (q :: value) rest := by
  by_cases hq : [q, q] <+: text ++ q :: q :: q :: rest
  · -- three quotes in a row, so the string ends after this one or the next
    obtain ⟨k, hk, rfl⟩ : ∃ k ≤ 1, text = List.replicate k q := by
      match text with
      | [] => exact ⟨0, by omega, rfl⟩
      | [a] =>
        have ha : q = a := (List.cons_prefix_cons.mp hq).1
        exact ⟨1, by omega, by rw [← ha]; rfl⟩
      | a :: b :: text =>
        refine absurd ?_ htext
        simpa [List.cons_prefix_cons] using hq
    have hvalue := ih.eq_of_stop (h.stop k (by omega) rest hrest)
    rw [hvalue]
    exact .stop (h.stop (k + 1) (by omega) rest hrest)
  · show Spells piece ([q] ++ (text ++ q :: q :: q :: rest)) (q :: value) rest
    exact .cons (by simp) (h.go _ hq) ih

theorem endsAt_basicLines : EndsAt '"' basicLinesPiece where
  stop k hk rest hrest := by
    match k with
    | 0 =>
      -- no more quotes follow, so the patterns with four and five of them do not match
      show basicLinesPiece ('"' :: '"' :: '"' :: rest) = _
      rw [basicLinesPiece]
      · rfl
      · rintro cs rfl
        exact hrest rfl
      · rintro cs rfl
        exact hrest rfl
    | 1 =>
      show basicLinesPiece ('"' :: '"' :: '"' :: '"' :: rest) = _
      rw [basicLinesPiece]
      · rfl
      · rintro cs rfl
        exact hrest rfl
    | 2 => rfl
  go text htext := by
    have hshort : ∀ cs, text ≠ '"' :: '"' :: cs := by
      rintro cs rfl
      exact htext ⟨cs, rfl⟩
    have hpiece : basicLinesPiece ('"' :: text) = linePiece '"' text := by
      rw [basicLinesPiece]
      · exact fun _ _ h => hshort _ h
      · exact fun _ _ h => hshort _ h
      · exact fun _ _ h => hshort _ h
      · decide
    rw [hpiece, linePiece_eq (.inl (by decide))]

theorem endsAt_literalLines : EndsAt '\x27' literalLinesPiece where
  stop k hk rest hrest := by
    match k with
    | 0 =>
      show literalLinesPiece ('\x27' :: '\x27' :: '\x27' :: rest) = _
      rw [literalLinesPiece]
      · rfl
      · rintro cs rfl
        exact hrest rfl
      · rintro cs rfl
        exact hrest rfl
    | 1 =>
      show literalLinesPiece ('\x27' :: '\x27' :: '\x27' :: '\x27' :: rest) = _
      rw [literalLinesPiece]
      · rfl
      · rintro cs rfl
        exact hrest rfl
    | 2 => rfl
  go text htext := by
    have hshort : ∀ cs, text ≠ '\x27' :: '\x27' :: cs := by
      rintro cs rfl
      exact htext ⟨cs, rfl⟩
    have hpiece : literalLinesPiece ('\x27' :: text) = linePiece '\x27' text := by
      rw [literalLinesPiece]
      · exact fun _ _ h => hshort _ h
      · exact fun _ _ h => hshort _ h
      · exact fun _ _ h => hshort _ h
    rw [hpiece, linePiece_eq (.inl (by decide))]

theorem basicLinesPiece_eq {c : Char} (h : isPlain c = true ∨ c = '\n') (hslash : c ≠ '\\')
    (hquote : c ≠ '"') (cs : List Char) : basicLinesPiece (c :: cs) = some (.chars [c] cs) := by
  rw [basicLinesPiece, linePiece_eq h]
  · exact fun _ h _ => hquote h
  · exact fun _ h _ => hquote h
  · exact fun _ h _ => hquote h
  · exact hslash

theorem literalLinesPiece_eq {c : Char} (h : isPlain c = true ∨ c = '\n') (hquote : c ≠ '\x27')
    (cs : List Char) : literalLinesPiece (c :: cs) = some (.chars [c] cs) := by
  rw [literalLinesPiece, linePiece_eq h]
  · exact fun _ h _ => hquote h
  · exact fun _ h _ => hquote h
  · exact fun _ h _ => hquote h

theorem Escape.basicLinesPiece {c : Char} {e : List Char} (h : Escape c e) (rest : List Char) :
    Toml.basicLinesPiece ('\\' :: (e ++ rest)) = some (.chars [c] rest) := by
  rw [Toml.basicLinesPiece, h.sameLine rest]
  exact h.escapePiece? rest

/-- A character over several lines: a quote, any other character as it is, or an escape. -/
theorem escapedLines_cons_cases (run : Nat) (c : Char) (cs : List Char) :
    (c = '"' ∧ run ≠ 2 ∧ escapedLines run (c :: cs) = c :: escapedLines (run + 1) cs) ∨
      (escapedLines run (c :: cs) = [c] ++ escapedLines 0 cs ∧
        (isPlain c = true ∨ c = '\n') ∧ c ≠ '\\' ∧ c ≠ '"') ∨
      ∃ e, escapedLines run (c :: cs) = ('\\' :: e) ++ escapedLines 0 cs ∧ Escape c e := by
  rw [escapedLines]
  split_ifs with hfeed hquote hrun
  · exact .inr (.inl ⟨rfl, .inr hfeed, by rw [hfeed]; decide, by rw [hfeed]; decide⟩)
  · exact .inr (.inr ⟨['"'], rfl, hquote ▸ escape_quote⟩)
  · exact .inl ⟨hquote, hrun, rfl⟩
  · rcases escapedChar_cases c with ⟨heq, hplain, hslash⟩ | ⟨e, heq, he⟩
    · exact .inr (.inl ⟨by rw [heq], .inl hplain, hslash, hquote⟩)
    · exact .inr (.inr ⟨e, by rw [heq], he⟩)

theorem quote_notMem_head_escapedLines_two (cs : List Char) : '"' ∉ (escapedLines 2 cs).head? := by
  cases cs with
  | nil => simp [escapedLines]
  | cons c cs =>
    rcases escapedLines_cons_cases 2 c cs with ⟨_, hrun, _⟩ | ⟨heq, _, _, hquote⟩ | ⟨e, heq, _⟩
    · exact absurd rfl hrun
    · simpa [heq] using hquote
    · simp [heq]

/-- After one quote comes at most one more that is not escaped. -/
theorem not_prefix_escapedLines {run : Nat} (hpos : 0 < run) (hle : run ≤ 2) (cs : List Char) :
    ¬['"', '"'] <+: escapedLines run cs := by
  cases cs with
  | nil => simp [escapedLines]
  | cons c cs =>
    rcases escapedLines_cons_cases run c cs with ⟨hc, hrun, heq⟩ | ⟨heq, _, _, hquote⟩ | ⟨e, heq, _⟩
    · obtain rfl : run = 1 := by omega
      rw [heq, hc]
      exact not_prefix_cons (quote_notMem_head_escapedLines_two cs)
    · rw [heq]
      exact not_prefix_of_ne hquote _
    · rw [heq]
      exact not_prefix_of_ne (by decide) _

theorem spells_escapedLines {run : Nat} (hrun : run ≤ 2) (cs : List Char) {rest : List Char}
    (hrest : '"' ∉ rest.head?) :
    Spells basicLinesPiece (escapedLines run cs ++ '"' :: '"' :: '"' :: rest) cs rest := by
  induction cs generalizing run with
  | nil => exact .stop (endsAt_basicLines.stop 0 (by omega) rest hrest)
  | cons c cs ih =>
    -- `run` is at most two, as a third quote is escaped and starts a new run
    rcases escapedLines_cons_cases run c cs with
      ⟨rfl, hne, heq⟩ | ⟨heq, hplain, hslash, hquote⟩ | ⟨e, heq, he⟩
    · rw [heq]
      have hshort : ¬['"', '"'] <+: escapedLines (run + 1) cs :=
        not_prefix_escapedLines (by omega) (by omega) cs
      exact endsAt_basicLines.spells_cons hshort hrest (ih (by omega))
    · rw [heq, List.append_assoc]
      exact .cons (by simp) (basicLinesPiece_eq hplain hslash hquote _) (ih (by omega))
    · rw [heq, List.append_assoc]
      exact .cons (by simp) (he.basicLinesPiece _) (ih (by omega))

theorem le_longestRun (q : Char) (run : Nat) (cs : List Char) : run ≤ longestRun q run cs := by
  induction cs generalizing run with
  | nil => exact Nat.le_refl run
  | cons c cs ih =>
    rw [longestRun]
    split_ifs
    · have := ih (run + 1)
      omega
    · omega

/-- After one quote comes at most one more, if no run of them is longer than two. -/
theorem not_prefix_of_longestRun_le {q : Char} {run : Nat} {cs : List Char} (hpos : 0 < run)
    (h : longestRun q run cs ≤ 2) : ¬[q, q] <+: cs := by
  rintro ⟨tail, rfl⟩
  simp only [List.cons_append, List.nil_append, longestRun, if_pos] at h
  have := le_longestRun q (run + 1 + 1) tail
  omega

theorem spells_literalLines {run : Nat} {cs : List Char}
    (hplain : ∀ c ∈ cs, isPlain c = true ∨ c = '\n') (hrun : longestRun '\x27' run cs ≤ 2)
    {rest : List Char} (hrest : '\x27' ∉ rest.head?) :
    Spells literalLinesPiece (cs ++ '\x27' :: '\x27' :: '\x27' :: rest) cs rest := by
  induction cs generalizing run with
  | nil => exact .stop (endsAt_literalLines.stop 0 (by omega) rest hrest)
  | cons c cs ih =>
    have hplain' : ∀ d ∈ cs, isPlain d = true ∨ d = '\n' := fun d hd => hplain d (by simp [hd])
    rw [longestRun] at hrun
    split_ifs at hrun with hquote
    · have hshort := not_prefix_of_longestRun_le (by omega) hrun
      rw [hquote]
      exact endsAt_literalLines.spells_cons hshort hrest (ih hplain' hrun)
    · have hrun' : longestRun '\x27' 0 cs ≤ 2 := by omega
      show Spells literalLinesPiece ([c] ++ (cs ++ _)) (c :: cs) rest
      exact .cons (by simp) (literalLinesPiece_eq (hplain c (by simp)) hquote _) (ih hplain' hrun')

/-! ### Styles -/

/-- Can a string be written in a style?  Those with escapes take every string. -/
def Fits : Style → List Char → Prop
  | .basic, _ => True
  | .literal, cs => ∀ c ∈ cs, isPlain c = true ∧ c ≠ '\x27'
  | .basicLines, _ => True
  | .literalLines, cs =>
    (∀ c ∈ cs, isPlain c = true ∨ c = '\n') ∧ longestRun '\x27' 0 cs ≤ 2

theorem ne_of_longestRun_eq_zero {q : Char} {cs : List Char} (h : longestRun q 0 cs = 0) :
    ∀ c ∈ cs, c ≠ q := by
  induction cs with
  | nil => simp
  | cons c cs ih =>
    rw [longestRun] at h
    split_ifs at h with hc
    · have := le_longestRun q (0 + 1) cs
      omega
    · have htail := ih (by omega)
      intro d hd
      rcases List.mem_cons.mp hd with rfl | hd
      · exact hc
      · exact htail d hd

theorem isPlain_or_of_needsEscape {cs : List Char} (h : needsEscape cs = false) :
    ∀ c ∈ cs, isPlain c = true ∨ c = '\n' := by
  intro c hc
  have hnot := List.any_eq_false.mp h c hc
  simp only [isPlain, Bool.or_eq_true, decide_eq_true_eq, Bool.not_eq_true']
  by_contra hcon
  push Not at hcon
  refine hnot ?_
  simp [hcon]

theorem fits_styleOf (cs : List Char) : Fits (styleOf cs) cs := by
  rw [styleOf]
  -- only the two literal styles ask for anything, and their tests say just that
  split_ifs with _ hliteral _ hlines
  · trivial
  · simp only [Bool.and_eq_true, Bool.not_eq_true', decide_eq_true_eq] at hliteral
    obtain ⟨⟨hescape, hsingles⟩, hfeeds⟩ := hliteral
    intro c hc
    have hfeed : c ≠ '\n' := by
      rintro rfl
      exact absurd hc (by simpa using hfeeds)
    exact ⟨(isPlain_or_of_needsEscape hescape c hc).resolve_right hfeed,
      ne_of_longestRun_eq_zero hsingles c hc⟩
  · trivial
  · simp only [Bool.and_eq_true, Bool.not_eq_true', decide_eq_true_eq] at hlines
    obtain ⟨hescape, hsingles⟩ := hlines
    exact ⟨isPlain_or_of_needsEscape hescape, hsingles⟩
  · trivial
  · trivial

/-- The newline after the opening quotes is dropped; where none is written, the
string does not start with one. -/
theorem getD_newline?_openingNewline {cs body : List Char} (h : '\n' ∉ cs → newline? body = none) :
    (newline? (openingNewline cs ++ body)).getD (openingNewline cs ++ body) = body := by
  rw [openingNewline]
  split_ifs with hfeed
  · rfl
  · rw [List.nil_append, h (by simpa using hfeed), Option.getD_none]

theorem readBasicLines_escapedLines (cs : List Char) {rest : List Char} (hrest : '"' ∉ rest.head?) :
    readBasicLines (openingNewline cs ++ (escapedLines 0 cs ++ '"' :: '"' :: '"' :: rest)) =
      some (cs, rest) := by
  rw [readBasicLines, getD_newline?_openingNewline]
  · exact gather_of_spells (spells_escapedLines (by omega) cs hrest) (by omega)
  · -- a string without newlines does not look as if it started with one
    intro hfeed
    cases cs with
    | nil => rfl
    | cons c cs =>
      have hc : c ≠ '\n' := fun h => hfeed (by simp [h])
      rcases escapedLines_cons_cases 0 c cs with ⟨rfl, _, heq⟩ | ⟨heq, hplain, _⟩ | ⟨e, heq, _⟩
      · rw [heq]
        rfl
      · rw [heq]
        exact newline?_eq_none_of_isPlain (hplain.resolve_right hc) _
      · rw [heq]
        rfl

theorem readLiteralLines_of_fits {cs rest : List Char} (hfits : Fits .literalLines cs)
    (hrest : '\x27' ∉ rest.head?) :
    readLiteralLines (openingNewline cs ++ (cs ++ '\x27' :: '\x27' :: '\x27' :: rest)) =
      some (cs, rest) := by
  obtain ⟨hplain, hrun⟩ := hfits
  rw [readLiteralLines, getD_newline?_openingNewline]
  · exact gather_of_spells (spells_literalLines hplain hrun hrest) (by omega)
  · intro hfeed
    cases cs with
    | nil => rfl
    | cons c cs =>
      have hc : c ≠ '\n' := fun h => hfeed (by simp [h])
      exact newline?_eq_none_of_isPlain ((hplain c (by simp)).resolve_right hc) _

/-! ### Strings -/

/-- A string on its line does not look like one over several lines. -/
theorem readString?_cons {q : Char} {text : List Char} (h : ¬[q, q] <+: text) :
    readString? (q :: text) = readLineString? (q :: text) := by
  rw [readString?]
  · rintro cs heq
    cases heq
    exact h ⟨cs, rfl⟩
  · rintro cs heq
    cases heq
    exact h ⟨cs, rfl⟩

/-- Does no quote follow? -/
def Unquoted (rest : List Char) : Prop := ∀ c ∈ rest.head?, c ≠ '"' ∧ c ≠ '\x27'

theorem not_prefix_escapedLine (cs : List Char) {rest : List Char} (hrest : '"' ∉ rest.head?) :
    ¬['"', '"'] <+: escapedLine cs ++ '"' :: rest := by
  cases cs with
  | nil => exact not_prefix_cons hrest
  | cons c cs =>
    rcases escapedLine_cons_cases c cs with ⟨heq, _, _, hquote⟩ | ⟨e, heq, _⟩
    · rw [heq]
      exact not_prefix_of_ne hquote _
    · rw [heq]
      exact not_prefix_of_ne (by decide) _

theorem not_prefix_literal {cs rest : List Char} (hcs : ∀ c ∈ cs, c ≠ '\x27')
    (hrest : '\x27' ∉ rest.head?) : ¬['\x27', '\x27'] <+: cs ++ '\x27' :: rest := by
  cases cs with
  | nil => exact not_prefix_cons hrest
  | cons c cs => exact not_prefix_of_ne (hcs c (by simp)) _

theorem readString?_styled {style : Style} {cs : List Char} (hfits : Fits style cs)
    {rest : List Char} (hrest : Unquoted rest) :
    readString? (styled style cs ++ rest) = some (cs, rest) := by
  have hdouble : '"' ∉ rest.head? := fun h => (hrest _ h).1 rfl
  have hsingle : '\x27' ∉ rest.head? := fun h => (hrest _ h).2 rfl
  cases style with
  | basic =>
    have htext : styled .basic cs ++ rest = '"' :: (escapedLine cs ++ '"' :: rest) := by
      simp [styled]
    rw [htext, readString?_cons (not_prefix_escapedLine cs hdouble)]
    exact gather_of_spells (spells_escapedLine cs rest) (by omega)
  | literal =>
    have htext : styled .literal cs ++ rest = '\x27' :: (cs ++ '\x27' :: rest) := by
      simp [styled]
    have hcs : ∀ c ∈ cs, c ≠ '\x27' := fun c hc => (hfits c hc).2
    rw [htext, readString?_cons (not_prefix_literal hcs hsingle)]
    exact gather_of_spells (spells_literal hfits rest) (by omega)
  | basicLines =>
    have htext : styled .basicLines cs ++ rest = '"' :: '"' :: '"' ::
        (openingNewline cs ++ (escapedLines 0 cs ++ '"' :: '"' :: '"' :: rest)) := by
      simp [styled]
    rw [htext]
    exact readBasicLines_escapedLines cs hdouble
  | literalLines =>
    have htext : styled .literalLines cs ++ rest = '\x27' :: '\x27' :: '\x27' ::
        (openingNewline cs ++ (cs ++ '\x27' :: '\x27' :: '\x27' :: rest)) := by
      simp [styled]
    rw [htext]
    exact readLiteralLines_of_fits hfits hsingle

/-- A string that was written is read. -/
theorem readString?_quoted (s : String) {rest : List Char} (hrest : Unquoted rest) :
    readString? ((quoted s).toList ++ rest) = some (s.toList, rest) := by
  rw [quoted, String.toList_ofList]
  exact readString?_styled (fits_styleOf s.toList) hrest

theorem exists_quoted_eq_cons (s : String) :
    ∃ q cs, (quoted s).toList = q :: cs ∧ (q = '"' ∨ q = '\x27') := by
  rw [quoted, String.toList_ofList]
  cases styleOf s.toList with
  | basic => exact ⟨'"', _, rfl, .inl rfl⟩
  | literal => exact ⟨'\x27', _, rfl, .inr rfl⟩
  | basicLines => exact ⟨'"', _, rfl, .inl rfl⟩
  | literalLines => exact ⟨'\x27', _, rfl, .inr rfl⟩

end Dotfile.Toml

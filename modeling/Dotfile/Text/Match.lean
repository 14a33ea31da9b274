/-
Looking for a word in a text.
-/
namespace Dotfile.Text

/-- What follows `word` in `cs`, if `cs` starts with `word`. -/
def after? : (word cs : List Char) → Option (List Char)
  | [], cs => some cs
  | _ :: _, [] => none
  | w :: ws, c :: cs => if w = c then after? ws cs else none

/-- `cs` without its first character if that is `c`. -/
def dropOne (c : Char) : List Char → List Char
  | [] => []
  | d :: cs => if d = c then cs else d :: cs

/-- Does `word` stand anywhere in `cs`? -/
def occursIn (word : List Char) : List Char → Bool
  | [] => word.isEmpty
  | c :: cs => word.isPrefixOf (c :: cs) || occursIn word cs

/-- Does the string `word` stand anywhere in `s`? -/
def isWithin (word s : String) : Bool :=
  occursIn word.toList s.toList

/-- A word with its ASCII capitals made small.  This decides whether a word
equals one of this library's keywords when case is ignored: the only other
character whose small form is an ASCII letter is the Kelvin sign, with the
small form `k`, and no keyword that is compared this way has a `k`. -/
def lower (s : String) : String :=
  String.ofList (s.toList.map Char.toLower)

theorem after?_eq_some_iff {word cs rest : List Char} :
    after? word cs = some rest ↔ cs = word ++ rest := by
  induction word generalizing cs with
  | nil => simp [after?]
  | cons w ws ih =>
    cases cs with
    | nil => simp [after?]
    | cons c cs =>
      by_cases h : w = c
      · simp [after?, h, ih]
      · simp [after?, h, Ne.symm h]

theorem occursIn_iff {word cs : List Char} : occursIn word cs = true ↔ word <:+: cs := by
  induction cs with
  | nil => cases word <;> simp [occursIn]
  | cons c cs ih =>
    rw [occursIn, Bool.or_eq_true, List.isPrefixOf_iff_prefix, ih, List.infix_cons_iff]

end Dotfile.Text

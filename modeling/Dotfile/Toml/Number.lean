/-
Numbers, dates and times of TOML.

* **`readInteger?`** — decimal with a sign, or hexadecimal, octal and binary
  without one; it has to fit into 64 bits;
* **`readFloat?`** — with a fraction or an exponent, or `inf` and `nan`;
* **`readDatetime?`** — a date, a time, or both with or without an offset.
-/
import Dotfile.Text.Match
import Dotfile.Toml.Quoted

namespace Dotfile.Toml

open Text

/-- Digits that may have single underscores between them: at least one digit,
and none of the underscores at an end. -/
def digits? (isDigit : Char → Bool) (cs : List Char) : Option (List Char × List Char) :=
  let run := cs.takeWhile fun c => isDigit c || c = '_'
  let pairs := run.zip (run.drop 1)
  if run.head?.any isDigit && run.getLast?.any isDigit &&
      pairs.all fun (a, b) => a ≠ '_' || b ≠ '_' then
    some (run.filter (· ≠ '_'), cs.drop run.length)
  else none

/-- A sign, and what follows. -/
def sign : List Char → Bool × List Char
  | '-' :: cs => (true, cs)
  | '+' :: cs => (false, cs)
  | cs => (false, cs)

def isDecimal (c : Char) : Bool := c.isDigit

/-- Decimal digits without a zero in front, unless zero is all there is. -/
def decimal? (cs : List Char) : Option (List Char × List Char) :=
  match cs with
  | '0' :: rest => some (['0'], rest)
  | _ => digits? isDecimal cs

/-- The value of digits in a base. -/
def valueOf (base : Nat) (ds : List Char) : Nat :=
  ds.foldl (fun n c => base * n + (hexDigit? c).getD 0) 0

def readRadix? (base : Nat) (isDigit : Char → Bool) (cs : List Char) : Option (Int × List Char) :=
  match digits? isDigit cs with
  | some (ds, rest) =>
    let n := valueOf base ds
    if n < Nat.pow 2 63 then some (n, rest) else none
  | none => none

def readDecimal? (cs : List Char) : Option (Int × List Char) :=
  let (negative, cs) := sign cs
  match decimal? cs with
  | some (ds, rest) =>
    let n : Int := valueOf 10 ds
    let i := if negative then -n else n
    if -Int.pow 2 63 ≤ i ∧ i < Int.pow 2 63 then some (i, rest) else none
  | none => none

def readInteger? : List Char → Option (Int × List Char)
  | '0' :: 'x' :: cs => readRadix? 16 (fun c => (hexDigit? c).isSome) cs
  | '0' :: 'o' :: cs => readRadix? 8 (fun c => '0' ≤ c && c ≤ '7') cs
  | '0' :: 'b' :: cs => readRadix? 2 (fun c => c = '0' || c = '1') cs
  | cs => readDecimal? cs

/-- The digits of a fraction, after its point. -/
def fraction? : List Char → Option (List Char × List Char)
  | '.' :: cs => digits? isDecimal cs
  | _ => none

/-- An exponent, after its letter. -/
def exponent? : List Char → Option (Int × List Char)
  | c :: cs =>
    if c = 'e' || c = 'E' then
      let (negative, cs) := sign cs
      (digits? isDecimal cs).map fun (ds, rest) =>
        (if negative then -(valueOf 10 ds : Int) else valueOf 10 ds, rest)
    else none
  | [] => none

/-- `n · 10 ^ e`, rounded.  Beyond the range of exponents that matter the result
is infinite or zero already, so that no greater power is computed. -/
def scaled (n : Nat) (e : Int) : Float :=
  let size : Int := (Nat.toDigits 10 n).length + e
  if n = 0 then 0.0
  else if 400 < size then 1.0 / 0.0
  else if size < -400 then 0.0
  else Float.ofScientific n (e < 0) e.natAbs

/-- A decimal number that is no integer.  One that is too great is refused; one
that is too small below zero is minus infinity. -/
def readDecimalFloat? (cs : List Char) : Option (Float × List Char) :=
  let (negative, cs) := sign cs
  match decimal? cs with
  | none => none
  | some (whole, rest) =>
    let finish (fraction : List Char) (e : Int) (rest : List Char) : Option (Float × List Char) :=
      let x := scaled (valueOf 10 (whole ++ fraction)) (e - fraction.length)
      if negative then some (-x, rest)
      else if x.isInf then none
      else some (x, rest)
    match rest with
    | '.' :: _ =>
      match fraction? rest with
      | none => none
      | some (fraction, rest) =>
        match rest with
        | [] => finish fraction 0 []
        | c :: _ =>
          if c = 'e' || c = 'E' then
            (exponent? rest).bind fun (e, rest) => finish fraction e rest
          else finish fraction 0 rest
    | _ => (exponent? rest).bind fun (e, rest) => finish [] e rest

/-- Infinity and not-a-number, with a sign or without. -/
def readSpecialFloat? (cs : List Char) : Option (Float × List Char) :=
  let (negative, cs) := sign cs
  match after? ['i', 'n', 'f'] cs, after? ['n', 'a', 'n'] cs with
  | some rest, _ => some (if negative then -(1.0 / 0.0) else 1.0 / 0.0, rest)
  | _, some rest => some (0.0 / 0.0, rest)
  | none, none => none

def readFloat? (cs : List Char) : Option (Float × List Char) :=
  (readDecimalFloat? cs).or (readSpecialFloat? cs)

/-- A number of exactly `n` digits within bounds. -/
def field? (n low high : Nat) (cs : List Char) : Option (Nat × List Char) :=
  let ds := cs.take n
  let v := valueOf 10 ds
  if ds.length = n ∧ ds.all isDecimal ∧ low ≤ v ∧ v ≤ high then some (v, cs.drop n) else none

def isLeapYear (year : Nat) : Bool :=
  year % 4 = 0 && (year % 100 ≠ 0 || year % 400 = 0)

def daysIn (year month : Nat) : Nat :=
  if month = 2 then (if isLeapYear year then 29 else 28)
  else if month ∈ [4, 6, 9, 11] then 30
  else 31

/-- Year, month and day. -/
def readDate? (cs : List Char) : Option (List Char) := do
  let (year, cs) ← field? 4 0 9999 cs
  let cs ← after? ['-'] cs
  let (month, cs) ← field? 2 1 12 cs
  let cs ← after? ['-'] cs
  let (_, cs) ← field? 2 1 (daysIn year month) cs
  return cs

/-- Hour, minute and second, and a fraction of the second or none. -/
def readTime? (cs : List Char) : Option (List Char) := do
  let (_, cs) ← field? 2 0 23 cs
  let cs ← after? [':'] cs
  let (_, cs) ← field? 2 0 59 cs
  let cs ← after? [':'] cs
  let (_, cs) ← field? 2 0 60 cs
  match cs with
  | '.' :: rest =>
    if rest.head?.any isDecimal then some (rest.dropWhile isDecimal) else some cs
  | _ => some cs

/-- An offset from universal time. -/
def readOffset? (cs : List Char) : Option (List Char) :=
  match cs with
  | c :: rest =>
    if c = 'Z' || c = 'z' then some rest
    else if c = '+' || c = '-' then do
      let (_, rest) ← field? 2 0 23 rest
      let rest ← after? [':'] rest
      let (_, rest) ← field? 2 0 59 rest
      return rest
    else none
  | [] => none

/-- A time after a date, divided from it by a letter or a space. -/
def readDateTail? (cs : List Char) : Option (List Char) :=
  match cs with
  | c :: rest =>
    if c = 'T' || c = 't' || c = ' ' then
      (readTime? rest).map fun rest => (readOffset? rest).getD rest
    else none
  | [] => none

/-- What follows a date or a time. -/
def readDatetime? (cs : List Char) : Option (List Char) :=
  match readDate? cs with
  | some rest => some ((readDateTail? rest).getD rest)
  | none => readTime? cs

end Dotfile.Toml

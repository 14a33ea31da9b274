/-
Numbers as the data format writes them.

Those digits of a number count that fit into 64 bits together; the others only
move the point.  A number without point and exponent whose digits all count is
an integer if it fits into 64 bits with its sign.  Any other is the counting
digits as a floating-point number, times or divided by a power of ten: two
roundings, so that it may be next to the nearest floating-point number.

* **`Numeral.ofChars?`** — reading the parts;
* **`Numeral.value?`** — the number that they make.
-/
import Dotfile.Data.Value

namespace Dotfile.Data

/-- The parts of a number: `significand · 10 ^ exponent` below or above zero. -/
structure Numeral where
  negative : Bool
  significand : Nat
  exponent : Int
  /-- Has it neither point nor exponent, and do all of its digits count? -/
  whole : Bool
  deriving DecidableEq, Repr

namespace Numeral

/-- Appends digits to `n` as long as they fit into 64 bits, and counts the others. -/
def absorb (n : Nat) : List Char → Nat × Nat
  | [] => (n, 0)
  | c :: cs =>
    let next := 10 * n + (c.toNat - '0'.toNat)
    if next < Nat.pow 2 64 then absorb next cs else (n, cs.length + 1)

/-- The exponent with its letter, if there is one. -/
def exponent? : List Char → Option Int
  | [] => some 0
  | c :: cs =>
    let (negative, ds) := match cs with
      | '-' :: ds => (true, ds)
      | '+' :: ds => (false, ds)
      | ds => (false, ds)
    if (c = 'e' || c = 'E') && !ds.isEmpty && ds.all Char.isDigit then
      let n : Nat := ds.foldl (fun n c => 10 * n + (c.toNat - '0'.toNat)) 0
      some (if negative then -(n : Int) else n)
    else none

/-- The digits after the point, if there is one, and what follows them. -/
def fraction? : List Char → Option (List Char × List Char)
  | '.' :: cs =>
    match cs.takeWhile Char.isDigit with
    | [] => none
    | ds => some (ds, cs.dropWhile Char.isDigit)
  | cs => some ([], cs)

/-- Reads a number without its sign. -/
def magnitude? (cs : List Char) : Option Numeral :=
  let ds := cs.takeWhile Char.isDigit
  let rest := cs.dropWhile Char.isDigit
  if ds.isEmpty || (ds.head? = some '0' && 1 < ds.length) then none
  else
    let (n, left) := absorb 0 ds
    match fraction? rest with
    | none => none
    | some (fraction, tail) =>
      let (m, dropped) := absorb n fraction
      (exponent? tail).map fun e =>
        { negative := false
          significand := m
          exponent := left - (fraction.length - dropped : Nat) + e
          whole := rest.isEmpty && left = 0 }

/-- Reads a number. -/
def ofChars? : List Char → Option Numeral
  | '-' :: cs => (magnitude? cs).map fun x => { x with negative := true }
  | cs => magnitude? cs

/-- The greatest power of ten that a floating-point number can hold. -/
def greatestPower : Nat := 308

/-- `x · 10 ^ e`.  There is none if it is too great; what is too small becomes
zero after a few divisions by the greatest power. -/
def scale? (x : Float) (e : Int) : (fuel : Nat) → Option Float
  | 0 => some 0
  | fuel + 1 =>
    let power := Float.ofScientific 1 false (min e.natAbs greatestPower)
    if e.natAbs ≤ greatestPower then
      if 0 ≤ e then
        let y := x * power
        if y.isInf then none else some y
      else some (x / power)
    else if x == 0 then some x
    else if 0 ≤ e then none
    else scale? (x / power) (e + greatestPower) fuel

/-- The number that the parts make; there is none if it is too great. -/
def value? (x : Numeral) : Option Value :=
  if x.whole && !x.negative then some (.integer x.significand)
  else if x.whole && 0 < x.significand && x.significand ≤ Nat.pow 2 63 then
    some (.integer (-(x.significand : Int)))
  else
    (scale? x.significand.toUInt64.toFloat x.exponent 4).map fun y =>
      .float (if x.negative then -y else y)

end Numeral

/-- The number that is written as `cs`. -/
def Value.ofNumeral? (cs : List Char) : Option Value :=
  (Numeral.ofChars? cs).bind Numeral.value?

end Dotfile.Data

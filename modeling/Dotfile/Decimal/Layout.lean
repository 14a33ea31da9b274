/-
How the digits of a number are laid out.
-/
import Dotfile.Decimal.Shortest

namespace Dotfile.Decimal

/-- The decisions of a notation for floating-point numbers.  A number whose
leading digit stands for `10 ^ e` is written positionally if `e` is within the
bounds, with at least one digit on either side of the point, and with an
exponent otherwise. -/
structure Layout where
  least : Option Int
  greatest : Option Int
  /-- Write the sign of an exponent above zero. -/
  plus : Bool
  /-- Of two equally near decimals, take the greater one, and not the even one. -/
  tieUp : Bool

/-- Digits with a point, or zeros, where the exponent puts it. -/
def Scaled.positional (s : Scaled) : String :=
  let ds := Nat.toDigits 10 s.digits
  let point := (ds.length : Int) + s.exponent
  String.ofList <|
    if 0 ≤ s.exponent then ds ++ List.replicate s.exponent.toNat '0' ++ ['.', '0']
    else if 0 < point then ds.take point.toNat ++ ['.'] ++ ds.drop point.toNat
    else ['0', '.'] ++ List.replicate (-point).toNat '0' ++ ds

/-- One digit, a point if more follow, and the exponent. -/
def Scaled.scientific (plus : Bool) (s : Scaled) : String :=
  match Nat.toDigits 10 s.digits with
  | [] => ""
  | d :: ds =>
    let mantissa := if ds.isEmpty then [d] else d :: '.' :: ds
    let e := s.exponent + ds.length
    String.ofList mantissa ++ (if plus && 0 < e then "e+" else "e") ++ toString e

def Layout.digits (l : Layout) (s : Scaled) : String :=
  let e := s.exponent + ((Nat.toDigits 10 s.digits).length : Int) - 1
  if l.least.all (· ≤ e) && l.greatest.all (e ≤ ·) then s.positional else s.scientific l.plus

/-- The text of a number. -/
def Layout.text (l : Layout) (x : Float) : String :=
  let bits := x.toBits
  let sign := if bits.toNat / Nat.pow 2 63 = 1 then "-" else ""
  if x.isNaN then "NaN"
  else if x.isInf then sign ++ "inf"
  else sign ++ l.digits ((Binary.ofBits bits).shortest l.tieUp)

end Dotfile.Decimal

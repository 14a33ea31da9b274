/-
The fewest decimal digits that identify a floating-point number.

A finite number is `m · 2 ^ q`.  The reals that round to it lie between the
points halfway to its two neighbours, and the ends belong to them exactly if
`m` is even.  Of the decimals in that interval those with the fewest digits are
sought, and of these the nearest.  All arithmetic is exact, on naturals.
-/
namespace Dotfile.Decimal

/-- The magnitude `m · 2 ^ q` of a finite number.  The gap below it is half the
gap above it if it is `narrow`. -/
structure Binary where
  m : Nat
  q : Int
  narrow : Bool

/-- A decimal `digits · 10 ^ exponent`. -/
structure Scaled where
  digits : Nat
  exponent : Int
  deriving DecidableEq, Repr

/-- The magnitude with these bits; the sign bit does not count. -/
def Binary.ofBits (bits : UInt64) : Binary :=
  let fraction : Nat := bits.toNat % Nat.pow 2 52
  let exponent : Nat := bits.toNat / Nat.pow 2 52 % Nat.pow 2 11
  if exponent = 0 then ⟨fraction, -1074, false⟩
  else ⟨Nat.pow 2 52 + fraction, (exponent : Int) - 1075, fraction = 0 && 1 < exponent⟩

/-- `base ^ k` as a fraction. -/
def power (base : Nat) (k : Int) : Nat × Nat :=
  if 0 ≤ k then (base.pow k.toNat, 1) else (1, base.pow (-k).toNat)

/-- Compares `a · 2 ^ i` with `d · 10 ^ j`. -/
def compareScaled (a : Nat) (i : Int) (d : Nat) (j : Int) : Ordering :=
  let (un, ud) := power 2 i
  let (vn, vd) := power 10 j
  compare (a * un * vd) (d * vn * ud)

/-- Does `d · 10 ^ j` round to `x`? -/
def Binary.readsBack (x : Binary) (d : Nat) (j : Int) : Bool :=
  let low := compareScaled (4 * x.m - if x.narrow then 1 else 2) (x.q - 2) d j
  let high := compareScaled (4 * x.m + 2) (x.q - 2) d j
  if x.m % 2 = 0 then low != .gt && high != .lt else low == .lt && high == .gt

/-- The least `k` with `x < 10 ^ k`, for `x` not zero. -/
def Binary.scale (x : Binary) : Int :=
  let guess := (x.m.log2 + x.q) * 30103 / 100000
  ([guess - 1, guess, guess + 1].find? fun k => compareScaled x.m x.q 1 k == .lt).getD (guess + 2)

/-- The grid point at or below `x` among the multiples of `10 ^ j`. -/
def Binary.floor (x : Binary) (j : Int) : Nat :=
  let (un, ud) := power 2 x.q
  let (vn, vd) := power 10 j
  x.m * un * vd / (ud * vn)

/-- Takes trailing zeros of the digits into the exponent. -/
def Scaled.strip : (fuel : Nat) → Scaled → Scaled
  | 0, s => s
  | fuel + 1, s =>
    if s.digits % 10 = 0 ∧ s.digits ≠ 0 then strip fuel ⟨s.digits / 10, s.exponent + 1⟩ else s

/-- The point of the grid `10 ^ j` that stands for `x`: of the two neighbours
of `x` one that rounds to it, the nearer if both do; `tieUp` decides between
two that are equally near. -/
def Binary.onGrid? (x : Binary) (tieUp : Bool) (j : Int) : Option Scaled :=
  let d := x.floor j
  match x.readsBack d j && d != 0, x.readsBack (d + 1) j with
  | true, true =>
    match compareScaled (2 * x.m) x.q (2 * d + 1) j with
    | .lt => some ⟨d, j⟩
    | .gt => some ⟨d + 1, j⟩
    | .eq => some ⟨if tieUp || d % 2 = 1 then d + 1 else d, j⟩
  | true, false => some ⟨d, j⟩
  | false, true => some ⟨d + 1, j⟩
  | false, false => none

/-- The fewest digits that identify `x`.  Seventeen always suffice. -/
def Binary.shortest (x : Binary) (tieUp : Bool) : Scaled :=
  if x.m = 0 then ⟨0, 0⟩
  else
    let k := x.scale
    let found := (List.range 17).findSome? fun n : Nat => x.onGrid? tieUp (k - (n + 1))
    Scaled.strip 17 (found.getD ⟨x.floor (k - 17), k - 17⟩)

end Dotfile.Decimal

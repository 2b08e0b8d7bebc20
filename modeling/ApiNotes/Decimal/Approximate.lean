/-!
# Doubles from a significand and a power of ten

The double for `s · 10 ^ e` is computed in two roundings: `s` becomes a double, and
that is multiplied or divided by a power of ten once. Very small powers are reached
by dividing by `10 ^ 308` first, as often as it takes. A product beyond the range of
doubles has no value.
-/

namespace ApiNotes

namespace Decimal

/-- The double nearest to `10 ^ k`. -/
def powerOfTen (k : Nat) : Float :=
  Float.ofScientific 1 false k

/-- `f / 10 ^ k`, dividing by `10 ^ 308` while `k` is larger. -/
def scaleDown (f : Float) (k : Nat) : Float :=
  if k ≤ 308 then f / powerOfTen k
  else if f == 0 then f
  else scaleDown (f / powerOfTen 308) (k - 308)
termination_by k

/-- `f · 10 ^ k`, if it is in range. -/
def scaleUp? (f : Float) (k : Nat) : Option Float :=
  if k ≤ 308 then
    let g := f * powerOfTen k
    if g.isInf then none else some g
  else if f == 0 then some f
  else none

/-- The double for `significand · 10 ^ exponent`, for a significand of 64 bits. -/
def approximate? (significand : Nat) (exponent : Int) : Option Float :=
  let f := (UInt64.ofNat significand).toFloat
  if 0 ≤ exponent then scaleUp? f exponent.toNat
  else some (scaleDown f exponent.natAbs)

end Decimal

end ApiNotes

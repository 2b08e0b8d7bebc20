/-!
# The shortest decimal that reads back

A finite double is a magnitude `m · 2 ^ q` with a sign. Every real close enough to
the magnitude rounds to it; those reals form an interval, whose ends belong to it
exactly when `m` is even. `shortest` gives the decimal `d · 10 ^ k` in that interval
with the largest `k`, which is the one with the fewest digits: of the two multiples
of `10 ^ k` around the magnitude it takes the one inside the interval, the nearer
one when both are, and the even one when both are equally near. All of it is exact
arithmetic on natural numbers.
-/

namespace ApiNotes

/-- The number `significand · 10 ^ exponent`. -/
structure Decimal where
  significand : Nat
  exponent : Int
deriving Repr, DecidableEq

namespace Decimal

/-- The number `significand · 2 ^ exponent` as a double holds it. It is `narrow` when
the next smaller double is at half the distance of the next larger one. -/
structure Magnitude where
  significand : Nat
  exponent : Int
  narrow : Bool
deriving Repr, DecidableEq

/-- The magnitude of the double with the given bits. The sign bit does not matter. -/
def Magnitude.ofBits (bits : Nat) : Magnitude :=
  let fraction : Nat := bits % Nat.pow 2 52
  let biased : Nat := bits / Nat.pow 2 52 % Nat.pow 2 11
  if biased = 0 then ⟨fraction, -1074, false⟩
  else ⟨Nat.pow 2 52 + fraction, (biased : Int) - 1075, fraction == 0 && biased != 1⟩

/-- The reals that round to a magnitude: those between `lower` and `upper`, with
`value` the magnitude itself, all over the denominator `den`. -/
structure Neighbourhood where
  value : Nat
  lower : Nat
  upper : Nat
  den : Nat
  closed : Bool
deriving Repr, DecidableEq

/-- The neighbourhood of a magnitude, measured in quarters of its last binary
place. -/
def Magnitude.neighbourhood (m : Magnitude) : Neighbourhood :=
  let quarter := Nat.pow 2 m.exponent.toNat
  let value := 4 * m.significand * quarter
  { value := value
    lower := value - (if m.narrow then quarter else 2 * quarter)
    upper := value + 2 * quarter
    den := 4 * Nat.pow 2 (-m.exponent).toNat
    closed := m.significand % 2 == 0 }

/-- The multiple of `10 ^ k` that stands for the neighbourhood, if one lies in it. -/
def Neighbourhood.onGrid? (n : Neighbourhood) (k : Int) : Option Nat :=
  let unit := n.den * Nat.pow 10 k.toNat
  let scale := Nat.pow 10 (-k).toNat
  let below := n.value * scale / unit
  let inside (c : Nat) : Bool :=
    if n.closed then n.lower * scale ≤ c * unit && c * unit ≤ n.upper * scale
    else n.lower * scale < c * unit && c * unit < n.upper * scale
  let down := n.value * scale - below * unit
  let up := (below + 1) * unit - n.value * scale
  match inside below, inside (below + 1) with
  | true, true =>
    if down < up then some below
    else if up < down then some (below + 1)
    else if below % 2 = 0 then some below else some (below + 1)
  | true, false => some below
  | false, true => some (below + 1)
  | false, false => none

/-- The first exponent from `k` downwards with a multiple in the neighbourhood, among
`steps` of them. -/
def Neighbourhood.coarsest (n : Neighbourhood) : Nat → Int → Decimal
  | 0, k => ⟨0, k⟩
  | steps + 1, k =>
    match n.onGrid? k with
    | some c => ⟨c, k⟩
    | none => n.coarsest steps (k - 1)

/-- The shortest decimal that reads back as a magnitude other than zero. No double
reaches `10 ^ 309`, and doubles are never closer to each other than `10 ^ (-324)`, so
the exponents from `308` down to `-324` are all there are. -/
def shortest (m : Magnitude) : Decimal :=
  m.neighbourhood.coarsest 633 308

end Decimal

end ApiNotes

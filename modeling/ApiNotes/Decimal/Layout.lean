import ApiNotes.Decimal.Shortest
import ApiNotes.Text.Digit

/-!
# Writing numbers with a fraction

A layout says how a decimal is spelled: which orders of magnitude are written
positionally, and how the exponent of the others is introduced. Positional spellings
always have a fraction, `.0` if need be; the others have one only when there is more
than one digit.
-/

namespace ApiNotes

namespace Decimal

/-- The decisions that a spelling of decimals leaves open. -/
structure Layout where
  /-- Whether a number whose first digit counts powers `10 ^ e` is written
  positionally. -/
  positional : Int → Bool
  /-- What introduces an exponent that is not negative. -/
  rising : List Char

/-- Positional from `0.00001` up to sixteen digits before the point. -/
def Layout.sixteenDigits (e : Int) : Bool :=
  -5 ≤ e && e < 16

/-- A decimal with its digits in place around the point. -/
def writePositional (digits : List Char) (exponent : Int) : List Char :=
  let before := (digits.length : Int) + exponent
  if 0 ≤ exponent then
    digits ++ List.replicate exponent.toNat '0' ++ ['.', '0']
  else if 0 < before then
    digits.take before.toNat ++ '.' :: digits.drop before.toNat
  else
    '0' :: '.' :: List.replicate (-before).toNat '0' ++ digits

/-- A decimal with one digit before the point and an exponent. -/
def writeScientific (rising : List Char) (digits : List Char) (order : Int) : List Char :=
  digits.take 1 ++
    (if digits.length ≤ 1 then [] else '.' :: digits.drop 1) ++
    (if 0 ≤ order then rising else ['e', '-']) ++ Text.digits order.natAbs

/-- The spelling of a decimal. -/
def Layout.write (layout : Layout) (d : Decimal) : List Char :=
  let digits := Text.digits d.significand
  let order := d.exponent + digits.length - 1
  if layout.positional order then writePositional digits d.exponent
  else writeScientific layout.rising digits order

/-- The spelling of a finite double: its sign, then the shortest decimal that reads
back. -/
def Layout.writeFloat (layout : Layout) (x : Float) : List Char :=
  let bits := x.toBits.toNat
  let m := Magnitude.ofBits bits
  (if Nat.pow 2 63 ≤ bits then ['-'] else []) ++
    (if m.significand = 0 then ['0', '.', '0'] else layout.write (shortest m))

end Decimal

end ApiNotes

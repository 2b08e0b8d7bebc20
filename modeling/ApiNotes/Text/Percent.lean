import ApiNotes.Text.Digit

/-!
# Percent signs

In the parts of a URL, a percent sign and two hexadecimal digits stand for a byte. Reading
gives the bytes; writing puts the bytes of some ASCII characters, and those of all others,
behind percent signs.
-/

namespace ApiNotes

namespace Text

/-- The bytes of a text in which percent signs introduce bytes; all other characters stand
for their UTF-8 form. A percent sign without two digits behind it stands for itself. -/
def percentBytes : List Char → List UInt8
  | [] => []
  | c :: cs =>
    match c, cs with
    | '%', a :: b :: rest =>
      match hexValue? a, hexValue? b with
      | some x, some y => UInt8.ofNat (16 * x + y) :: percentBytes rest
      | _, _ => String.utf8EncodeChar c ++ percentBytes (a :: b :: rest)
    | c, cs => String.utf8EncodeChar c ++ percentBytes cs

/-- A byte behind a percent sign. -/
def percentByte (b : UInt8) : List Char :=
  ['%', (hexDigit (b.toNat / 16)).toUpper, (hexDigit (b.toNat % 16)).toUpper]

/-- A text in which the characters satisfying `p`, and all that are not ASCII, are written
with percent signs. -/
def percentEncode (p : Char → Bool) (cs : List Char) : List Char :=
  cs.flatMap fun c =>
    if p c || 0x7F < c.toNat then (String.utf8EncodeChar c).flatMap percentByte else [c]

end Text

end ApiNotes

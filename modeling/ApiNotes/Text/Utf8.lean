/-!
# Reading UTF-8

Bytes are read as UTF-8 one by one. The state of the reader is what the character begun
so far still needs; a byte that cannot continue it ends the character as malformed and
is then read as the start of another one. Every malformed part yields `none`, so the
strict reading asks that there are none and the lenient one replaces each.
-/

namespace ApiNotes

namespace Text

/-- What a character still needs: the number of further bytes, the bounds of the next
one, and the bits read so far. Nothing is needed between characters. -/
structure Pending where
  need : Nat
  lower : UInt8
  upper : UInt8
  bits : Nat
deriving Repr, DecidableEq

/-- Between characters. -/
def Pending.none : Pending :=
  ⟨0, 0x80, 0xBF, 0⟩

/-- What a byte that starts a character yields: the character itself, a malformed part,
or a character that needs more bytes. -/
def leadByte (b : UInt8) : List (Option Char) × Pending :=
  let n := b.toNat
  if n < 0x80 then ([some (Char.ofNat n)], .none)
  else if n < 0xC2 then ([Option.none], .none)
  else if n < 0xE0 then ([], ⟨1, 0x80, 0xBF, n - 0xC0⟩)
  else if n < 0xF0 then
    ([], ⟨2, if n = 0xE0 then 0xA0 else 0x80, if n = 0xED then 0x9F else 0xBF, n - 0xE0⟩)
  else if n < 0xF5 then
    ([], ⟨3, if n = 0xF0 then 0x90 else 0x80, if n = 0xF4 then 0x8F else 0xBF, n - 0xF0⟩)
  else ([Option.none], .none)

/-- The characters of a byte sequence, with `none` for every malformed part. -/
def decodeFrom (p : Pending) : List UInt8 → List (Option Char)
  | [] => if p.need = 0 then [] else [none]
  | b :: bs =>
    if p.need = 0 then
      let (chars, next) := leadByte b
      chars ++ decodeFrom next bs
    else if p.lower ≤ b ∧ b ≤ p.upper then
      let bits := 64 * p.bits + (b.toNat - 0x80)
      if p.need = 1 then some (Char.ofNat bits) :: decodeFrom .none bs
      else decodeFrom ⟨p.need - 1, 0x80, 0xBF, bits⟩ bs
    else
      let (chars, next) := leadByte b
      none :: chars ++ decodeFrom next bs

/-- The text that bytes denote, if none of them is malformed. -/
def utf8? (bytes : List UInt8) : Option (List Char) :=
  (decodeFrom .none bytes).mapM id

/-- The text that bytes denote, with U+FFFD for every malformed part. -/
def utf8Lossy (bytes : List UInt8) : List Char :=
  (decodeFrom .none bytes).map fun c => c.getD (Char.ofNat 0xFFFD)

end Text

end ApiNotes

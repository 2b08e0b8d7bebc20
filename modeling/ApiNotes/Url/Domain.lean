import ApiNotes.Url.Direction
import ApiNotes.Url.Fold
import ApiNotes.Url.Joiner
import ApiNotes.Url.Punycode

/-!
# Domain names

A domain name is folded and then brought to its ASCII form label by label. A label that is
given in its ASCII form must be the form of a folded label. A label must not begin with a
mark, its joiners must fit, and the directions of all labels must go together.
-/

namespace ApiNotes

namespace Url

/-- The ASCII characters that no domain name has. -/
def isDenied (c : Char) : Bool :=
  c.toNat ≤ 0x20 || c.toNat == 0x7F || "%#/:<>?@[\\]^|".toList.contains c

/-- What begins the ASCII form of a label. -/
def labelMark : List Char :=
  ['x', 'n', '-', '-']

/-- The length of the longest ASCII form that is read, without its mark. -/
def longestCode : Nat :=
  2000

/-- The length of the longest label that is brought to its ASCII form. -/
def longestLabel : Nat :=
  1000

/-- Whether all characters of a text are ASCII. -/
def isAscii (text : List Char) : Bool :=
  text.all (·.toNat < 128)

/-- The folded label that an ASCII form without its mark denotes. -/
def decodeLabel? (code : List Char) : Option (List Char) := do
  if !isAscii code ∨ code.getLast?.all (· == '-') ∨ longestCode < code.length then none
  else
    let label ← Punycode.decode? code
    if fold? label = some label then some label else none

/-- A label in its own characters. -/
def openLabel? (label : List Char) : Option (List Char) :=
  if labelMark.isPrefixOf label then decodeLabel? (label.drop labelMark.length)
  else some label

/-- Whether a label in its own characters may stand in a domain name. -/
def isLabel (label : List Char) : Bool :=
  !label.head?.any Text.isMark && joinersFit [] label &&
    (isAscii label || label.length ≤ longestLabel)

/-- The ASCII form of a label in its own characters. -/
def asciiLabel (label : List Char) : List Char :=
  if isAscii label then label else labelMark ++ Punycode.encode label

/-- The ASCII form of a domain name. -/
def asciiDomain? (name : List Char) : Option (List Char) := do
  let folded ← fold? name
  if folded.any isDenied then none
  else
    let labels ← (folded.splitOn '.').mapM openLabel?
    if labels.all isLabel ∧ directionsAgree labels then
      return ['.'].intercalate (labels.map asciiLabel)
    else none

end Url

end ApiNotes

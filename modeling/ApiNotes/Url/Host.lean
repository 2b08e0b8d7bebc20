import ApiNotes.Text.Percent
import ApiNotes.Text.Utf8
import ApiNotes.Url.Domain
import ApiNotes.Url.Fault

/-!
# Hosts

A host is an address in brackets, an address of four numbers, or a name. The host of a
scheme that is not special is taken as it is. Addresses are written in one way: numbers in
base ten without leading zeros, groups in base sixteen with the longest run of zeros left
out.
-/

namespace ApiNotes

namespace Url

/-- The number that digits below `base` denote. -/
def numberIn? (base : Nat) (cs : List Char) : Option Nat :=
  cs.foldlM (fun n c => do
    let d ← Text.hexValue? c
    if d < base then some (base * n + d) else none) 0

/-- A number of an address, in base ten, eight or sixteen. -/
def ipv4Number? : List Char → Option Nat
  | [] => none
  | '0' :: 'x' :: cs => numberIn? 16 cs
  | '0' :: 'X' :: cs => numberIn? 16 cs
  | '0' :: c :: cs => numberIn? 8 (c :: cs)
  | cs => numberIn? 10 cs

/-- The parts of a name; an empty part at the end is left out. -/
def dottedParts (name : List Char) : List (List Char) :=
  let parts := name.splitOn '.'
  if parts.getLast? = some [] then parts.dropLast else parts

/-- Whether the last part of a name is a number, so that the name has to be an address. -/
def endsInNumber (name : List Char) : Bool :=
  match (dottedParts name).getLast? with
  | none => false
  | some part => (part != [] && part.all Char.isDigit) || (ipv4Number? part).isSome

/-- The address that parts denote: the last number fills the bytes that the others leave. -/
def ipv4Value? (parts : List (List Char)) : Option Nat := do
  let numbers ← parts.mapM ipv4Number?
  let last ← numbers.getLast?
  let first := numbers.dropLast
  if 3 < first.length ∨ first.any (255 < ·) ∨ Nat.pow 256 (4 - first.length) ≤ last then none
  else return first.foldr (fun n rest => n * Nat.pow 256 3 + rest / 256) 0 + last

/-- An address as four numbers. -/
def ipv4Text (n : Nat) : List Char :=
  ['.'].intercalate
    ([n / Nat.pow 256 3, n / Nat.pow 256 2 % 256, n / 256 % 256, n % 256].map Text.digits)

/-- A number of at most three digits, up to 255 and without leading zeros. -/
def byte? (cs : List Char) : Option Nat := do
  let n ← Text.decimal? cs
  if n ≤ 255 ∧ Text.digits n = cs then some n else none

/-- The two groups that four numbers stand for. -/
def embedded? (cs : List Char) : Option (List Nat) := do
  match ← (cs.splitOn '.').mapM byte? with
  | [a, b, c, d] => some [256 * a + b, 256 * c + d]
  | _ => none

/-- A group of at most four digits. -/
def group? (cs : List Char) : Option Nat :=
  if cs = [] ∨ 4 < cs.length then none else numberIn? 16 cs

/-- The groups of a part of an address; the last one may be four numbers if the part ends
the address. -/
def groups? (final : Bool) : List (List Char) → Option (List Nat)
  | [] => some []
  | [cs] => if final ∧ cs.contains '.' then embedded? cs else (group? cs).map ([·])
  | cs :: rest => do return (← group? cs) :: (← groups? final rest)

/-- The groups of a part of an address between colons; no text has no groups. -/
def part? (final : Bool) (text : List Char) : Option (List Nat) :=
  if text = [] then some [] else groups? final (text.splitOn ':')

/-- A text up to the first double colon, and the text behind it. -/
def splitGap : List Char → List Char × Option (List Char)
  | [] => ([], none)
  | ':' :: ':' :: cs => ([], some cs)
  | c :: cs =>
    let (before, rest) := splitGap cs
    (c :: before, rest)

/-- The eight groups of an address in brackets. -/
def ipv6? (text : List Char) : Option (List Nat) :=
  match splitGap text with
  | (text, none) => do
    let groups ← groups? true (text.splitOn ':')
    if groups.length = 8 then some groups else none
  | (before, some rest) => do
    let before ← part? false before
    let rest ← part? true rest
    if 8 ≤ before.length + rest.length then none
    else return before ++ List.replicate (8 - before.length - rest.length) 0 ++ rest

/-- The length of the run of zeros that begins a list. -/
def zeros (groups : List Nat) : Nat :=
  (groups.takeWhile (· == 0)).length

/-- The place and the length of the first of the longest runs of zeros. -/
def longestZeros (place : Nat) : List Nat → Nat × Nat
  | [] => (place, 0)
  | n :: groups =>
    let here := zeros (n :: groups)
    let later := longestZeros (place + 1) groups
    if later.2 ≤ here then (place, here) else later

/-- Groups between colons. -/
def groupsText (groups : List Nat) : List Char :=
  [':'].intercalate (groups.map (Nat.toDigits 16))

/-- An address in brackets. -/
def ipv6Text (groups : List Nat) : List Char :=
  let (place, length) := longestZeros 0 groups
  if length ≤ 1 then groupsText groups
  else groupsText (groups.take place) ++ [':', ':'] ++ groupsText (groups.drop (place + length))

/-- The text of a host in brackets. -/
def bracketed (text : List Char) : Except Fault (List Char) :=
  match text.getLast?, ipv6? text.dropLast with
  | some ']', some groups => .ok ('[' :: ipv6Text groups ++ [']'])
  | _, _ => .error .ipv6

/-- The text of a host of a special scheme. -/
def specialHost : List Char → Except Fault (List Char)
  | '[' :: text => bracketed text
  | text =>
    match (Text.utf8? (Text.percentBytes text)).bind asciiDomain? with
    | none => .error .domain
    | some [] => .error .emptyHost
    | some name =>
      if endsInNumber name then
        match ipv4Value? (dottedParts name) with
        | none => .error .ipv4
        | some n => .ok (ipv4Text n)
      else .ok name

/-- The characters that no host has. -/
def isNoHostChar (c : Char) : Bool :=
  c.toNat == 0 || " #/:<>?@[\\]^|".toList.contains c

/-- Controls, which are written with percent signs everywhere. -/
def isControl (c : Char) : Bool :=
  c.toNat < 0x20 || c.toNat == 0x7F

/-- The text of a host of another scheme. -/
def opaqueHost : List Char → Except Fault (List Char)
  | '[' :: text => bracketed text
  | text =>
    if text.any isNoHostChar then .error .hostCharacter
    else .ok (Text.percentEncode isControl text)

end Url

end ApiNotes

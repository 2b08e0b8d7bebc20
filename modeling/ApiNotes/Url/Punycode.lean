/-!
# Punycode

The ASCII form of a label of a domain name. The ASCII characters come first; the others
follow in the order of their code points, each as the number of steps from the last one, in
digits of base 36 whose weights adapt to the numbers written before. Reading keeps the state
of the number that is being read, so it is one fold over the characters.
-/

namespace ApiNotes

namespace Url

namespace Punycode

/-- The digit with the given value. -/
def digit (n : Nat) : Char :=
  if n < 26 then Char.ofNat (97 + n) else Char.ofNat (22 + n)

/-- The value of a digit. -/
def digitValue? (c : Char) : Option Nat :=
  if 'a' ≤ c ∧ c ≤ 'z' then some (c.toNat - 97)
  else if 'A' ≤ c ∧ c ≤ 'Z' then some (c.toNat - 65)
  else if '0' ≤ c ∧ c ≤ '9' then some (c.toNat - 22)
  else none

/-- The digits below this one end a number. -/
def threshold (k bias : Nat) : Nat :=
  if k ≤ bias then 1 else if bias + 26 ≤ k then 26 else k - bias

theorem threshold_pos (k bias : Nat) : 0 < threshold k bias := by
  unfold threshold
  split
  · omega
  · split <;> omega

/-- The bias that suits numbers around `delta`. -/
def settle (k delta : Nat) : Nat :=
  if 455 < delta then settle (k + 36) (delta / 35) else k + 36 * delta / (delta + 38)
termination_by delta
decreasing_by exact Nat.div_lt_self (by omega) (by omega)

/-- The bias after the number `delta`, as one of `count` characters. -/
def adapt (delta count : Nat) (first : Bool) : Nat :=
  let delta := if first then delta / 700 else delta / 2
  settle 0 (delta + delta / count)

/-- The digits of a number. -/
def writeNumber (bias k q : Nat) : List Char :=
  let t := threshold k bias
  if q < t then [digit q]
  else digit (t + (q - t) % (36 - t)) :: writeNumber bias (k + 36) ((q - t) / (36 - t))
termination_by q
decreasing_by
  have ht := threshold_pos k bias
  have hq := Nat.div_le_self (q - threshold k bias) (36 - threshold k bias)
  omega

/-- The state of the writer. -/
structure Writer where
  out : List Char
  delta : Nat
  bias : Nat
  /-- The number of characters that are written. -/
  count : Nat
deriving Repr

/-- Passes a character of the label while those with code point `point` are written;
`basic` is the number of ASCII characters. -/
def Writer.pass (basic point : Nat) (w : Writer) (c : Char) : Writer :=
  if c.toNat < point then { w with delta := w.delta + 1 }
  else if c.toNat = point then
    ⟨w.out ++ writeNumber w.bias 36 w.delta, 0, adapt w.delta (w.count + 1) (w.count == basic),
      w.count + 1⟩
  else w

/-- Writes the characters of the given code points, in order; those below `next` are
written. -/
def Writer.points (label : List Char) (basic : Nat) (next : Nat) (w : Writer) :
    List Nat → Writer
  | [] => w
  | point :: points =>
    let w := { w with delta := w.delta + (point - next) * (w.count + 1) }
    let w := label.foldl (Writer.pass basic point) w
    Writer.points label basic (point + 1) { w with delta := w.delta + 1 } points

/-- The ASCII form of a label. -/
def encode (label : List Char) : List Char :=
  let basic := label.filter fun c => c.toNat < 128
  let points := (((label.map Char.toNat).filter (128 ≤ ·)).eraseDups).mergeSort
  let start := if basic = [] then [] else basic ++ ['-']
  (Writer.points label basic.length 128 ⟨start, 0, 72, basic.length⟩ points).out

/-- The state of the reader: the characters read so far, the last code point and the place
behind it, and the number that is being read, by its value so far, the weight and the
position of the next digit. -/
structure Reader where
  out : List Char
  point : Nat
  place : Nat
  bias : Nat
  value : Nat
  weight : Nat
  k : Nat
deriving Repr

/-- Numbers and weights stay below this one. -/
def limit : Nat :=
  0x100000000

/-- Reads a digit. -/
def Reader.step? (r : Reader) (c : Char) : Option Reader := do
  let d ← digitValue? c
  let value := r.value + d * r.weight
  let total := r.place + value
  let t := threshold r.k r.bias
  let weight := r.weight * (36 - t)
  if limit ≤ total then none
  else if t ≤ d then
    if limit ≤ weight then none else return { r with value, weight, k := r.k + 36 }
  else
    let count := r.out.length + 1
    let point := r.point + total / count
    let place := total % count
    if 0x10FFFF < point ∨ (0xD800 ≤ point ∧ point < 0xE000) then none
    else
      return ⟨r.out.take place ++ Char.ofNat point :: r.out.drop place, point, place + 1,
        adapt value count (r.place == 0), 0, 1, 36⟩

/-- The label that an ASCII form denotes. The hyphen behind the ASCII characters is missing
if there are none. -/
def decode? (text : List Char) : Option (List Char) := do
  let tail := (text.reverse.takeWhile (· != '-')).reverse
  let basic := text.take (text.length - tail.length - 1)
  if basic = [] ∧ tail.length < text.length then none
  else
    let r ← tail.foldlM Reader.step? ⟨basic, 128, 0, 72, 0, 1, 36⟩
    if r.k = 36 then some r.out else none

end Punycode

end Url

end ApiNotes

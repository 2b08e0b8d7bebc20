import ApiNotes.Tag.Kind

/-!
# Misspelt tags

The distance of two words is the least number of insertions, deletions and replacements
of a character that turn one into the other. It is computed row by row: `row` holds the
distances of what was read of one word to every initial part of the other. A misspelt
name suggests the first of the nearest names, if at most two changes away.
-/

namespace ApiNotes

namespace Editor

/-- The rest of the next row, behind the entry `left`; `diagonal` is the entry above
`left`. -/
def nextEntries (c : Char) (left diagonal : Nat) : List Char → List Nat → List Nat
  | d :: word, up :: row =>
    let entry := min (min (up + 1) (left + 1)) (diagonal + if c = d then 0 else 1)
    entry :: nextEntries c entry up word row
  | _, _ => []

/-- The row for one more character. -/
def nextRow (word : List Char) (row : List Nat) (c : Char) : List Nat :=
  match row with
  | [] => []
  | first :: row => (first + 1) :: nextEntries c (first + 1) first word row

/-- The distance of two words. -/
def distance (s t : List Char) : Nat :=
  ((s.foldl (nextRow t) (List.range (t.length + 1))).getLast?).getD 0

/-- The small form of a character. The capital letters of other scripts stay as they are:
no tag has such letters, so they differ from every letter of a tag in either form. -/
def lowerChar (c : Char) : List Char :=
  if c.toNat = 0x130 then ['i', Char.ofNat 0x307]
  else if c.toNat = 0x212A then ['k']
  else [c.toLower]

/-- The nearest of the kinds, given the nearest one before them. -/
def nearest (word : List Char) (best : Option (Tag.Kind × Nat)) :
    List Tag.Kind → Option (Tag.Kind × Nat)
  | [] => best
  | kind :: kinds =>
    let d := distance word kind.name.toList
    if d ≤ 2 ∧ best.all (fun b => d < b.2) then nearest word (some (kind, d)) kinds
    else nearest word best kinds

/-- The tag that a misspelt name suggests. -/
def suggestion? (name : String) : Option Tag.Kind :=
  (nearest (name.toList.flatMap lowerChar) none Tag.Kind.all).map Prod.fst

end Editor

end ApiNotes

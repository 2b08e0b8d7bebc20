/-!
# Byte offsets

Places in a text are counted in bytes of its UTF-8 form. `byteLength` measures a
text; an offset is on a *boundary* when it is the length of some initial part.
`dropBytes` rounds an offset up to the next boundary, while `takeBytes?` answers
only on a boundary.
-/

namespace ApiNotes

namespace Text

/-- The number of bytes that the UTF-8 form of a text takes. -/
def byteLength : List Char → Nat
  | [] => 0
  | c :: cs => c.utf8Size + byteLength cs

@[simp] theorem byteLength_nil : byteLength [] = 0 := rfl

@[simp] theorem byteLength_cons (c : Char) (cs : List Char) :
    byteLength (c :: cs) = c.utf8Size + byteLength cs := rfl

@[simp] theorem byteLength_append (xs ys : List Char) :
    byteLength (xs ++ ys) = byteLength xs + byteLength ys := by
  induction xs with
  | nil => simp
  | cons c cs ih => simp [ih, Nat.add_assoc]

/-- The characters that start at byte `n` or later. -/
def dropBytes (n : Nat) : List Char → List Char
  | [] => []
  | c :: cs => if n = 0 then c :: cs else dropBytes (n - c.utf8Size) cs

/-- The first `n` bytes; all of the text when it is shorter, and `none` when `n`
falls inside a character. -/
def takeBytes? (n : Nat) : List Char → Option (List Char)
  | [] => some []
  | c :: cs =>
    if n = 0 then some []
    else if n < c.utf8Size then none
    else (takeBytes? (n - c.utf8Size) cs).map (c :: ·)

@[simp] theorem dropBytes_zero (cs : List Char) : dropBytes 0 cs = cs := by
  cases cs <;> simp [dropBytes]

@[simp] theorem takeBytes?_zero (cs : List Char) : takeBytes? 0 cs = some [] := by
  cases cs <;> simp [takeBytes?]

theorem dropBytes_byteLength_append (xs ys : List Char) :
    dropBytes (byteLength xs) (xs ++ ys) = ys := by
  induction xs with
  | nil => simp
  | cons c cs ih =>
    have := c.utf8Size_pos
    simp only [List.cons_append, byteLength_cons, dropBytes]
    rw [if_neg (by omega), Nat.add_sub_cancel_left, ih]

theorem takeBytes?_byteLength_append (xs ys : List Char) :
    takeBytes? (byteLength xs) (xs ++ ys) = some xs := by
  induction xs with
  | nil => simp
  | cons c cs ih =>
    have := c.utf8Size_pos
    simp only [List.cons_append, byteLength_cons, takeBytes?]
    rw [if_neg (by omega), if_neg (by omega), Nat.add_sub_cancel_left, ih]
    rfl

end Text

end ApiNotes

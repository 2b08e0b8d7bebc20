/-!
# Blanks and trimming

Texts are lists of characters. A *blank* is a character with the `White_Space`
property; a *gap* is one of the two blanks that separate words within a line of
source, the space and the tab. Trimming removes blanks at the ends of a text. The
end of a text is trimmed by one recursion over the characters, so no reversal and
no index arithmetic is needed.
-/

namespace ApiNotes

namespace Text

/-- The characters with the `White_Space` property. -/
def isBlank (c : Char) : Bool :=
  let n := c.toNat
  (0x09 ≤ n && n ≤ 0x0D) || n == 0x20 || n == 0x85 || n == 0xA0 || n == 0x1680 ||
    (0x2000 ≤ n && n ≤ 0x200A) || n == 0x2028 || n == 0x2029 || n == 0x202F ||
    n == 0x205F || n == 0x3000

/-- The blanks that separate words within a line: the space and the tab. -/
def isGap (c : Char) : Bool :=
  c == ' ' || c == '\t'

/-- Removes the longest run of characters satisfying `p` at the end. -/
def dropEndWhile (p : Char → Bool) : List Char → List Char
  | [] => []
  | c :: cs =>
    match dropEndWhile p cs with
    | [] => if p c then [] else [c]
    | d :: ds => c :: d :: ds

@[simp] theorem dropEndWhile_nil (p : Char → Bool) : dropEndWhile p [] = [] := rfl

/-- Removes the blanks at the start. -/
def trimStart (cs : List Char) : List Char :=
  cs.dropWhile isBlank

/-- Removes the blanks at the end. -/
def trimEnd (cs : List Char) : List Char :=
  dropEndWhile isBlank cs

/-- Removes the blanks at both ends. -/
def trim (cs : List Char) : List Char :=
  trimEnd (trimStart cs)

/-- `trim` on strings. -/
def trimmed (s : String) : String :=
  String.ofList (trim s.toList)

/-- Letters, digits and the underscore, all of them ASCII. -/
def isWordChar (c : Char) : Bool :=
  c.isAlphanum || c == '_'

/-- What follows `pre` in a text that begins with it. -/
def dropStart? : List Char → List Char → Option (List Char)
  | [], cs => some cs
  | _ :: _, [] => none
  | p :: pre, c :: cs => if p = c then dropStart? pre cs else none

@[simp] theorem dropStart?_nil (cs : List Char) : dropStart? [] cs = some cs := rfl

/-- A text begins with `pre` exactly when it is `pre` followed by what remains. -/
theorem dropStart?_eq_some_iff {pre cs rest : List Char} :
    dropStart? pre cs = some rest ↔ cs = pre ++ rest := by
  induction pre generalizing cs with
  | nil => simp [eq_comm]
  | cons p pre ih =>
    cases cs with
    | nil => simp [dropStart?]
    | cons c cs =>
      by_cases h : p = c
      · simp [dropStart?, h, ih]
      · simp [dropStart?, h, Ne.symm h]

end Text

end ApiNotes

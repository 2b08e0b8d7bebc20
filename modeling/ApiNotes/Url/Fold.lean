import ApiNotes.Text.Compose
import ApiNotes.Text.Hidden
import ApiNotes.Url.Fold.Letters
import ApiNotes.Url.Fold.Words

/-!
# Folding domain names

The characters of a domain name are folded, so that names which look the same are the same:
a character becomes a letter, a text or nothing, or it stays. Characters that do not show
are refused; marks show on the character before them, and the two joiners decide how their
neighbours are joined. At the end letters are joined with their marks.
-/

namespace ApiNotes

namespace Url

/-- Runs of characters that are left out. -/
def ignoredRuns : List (Nat × Nat) :=
  [(0xAD, 0xAD), (0x34F, 0x34F), (0x115F, 0x1160), (0x17B4, 0x17B5), (0x180B, 0x180F),
   (0x200B, 0x200B), (0x2060, 0x2064), (0x206A, 0x206F), (0x3164, 0x3164), (0xFE00, 0xFE0F),
   (0xFEFF, 0xFEFF), (0xFFA0, 0xFFA0), (0x1BCA0, 0x1BCA3), (0x1D173, 0x1D17A), (0xE0100, 0xE01EF)]

/-- Runs of characters that show and are refused all the same: those that hold a full stop,
the signs that describe other characters, and the two that stand in for others. -/
def refusedRuns : List (Nat × Nat) :=
  [(0x2024, 0x2026), (0x2488, 0x249B), (0x2FF0, 0x2FFF), (0x31EF, 0x31EF), (0x33C2, 0x33C2),
   (0x33C7, 0x33C7), (0x33D8, 0x33D8), (0xFE12, 0xFE12), (0xFE19, 0xFE19), (0xFE30, 0xFE30),
   (0xFE52, 0xFE52), (0xFFFC, 0xFFFD), (0x1F100, 0x1F100)]

/-- The character that keeps its neighbours from being joined. -/
def nonJoiner : Char :=
  '\u200c'

/-- The character that lets its neighbours be joined. -/
def joiner : Char :=
  '\u200d'

/-- Whether a character decides how its neighbours are joined. -/
def isJoiner (c : Char) : Bool :=
  c == nonJoiner || c == joiner

/-- Whether no domain name has a character, given that it is not folded. -/
def isRefused (c : Char) : Bool :=
  (Text.isHidden c && !Text.isMark c && !isJoiner c) || Text.inRuns refusedRuns c.toNat

/-- What a character becomes in a domain name; `none` if it is refused. -/
def foldChar? (c : Char) : Option (List Char) :=
  let n := c.toNat
  if n < 128 then some [c.toLower]
  else if Text.inRuns ignoredRuns n then some []
  else
    match letterImage? n, wordImage? n with
    | some image, _ => some [Char.ofNat image]
    | none, some images => some images
    | none, none => if isRefused c then none else some [c]

/-- A folded text. -/
def fold? (text : List Char) : Option (List Char) := do
  let images ← text.mapM foldChar?
  return Text.compose images.flatten

end Url

end ApiNotes

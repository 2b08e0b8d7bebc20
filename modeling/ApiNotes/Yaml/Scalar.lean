import ApiNotes.Decimal.Layout
import ApiNotes.Json.Writer
import ApiNotes.Text.Offset

/-!
# YAML scalars

How a string is written in YAML. A string that would be taken for another kind of value,
or that has a character with a meaning in YAML, is quoted; one with line feeds is written
as a block where that is possible; what neither shows as it is goes between double quotes
with escapes.
-/

namespace ApiNotes

namespace Yaml

/-- The characters that end a line in YAML. -/
def isBreak (c : Char) : Bool :=
  c == '\n' || c == '\r' || c.toNat == 0x85 || c.toNat == 0x2028 || c.toNat == 0x2029

/-- The characters that separate words in YAML. -/
def isBlank (c : Char) : Bool :=
  c == ' ' || c == '\t' || isBreak c

/-- The characters that show as they are. -/
def isPrintable (c : Char) : Bool :=
  let n := c.toNat
  n == 0x0A || (0x20 ≤ n && n ≤ 0x7E) ||
    (0xA0 ≤ n && n != 0xFEFF && n != 0xFFFE && n != 0xFFFF)

/-- A text without a sign. -/
def unsigned (cs : List Char) : List Char :=
  match cs with
  | '+' :: rest => rest
  | '-' :: rest => rest
  | _ => cs

/-- Whether a text begins with a sign. -/
def hasSign (cs : List Char) : Bool :=
  cs.head? == some '+' || cs.head? == some '-'

/-- Digits with needless zeros before them. -/
def hasLeadingZero (cs : List Char) : Bool :=
  match unsigned cs with
  | '0' :: d :: rest => (d :: rest).all Char.isDigit
  | _ => false

/-- The number that a text denotes in the given base. -/
def inBase? (base : Nat) (cs : List Char) : Option Nat :=
  if cs = [] then none
  else cs.foldl (fun acc c => do
    let n ← acc
    let d ← Text.hexValue? c
    if d < base then some (base * n + d) else none) (some 0)

/-- The magnitude of an integer with a base mark, or of a decimal one. -/
def magnitude? (cs : List Char) : Option Nat :=
  match cs with
  | '0' :: 'x' :: rest => inBase? 16 rest
  | '0' :: 'o' :: rest => inBase? 8 rest
  | '0' :: 'b' :: rest => inBase? 2 rest
  | _ => inBase? 10 cs

/-- Whether a text denotes an integer of at most 128 bits. -/
def isInteger (cs : List Char) : Bool :=
  match cs with
  | '-' :: rest => (magnitude? rest).any (· ≤ Nat.pow 2 127)
  | '+' :: rest => (magnitude? rest).any (· < Nat.pow 2 128)
  | _ => (magnitude? cs).any (· < Nat.pow 2 128)

/-- The exponent of a number, behind its mark. -/
def exponent? (cs : List Char) : Option Int :=
  match cs with
  | '-' :: rest => (Text.decimal? rest).map fun n => -(n : Int)
  | '+' :: rest => (Text.decimal? rest).map fun n => (n : Int)
  | _ => (Text.decimal? cs).map fun n => (n : Int)

/-- The decimal that an unsigned text denotes: digits, a point among them or not, and an
exponent or none. -/
def decimal? (cs : List Char) : Option Decimal :=
  let whole := cs.takeWhile Char.isDigit
  let rest := cs.dropWhile Char.isDigit
  let fraction := match rest with
    | '.' :: rest => rest.takeWhile Char.isDigit
    | _ => []
  let rest := match rest with
    | '.' :: rest => rest.dropWhile Char.isDigit
    | _ => rest
  let exponent := match rest with
    | [] => some 0
    | c :: rest => if c = 'e' ∨ c = 'E' then exponent? rest else none
  if whole ++ fraction = [] then none
  else exponent.map fun e => ⟨Text.decimalValue (whole ++ fraction), e - fraction.length⟩

/-- Whether a decimal is in the range of doubles: it rounds to infinity from
`2 ^ 1024 - 2 ^ 970` on. -/
def isFinite (d : Decimal) : Bool :=
  let order := (Text.digits d.significand).length + d.exponent
  if d.significand = 0 then true
  else if order < 309 then true
  else if 309 < order then false
  else
    d.significand * Nat.pow 10 d.exponent.toNat <
      (Nat.pow 2 1024 - Nat.pow 2 970) * Nat.pow 10 (-d.exponent).toNat

/-- Whether a text denotes a number with a fraction, infinities and the like included. -/
def isReal (cs : List Char) : Bool :=
  let text := String.ofList cs
  let unpositive := match cs with
    | '+' :: rest => rest
    | _ => cs
  if cs.head? == some '+' && hasSign unpositive then false
  else
    [".inf", ".Inf", ".INF", "-.inf", "-.Inf", "-.INF"].contains (String.ofList unpositive) ||
      [".nan", ".NaN", ".NAN"].contains text ||
      (decimal? (unsigned unpositive)).any isFinite

/-- Whether a string, written as it is, would be taken for another kind of value. -/
def isAmbiguous (cs : List Char) : Bool :=
  cs.isEmpty ||
    ["null", "Null", "NULL", "~", "true", "True", "TRUE", "false", "False", "FALSE"].contains
      (String.ofList cs) ||
    isInteger cs || hasLeadingZero cs || isReal cs

/-- Whether two neighbouring characters satisfy `p` and `q`. -/
def hasPair (p q : Char → Bool) : List Char → Bool
  | c :: d :: cs => (p c && q d) || hasPair p q (d :: cs)
  | _ => false

/-- Whether a text begins with a blank, or is empty. -/
def blankFollows (cs : List Char) : Bool :=
  match cs with
  | [] => true
  | c :: _ => isBlank c

/-- The characters that mean something at the start of a scalar. -/
def indicators : List Char :=
  ['#', ',', '[', ']', '{', '}', '&', '*', '!', '|', '>', '\'', '"', '%', '@', '\x60']

/-- Whether a character behind the first one means something: a colon with a blank
behind it, or a hash with a blank before it. -/
def hasLaterIndicator (previous : Char) : List Char → Bool
  | [] => false
  | c :: cs =>
    (c == ':' && blankFollows cs) || (c == '#' && isBlank previous) || hasLaterIndicator c cs

/-- Whether a string has a character with a meaning in YAML. -/
def hasIndicator (cs : List Char) : Bool :=
  ['-', '-', '-'].isPrefixOf cs || ['.', '.', '.'].isPrefixOf cs ||
    match cs with
    | [] => false
    | c :: rest =>
      indicators.contains c ||
        ((c == '-' || c == '?' || c == ':') && blankFollows rest) ||
        hasLaterIndicator c rest

/-- The ways to write a string. -/
inductive Style where
  | plain
  | single
  | double
  | literal
deriving Repr, DecidableEq

/-- Whether a character is the space. -/
def isSpace (c : Char) : Bool :=
  c == ' '

/-- Whether only double quotes can show a string: it has a character that does not show,
or a space before a line break. -/
def needsEscapes (cs : List Char) : Bool :=
  cs.any (fun c => !isPrintable c) || hasPair isSpace isBreak cs

/-- Whether a string may stand without quotes, if it is not ambiguous. -/
def allowsPlain (cs : List Char) : Bool :=
  !needsEscapes cs && !cs.any isBreak && !hasIndicator cs &&
    cs.head? != some ' ' && cs.getLast? != some ' '

/-- Whether a string may stand between single quotes. -/
def allowsSingle (cs : List Char) : Bool :=
  !needsEscapes cs && !hasPair isBreak isSpace cs

/-- Whether a string may stand as a block of lines. -/
def allowsLiteral (cs : List Char) : Bool :=
  !needsEscapes cs && cs.getLast? != some ' '

/-- The way in which a string is written. -/
def style (cs : List Char) : Style :=
  if cs.contains '\n' then if allowsLiteral cs then .literal else .double
  else if !isAmbiguous cs && allowsPlain cs then .plain
  else if allowsSingle cs then .single
  else .double

/-- An indentation. -/
def pad (n : Nat) : List Char :=
  List.replicate n ' '

/-- Text over several lines: what follows a line break is indented. -/
def writeRows (indent : Nat) (write : Char → List Char) (fresh : Bool) : List Char → List Char
  | [] => []
  | c :: cs =>
    if isBreak c then c :: writeRows indent write true cs
    else (if fresh then pad indent else []) ++ write c ++ writeRows indent write false cs

/-- A string between single quotes. -/
def writeSingle (indent : Nat) (cs : List Char) : List Char :=
  '\'' :: writeRows indent (fun c => if c = '\'' then ['\'', '\''] else [c]) false cs ++
    (if cs.getLast?.any isBreak then pad indent else []) ++ ['\'']

/-- A number in base sixteen with capital letters and at least the given width. -/
def hex (width n : Nat) : List Char :=
  ((Nat.toDigits 16 n).map Char.toUpper).leftpad width '0'

/-- The character that stands for another one behind a backslash. -/
def escapeLetter? (c : Char) : Option Char :=
  match c.toNat with
  | 0x00 => some '0'
  | 0x07 => some 'a'
  | 0x08 => some 'b'
  | 0x09 => some 't'
  | 0x0A => some 'n'
  | 0x0B => some 'v'
  | 0x0C => some 'f'
  | 0x0D => some 'r'
  | 0x1B => some 'e'
  | 0x22 => some '"'
  | 0x5C => some '\\'
  | 0x85 => some 'N'
  | 0xA0 => some '_'
  | 0x2028 => some 'L'
  | 0x2029 => some 'P'
  | _ => none

/-- A character between double quotes. -/
def escapeChar (c : Char) : List Char :=
  if isPrintable c && !isBreak c && c != '"' && c != '\\' then [c]
  else
    match escapeLetter? c with
    | some letter => ['\\', letter]
    | none =>
      if c.toNat ≤ 0xFF then '\\' :: 'x' :: hex 2 c.toNat
      else if c.toNat ≤ 0xFFFF then '\\' :: 'u' :: hex 4 c.toNat
      else '\\' :: 'U' :: hex 8 c.toNat

/-- A string between double quotes. -/
def writeDouble (cs : List Char) : List Char :=
  '"' :: cs.flatMap escapeChar ++ ['"']

/-- What the header of a block says about its end: whether the string ends in no line
break, in one, or in more. -/
def chomping (cs : List Char) : List Char :=
  match cs.reverse with
  | [] => ['-']
  | [c] => if isBreak c then ['+'] else ['-']
  | c :: d :: _ => if !isBreak c then ['-'] else if isBreak d then ['+'] else []

/-- A string as a block of lines. The indentation is given where the first line would not
show it. -/
def writeLiteral (indent : Nat) (cs : List Char) : List Char :=
  '|' :: (if cs.head?.any (fun c => c == ' ' || isBreak c) then ['2'] else []) ++ chomping cs ++
    '\n' :: writeRows indent (fun c => [c]) true cs

/-- A string, with further lines of it indented as given. -/
def writeString (indent : Nat) (s : String) : List Char :=
  let cs := s.toList
  match style cs with
  | .plain => cs
  | .single => writeSingle indent cs
  | .double => writeDouble cs
  | .literal => writeLiteral indent cs

/-- How numbers with a fraction are spelled: as in JSON, but an exponent that is not
negative has no sign. -/
def layout : Decimal.Layout where
  positional := Decimal.Layout.sixteenDigits
  rising := ['e']

/-- A value that is no container, or an empty one. -/
def writeScalar (indent : Nat) : Json → List Char
  | .str s => writeString indent s
  | .real x => layout.writeFloat x
  | v => Json.writeScalar v

/-- Whether a key stands before its value on one line: it has no line break and at most
128 bytes. -/
def isSimpleKey (key : String) : Bool :=
  !key.toList.any isBreak && Text.byteLength key.toList ≤ 128

end Yaml

end ApiNotes

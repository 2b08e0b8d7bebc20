import ApiNotes.Decimal.Approximate
import ApiNotes.Json.Basic
import ApiNotes.Json.Fault
import ApiNotes.Text.Digit

/-!
# Reading JSON

The reader consumes a text one character at a time. Its state is a mode, which says
what may come next, and a stack of the containers that wait for the value being read.
`State.step` is the whole of it: the next state, or a fault at this character.
`State.finish` says what the end of the text means. Reading a text is running the steps
over it, so every fact about reading is a fact about one step.

A container that is between two of its entries is part of the mode; it goes onto the
stack when the value of its next entry begins. The length of the stack is therefore the
number of containers around a value, which is bounded.

Numbers keep a significand of 64 bits. Digits before the point that do not fit are
counted instead, digits after the point that do not fit are passed over.
-/

namespace ApiNotes

namespace Json

/-- How far the reader is within a number, after its sign. The significand is
`s`, and `e` is the power of ten that the digits read so far call for. -/
inductive NumberPart where
  | sign
  | zero
  | whole (s : Nat)
  | wholeDropped (s : Nat) (e : Int)
  | point (s : Nat) (e : Int)
  | fraction (s : Nat) (e : Int)
  | fractionDropped (s : Nat) (e : Int)
  | mark (s : Nat) (e : Int)
  | markSign (s : Nat) (e : Int) (falling : Bool)
  | power (s : Nat) (e : Int) (falling : Bool) (p : Nat)
  | vanished
deriving Repr, DecidableEq

/-- How far the reader is within an escape of a string. A `lead` is the first half of
a surrogate pair. -/
inductive Escape where
  | none
  | backslash
  | hex (lead : Option Nat) (count value : Nat)
  | wrongHex (bytes : Nat)
  | pairBackslash (lead : Nat)
  | pairLetter (lead : Nat)
deriving Repr, DecidableEq

/-- What a string is read for: the key of the next member, or a value. -/
inductive Role where
  | key (members : Table Json)
  | value
deriving Repr

/-- What the reader expects next. Items and characters are held last first. -/
inductive Mode where
  | value
  | firstItem
  | nextItem (items : List Json)
  | afterItem (items : List Json)
  | firstKey
  | nextKey (members : Table Json)
  | afterKey (members : Table Json) (key : String)
  | afterMember (members : Table Json)
  | word (next : Char) (left : List Char) (value : Json)
  | text (role : Role) (chars : List Char) (escape : Escape)
  | number (negative : Bool) (part : NumberPart)
  | finished (value : Json)
deriving Repr

/-- A container that waits for a value. -/
inductive Frame where
  | item (items : List Json)
  | member (members : Table Json) (key : String)
deriving Repr

/-- The state of the reader. -/
structure State where
  mode : Mode
  stack : List Frame
deriving Repr

/-- At most this many containers are nested. -/
def depthLimit : Nat := 127

/-- The largest significand. -/
def significandLimit : Nat := 0xFFFFFFFFFFFFFFFF

/-- The largest exponent that is read as a number. -/
def powerLimit : Nat := 0x7FFFFFFF

/-- The characters that may stand between the parts of a JSON text. -/
def isSpace (c : Char) : Bool :=
  c == ' ' || c == '\n' || c == '\t' || c == '\r'

/-- A fault at the current character, which counts as read. -/
def refuse {α : Type} (cause : Cause) : Except Fault α :=
  .error ⟨cause, 1⟩

/-- What a finished value leads to: the container that waited for it goes on. -/
def complete (v : Json) : List Frame → State
  | [] => ⟨.finished v, []⟩
  | .item items :: stack => ⟨.afterItem (v :: items), stack⟩
  | .member members key :: stack => ⟨.afterMember (Table.insert key v members), stack⟩

/-- The first character of a value, `stack` being the containers around it. -/
def beginValue (stack : List Frame) (c : Char) : Except Fault State :=
  match c with
  | 'n' => .ok ⟨.word 'u' ['l', 'l'] .null, stack⟩
  | 't' => .ok ⟨.word 'r' ['u', 'e'] (.bool true), stack⟩
  | 'f' => .ok ⟨.word 'a' ['l', 's', 'e'] (.bool false), stack⟩
  | '"' => .ok ⟨.text .value [] .none, stack⟩
  | '[' => if stack.length < depthLimit then .ok ⟨.firstItem, stack⟩ else refuse .tooDeep
  | '{' => if stack.length < depthLimit then .ok ⟨.firstKey, stack⟩ else refuse .tooDeep
  | '-' => .ok ⟨.number true .sign, stack⟩
  | '0' => .ok ⟨.number false .zero, stack⟩
  | c =>
    if c.isDigit then .ok ⟨.number false (.whole (Text.digitValue c)), stack⟩
    else refuse .noValue

/-- Whether a digit can be appended to a significand. -/
def fits (s : Nat) (c : Char) : Bool :=
  10 * s + Text.digitValue c ≤ significandLimit

/-- What a character that may continue a number makes of it: the number goes on, the
number is over and the character belongs to what follows (`none`), or there is a
fault. -/
def NumberPart.step (part : NumberPart) (c : Char) : Except Fault (Option NumberPart) :=
  let d := Text.digitValue c
  let fractionDigit (s : Nat) (e : Int) : NumberPart :=
    if fits s c then .fraction (10 * s + d) (e - 1) else .fractionDropped s e
  let isMark := c == 'e' || c == 'E'
  match part with
  | .sign =>
    if c == '0' then .ok (some .zero)
    else if c.isDigit then .ok (some (.whole d))
    else refuse .wrongNumber
  | .zero =>
    if c.isDigit then refuse .wrongNumber
    else if c == '.' then .ok (some (.point 0 0))
    else if isMark then .ok (some (.mark 0 0))
    else .ok none
  | .whole s =>
    if c.isDigit then .ok (some (if fits s c then .whole (10 * s + d) else .wholeDropped s 1))
    else if c == '.' then .ok (some (.point s 0))
    else if isMark then .ok (some (.mark s 0))
    else .ok none
  | .wholeDropped s e =>
    if c.isDigit then .ok (some (.wholeDropped s (e + 1)))
    else if c == '.' then .ok (some (.point s e))
    else if isMark then .ok (some (.mark s e))
    else .ok none
  | .point s e =>
    if c.isDigit then .ok (some (fractionDigit s e)) else refuse .wrongNumber
  | .fraction s e =>
    if c.isDigit then .ok (some (fractionDigit s e))
    else if isMark then .ok (some (.mark s e))
    else .ok none
  | .fractionDropped s e =>
    if c.isDigit then .ok (some (.fractionDropped s e))
    else if isMark then .ok (some (.mark s e))
    else .ok none
  | .mark s e =>
    if c.isDigit then .ok (some (.power s e false d))
    else if c == '+' then .ok (some (.markSign s e false))
    else if c == '-' then .ok (some (.markSign s e true))
    else refuse .wrongNumber
  | .markSign s e falling =>
    if c.isDigit then .ok (some (.power s e falling d)) else refuse .wrongNumber
  | .power s e falling p =>
    if !c.isDigit then .ok none
    else if 10 * p + d ≤ powerLimit then .ok (some (.power s e falling (10 * p + d)))
    else if s = 0 || falling then .ok (some .vanished)
    else refuse .numberOutOfRange
  | .vanished => if c.isDigit then .ok (some .vanished) else .ok none

/-- A double with the sign of the number. -/
def signed (negative : Bool) (x : Float) : Json :=
  .real (if negative then -x else x)

/-- The value of a number that ends here. -/
def NumberPart.value (negative : Bool) : NumberPart → Except Cause Json
  | .sign | .point _ _ | .mark _ _ | .markSign _ _ _ => .error .endInValue
  | .zero => .ok (if negative then .real (-0.0) else .int 0)
  | .whole s =>
    if !negative then .ok (.int s)
    else if s ≤ 0x8000000000000000 then .ok (.int (-s))
    else .ok (signed true (UInt64.ofNat s).toFloat)
  | .wholeDropped s e | .fraction s e | .fractionDropped s e => scaled s e
  | .power s e falling p => scaled s (if falling then e - p else e + p)
  | .vanished => .ok (signed negative 0.0)
where
  scaled (s : Nat) (e : Int) : Except Cause Json :=
    match Decimal.approximate? s e with
    | some x => .ok (signed negative x)
    | none => .error .numberOutOfRange

/-- The character after a value: the container goes on or ends. -/
def separate (mode : Mode) (stack : List Frame) (c : Char) : Except Fault State :=
  if isSpace c then .ok ⟨mode, stack⟩
  else
    match mode with
    | .afterItem items =>
      if c = ',' then .ok ⟨.nextItem items, stack⟩
      else if c = ']' then .ok (complete (.arr items.reverse) stack)
      else refuse .noListSeparator
    | .afterMember members =>
      if c = ',' then .ok ⟨.nextKey members, stack⟩
      else if c = '}' then .ok (complete (.obj members) stack)
      else refuse .noObjectSeparator
    | _ => refuse .trailingCharacters

/-- The character that a letter after a backslash stands for. -/
def escapedChar? : Char → Option Char
  | '"' => some '"'
  | '\\' => some '\\'
  | '/' => some '/'
  | 'b' => some '\x08'
  | 'f' => some '\x0c'
  | 'n' => some '\n'
  | 'r' => some '\r'
  | 't' => some '\t'
  | _ => none

/-- What the four digits of an escape amount to. A first half waits for the second
one, a second half needs a first one. -/
def unitEscape (lead : Option Nat) (unit : Nat) (chars : List Char) :
    Except Fault (List Char × Escape) :=
  match lead with
  | none =>
    if 0xDC00 ≤ unit ∧ unit ≤ 0xDFFF then refuse .unpairedSurrogate
    else if 0xD800 ≤ unit ∧ unit ≤ 0xDBFF then .ok (chars, .pairBackslash unit)
    else .ok (Char.ofNat unit :: chars, .none)
  | some lead =>
    if 0xDC00 ≤ unit ∧ unit ≤ 0xDFFF then
      .ok (Char.ofNat (0x10000 + (lead - 0xD800) * 0x400 + (unit - 0xDC00)) :: chars, .none)
    else refuse .unpairedSurrogate

/-- A character inside an escape: the characters of the string so far and the rest of
the escape. The four bytes after `\u` are looked at together, so a wrong digit among
them is noticed behind the fourth. -/
def Escape.step (escape : Escape) (chars : List Char) (c : Char) :
    Except Fault (List Char × Escape) :=
  match escape with
  | .none =>
    if c = '\\' then .ok (chars, .backslash)
    else if c.toNat < 0x20 then refuse .controlCharacter
    else .ok (c :: chars, .none)
  | .backslash =>
    if c = 'u' then .ok (chars, .hex Option.none 0 0)
    else
      match escapedChar? c with
      | some e => .ok (e :: chars, .none)
      | Option.none => refuse .wrongEscape
  | .hex lead count value =>
    match Text.hexValue? c with
    | some d =>
      if count < 3 then .ok (chars, .hex lead (count + 1) (16 * value + d))
      else unitEscape lead (16 * value + d) chars
    | Option.none => wrong count
  | .wrongHex bytes => wrong bytes
  | .pairBackslash lead =>
    if c = '\\' then .ok (chars, .pairLetter lead) else refuse .brokenPair
  | .pairLetter lead =>
    if c = 'u' then .ok (chars, .hex (some lead) 0 0) else refuse .brokenPair
where
  wrong (bytes : Nat) : Except Fault (List Char × Escape) :=
    if 4 ≤ bytes + c.utf8Size then .error ⟨.wrongEscape, 4 - bytes⟩
    else .ok (chars, .wrongHex (bytes + c.utf8Size))

/-- The end of a string. -/
def closeText (role : Role) (chars : List Char) (stack : List Frame) : State :=
  let s := String.ofList chars.reverse
  match role with
  | .key members => ⟨.afterKey members s, stack⟩
  | .value => complete (.str s) stack

/-- One character. A fault tells how far the reader got behind the start of it. -/
def State.step (state : State) (c : Char) : Except Fault State :=
  let stack := state.stack
  match state.mode with
  | .value => if isSpace c then .ok state else beginValue stack c
  | .firstItem =>
    if isSpace c then .ok state
    else if c = ']' then .ok (complete (.arr []) stack)
    else beginValue (.item [] :: stack) c
  | .nextItem items =>
    if isSpace c then .ok state
    else if c = ']' then refuse .trailingComma
    else beginValue (.item items :: stack) c
  | .firstKey =>
    if isSpace c then .ok state
    else if c = '}' then .ok (complete (.obj []) stack)
    else if c = '"' then .ok ⟨.text (.key []) [] .none, stack⟩
    else refuse .keyNotString
  | .nextKey members =>
    if isSpace c then .ok state
    else if c = '}' then refuse .trailingComma
    else if c = '"' then .ok ⟨.text (.key members) [] .none, stack⟩
    else refuse .keyNotString
  | .afterKey members key =>
    if isSpace c then .ok state
    else if c = ':' then .ok ⟨.value, .member members key :: stack⟩
    else refuse .noColon
  | .word next left v =>
    if c = next then
      match left with
      | [] => .ok (complete v stack)
      | w :: ws => .ok ⟨.word w ws v, stack⟩
    else refuse .wrongWord
  | .text role chars escape =>
    if escape = .none ∧ c = '"' then .ok (closeText role chars stack)
    else
      match escape.step chars c with
      | .ok (chars, escape) => .ok ⟨.text role chars escape, stack⟩
      | .error f => .error f
  | .number negative part =>
    match part.step c with
    | .error f => .error f
    | .ok (some part) => .ok ⟨.number negative part, stack⟩
    | .ok none =>
      match part.value negative with
      | .error cause => .error ⟨cause, 0⟩
      | .ok v => separate (complete v stack).mode (complete v stack).stack c
  | .afterItem _ | .afterMember _ | .finished _ => separate state.mode stack c

/-- What the end of the text means in a mode in which no number is being read. -/
def Mode.close : Mode → Except Cause Json
  | .finished v => .ok v
  | .firstItem | .afterItem _ => .error .endInList
  | .firstKey | .afterKey _ _ | .afterMember _ => .error .endInObject
  | .text _ _ _ => .error .endInString
  | .value | .nextItem _ | .nextKey _ | .word _ _ _ | .number _ _ => .error .endInValue

/-- What the end of the text means. A number ends with it. -/
def State.finish (state : State) : Except Cause Json :=
  match state.mode with
  | .number negative part =>
    match part.value negative with
    | .ok v => (complete v state.stack).mode.close
    | .error cause => .error cause
  | mode => mode.close

/-- Runs the reader over a text that starts at byte `read`. -/
def State.run (read : Nat) (state : State) : List Char → Except Fault Json
  | [] =>
    match state.finish with
    | .ok v => .ok v
    | .error cause => .error ⟨cause, read⟩
  | c :: cs =>
    match state.step c with
    | .ok state => state.run (read + c.utf8Size) cs
    | .error f => .error ⟨f.cause, read + f.read⟩

/-- The value that a text denotes. -/
def read (text : List Char) : Except Fault Json :=
  State.run 0 ⟨.value, []⟩ text

/-- The value that a text denotes, or the place where it goes wrong. -/
def parse (text : List Char) : Except Error Json :=
  match read text with
  | .ok v => .ok v
  | .error f => .error (f.locate text)

end Json

end ApiNotes

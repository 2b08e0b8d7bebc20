import ApiNotes.Proofs.Decimal.Numeral
import ApiNotes.Proofs.Json.RoundTrip
import ApiNotes.Proofs.Snippet.Quotation

/-!
# Literals of programming languages

A `Datum` is a value as a literal spells it: like a JSON value, but with its numbers left as
they are spelled. A `Dialect` says how a language writes such values, namely its strings, its
words, what stands between a key and a value, and what brackets denote. `Dialect.read?` cuts a
text into tokens, with any space between them, and keeps a stack of the brackets that are open.
A comma may follow the last entry, as the languages have it. A text that is no literal, or that
has something behind the literal, is refused. The dialects are less than the languages: they
have the forms that snippets write, and what these denote.

A text `Denotes` a datum when it is read as the datum wherever a value may stand and whatever
follows, as long as a word in it ends there. Words, strings and brackets around entries with
commas between them denote what they should, for every dialect.
-/

namespace ApiNotes

/-- A value with its numbers as they are spelled. -/
inductive Datum where
  | null
  | bool (b : Bool)
  | number (spelling : String)
  | str (s : String)
  | arr (items : List Datum)
  | obj (members : List (String × Datum))
deriving Repr, Inhabited

/-- A JSON value with its numbers as they are spelled. -/
def Json.datum : Json → Datum
  | null => .null
  | bool b => .bool b
  | int n => .number (String.ofList (writeInt n))
  | real x => .number (String.ofList (layout.writeFloat x))
  | str s => .str s
  | arr items => .arr (items.map fun v => datum v)
  | obj members => .obj (members.map fun m => (m.1, datum m.2))
decreasing_by
  · decreasing_tactic
  · next hm =>
    have := Table.sizeOf_snd_lt_of_mem hm
    decreasing_tactic

namespace Dialect

/-- The two kinds of brackets. -/
inductive Bracket where
  | square
  | curly
deriving Repr, DecidableEq

/-- A part of a literal. -/
inductive Token where
  | opening (b : Bracket)
  | closing (b : Bracket)
  | comma
  /-- What stands between a key and its value. -/
  | arrow
  | word (spelling : List Char)
  | text (value : List Char)
deriving Repr, DecidableEq

/-- The token that a character is by itself. -/
def Token.ofChar? : Char → Option Token
  | '[' => some (.opening .square)
  | ']' => some (.closing .square)
  | '{' => some (.opening .curly)
  | '}' => some (.closing .curly)
  | ',' => some .comma
  | _ => none

/-- The characters of words and numerals. -/
def isWordPart (c : Char) : Bool :=
  Text.isWordChar c || c == '.' || c == '+' || c == '-'

/-- Whether a character means the same in all dialects. -/
def isCommon (c : Char) : Bool :=
  Json.isSpace c || isWordPart c || (Token.ofChar? c).isSome

/-- An entry between brackets: a value, with a key or without. -/
abbrev Entry := Option String × Datum

end Dialect

/-- How a language writes literals. -/
structure Dialect where
  quotation : Quotation
  /-- The characters between a key and its value. -/
  arrow : Char × List Char
  /-- The words besides numerals. -/
  constants : List (List Char × Datum)
  /-- What brackets with entries between them denote. -/
  assemble? : Dialect.Bracket → List Dialect.Entry → Option Datum
  mark_free : Dialect.isCommon quotation.mark = false := by decide
  arrow_free : Dialect.isCommon arrow.1 = false ∧ arrow.1 ≠ quotation.mark := by decide

namespace Dialect

/-- What a word denotes. -/
def word? (d : Dialect) (spelling : List Char) : Option Datum :=
  if Decimal.isNumeral spelling then some (.number (String.ofList spelling))
  else d.constants.lookup spelling

/-- The token that a text begins with, and what follows it. -/
def next? (d : Dialect) (c : Char) (cs : List Char) : Option (Token × List Char) :=
  if isWordPart c then some (.word (c :: cs.takeWhile isWordPart), cs.dropWhile isWordPart)
  else if let some token := Token.ofChar? c then some (token, cs)
  else if c = d.quotation.mark then (d.quotation.body? cs).map fun r => (.text r.1, r.2)
  else if c = d.arrow.1 then (Text.dropStart? d.arrow.2 cs).map fun rest => (.arrow, rest)
  else none

/-- Brackets that are open, with the entries between them so far, and the key of the next
one if it has been read. -/
structure Frame where
  bracket : Bracket
  entries : List Entry
  key? : Option String
deriving Repr

/-- Whether a value comes next or has just been read. -/
inductive Stage where
  | due
  | ready (v : Datum)
deriving Repr

/-- The state of a reader of literals. -/
structure State where
  stage : Stage
  stack : List Frame
deriving Repr

/-- Closes brackets around entries. -/
def close? (d : Dialect) (b b' : Bracket) (entries : List Entry) (stack : List Frame) :
    Option State :=
  if b = b' then (d.assemble? b entries).map fun v => ⟨.ready v, stack⟩ else none

/-- The state behind one more token. -/
def step? (d : Dialect) : State → Token → Option State
  | ⟨.due, stack⟩, .word spelling => (d.word? spelling).map fun v => ⟨.ready v, stack⟩
  | ⟨.due, stack⟩, .text value => some ⟨.ready (.str (String.ofList value)), stack⟩
  | ⟨.due, stack⟩, .opening b => some ⟨.due, ⟨b, [], none⟩ :: stack⟩
  | ⟨.due, ⟨b, entries, none⟩ :: stack⟩, .closing b' => d.close? b b' entries stack
  | ⟨.ready v, ⟨b, entries, key?⟩ :: stack⟩, .closing b' =>
    d.close? b b' (entries ++ [(key?, v)]) stack
  | ⟨.ready v, ⟨b, entries, key?⟩ :: stack⟩, .comma =>
    some ⟨.due, ⟨b, entries ++ [(key?, v)], none⟩ :: stack⟩
  | ⟨.ready (.str key), ⟨b, entries, none⟩ :: stack⟩, .arrow =>
    some ⟨.due, ⟨b, entries, some key⟩ :: stack⟩
  | _, _ => none

/-- The value that has been read when the text is over. -/
def State.finish? : State → Option Datum
  | ⟨.ready v, []⟩ => some v
  | _ => none

/-- What follows a token is no longer than what follows its first character. -/
theorem length_next?_le {d : Dialect} {c : Char} {cs rest : List Char} {token : Token}
    (h : d.next? c cs = some (token, rest)) : rest.length ≤ cs.length := by
  unfold next? at h
  split at h
  · cases h
    exact (List.dropWhile_suffix _).length_le
  split at h
  · cases h
    exact Nat.le_refl _
  split at h
  · obtain ⟨r, hr, heq⟩ := Option.map_eq_some_iff.1 h
    cases heq
    exact Quotation.length_body?_le hr
  split at h
  · obtain ⟨rest', hrest', heq⟩ := Option.map_eq_some_iff.1 h
    cases heq
    rw [Text.dropStart?_eq_some_iff.1 hrest', List.length_append]
    exact Nat.le_add_left _ _
  · cases h

/-- The value that a text denotes as the rest of a literal. -/
def readFrom (d : Dialect) (state : State) : List Char → Option Datum
  | [] => state.finish?
  | c :: cs =>
    if Json.isSpace c then d.readFrom state cs
    else
      match _h : d.next? c cs with
      | some (token, rest) => (d.step? state token).bind fun state => d.readFrom state rest
      | none => none
termination_by text => text.length
decreasing_by
  · exact Nat.lt_succ_self _
  · exact Nat.lt_succ_of_le (length_next?_le _h)

/-- The value that a text denotes. -/
def read? (d : Dialect) (text : List Char) : Option Datum :=
  d.readFrom ⟨.due, []⟩ text

/-! ### Languages -/

/-- The values of entries without keys. -/
def items? : List Entry → Option (List Datum)
  | [] => some []
  | (none, v) :: entries => (items? entries).map (v :: ·)
  | (some _, _) :: _ => none

/-- The keys and values of entries with keys. -/
def members? : List Entry → Option (List (String × Datum))
  | [] => some []
  | (some k, v) :: entries => (members? entries).map ((k, v) :: ·)
  | (none, _) :: _ => none

/-- Lists and dictionaries of Python. -/
def python : Dialect where
  quotation := .python '"'
  arrow := (':', [])
  constants :=
    [(['N', 'o', 'n', 'e'], .null), (['T', 'r', 'u', 'e'], .bool true),
      (['F', 'a', 'l', 's', 'e'], .bool false)]
  assemble?
    | .square, entries => (items? entries).map .arr
    | .curly, entries => (members? entries).map .obj

/-- Arrays in the form that snippets write them for PHP: either no entry has a key or every entry
has one. Keys are texts that stay as they are spelled, also where PHP takes them for integers. -/
def php : Dialect where
  quotation := .php
  arrow := ('=', ['>'])
  constants :=
    [(['n', 'u', 'l', 'l'], .null), (['t', 'r', 'u', 'e'], .bool true),
      (['f', 'a', 'l', 's', 'e'], .bool false)]
  assemble?
    | .square, entries => ((items? entries).map .arr).or ((members? entries).map .obj)
    | .curly, _ => none

theorem items?_map {α : Type} (f : α → Datum) (xs : List α) :
    items? (xs.map fun x => (none, f x)) = some (xs.map f) := by
  induction xs with
  | nil => rfl
  | cons x xs ih => rw [List.map_cons, items?, ih, List.map_cons, Option.map_some]

theorem members?_map {α : Type} (key : α → String) (f : α → Datum) (xs : List α) :
    members? (xs.map fun x => (some (key x), f x)) = some (xs.map fun x => (key x, f x)) := by
  induction xs with
  | nil => rfl
  | cons x xs ih => rw [List.map_cons, members?, ih, List.map_cons, Option.map_some]

/-! ### One token -/

variable {d : Dialect} {c : Char} {cs rest gap gap' text : List Char} {state next : State}

theorem readFrom_spaces (h : ∀ c ∈ gap, Json.isSpace c = true) (state : State) (rest : List Char) :
    d.readFrom state (gap ++ rest) = d.readFrom state rest := by
  induction gap with
  | nil => rfl
  | cons c gap ih =>
      rw [List.cons_append, readFrom, if_pos (h c List.mem_cons_self)]
      exact ih fun e he => h e (List.mem_cons_of_mem c he)

theorem readFrom_token {token : Token} (hspace : Json.isSpace c = false)
    (hnext : d.next? c cs = some (token, rest)) (hstep : d.step? state token = some next) :
    d.readFrom state (c :: cs) = d.readFrom next rest := by
  rw [readFrom, hspace, if_neg (by decide)]
  split
  · next token' rest' heq =>
    rw [hnext] at heq
    cases heq
    rw [hstep, Option.bind_some]
  · next heq =>
    rw [hnext] at heq
    cases heq

/-- A character that is a token by itself is neither a space nor a part of a word. -/
theorem free_of_ofChar? {token : Token} (h : Token.ofChar? c = some token) :
    Json.isSpace c = false ∧ isWordPart c = false := by
  unfold Token.ofChar? at h
  split at h
  all_goals first
    | decide
    | cases h

theorem readFrom_mark {token : Token} (hc : Token.ofChar? c = some token)
    (hstep : d.step? state token = some next) (rest : List Char) :
    d.readFrom state (c :: rest) = d.readFrom next rest := by
  obtain ⟨hspace, hpart⟩ := free_of_ofChar? hc
  refine readFrom_token hspace ?_ hstep
  rw [next?, hpart, if_neg (by decide), hc]

theorem readFrom_arrow (hstep : d.step? state .arrow = some next) (rest : List Char) :
    d.readFrom state (d.arrow.1 :: (d.arrow.2 ++ rest)) = d.readFrom next rest := by
  obtain ⟨hfree, hne⟩ := d.arrow_free
  simp only [isCommon, Bool.or_eq_false_iff, Option.isSome_eq_false_iff, Option.isNone_iff_eq_none]
    at hfree
  refine readFrom_token hfree.1.1 ?_ hstep
  rw [next?, hfree.1.2, if_neg (by decide), hfree.2]
  simp only [if_neg hne, if_true, Text.dropStart?_eq_some_iff.2 rfl, Option.map_some]

/-! ### Words and strings -/

/-- No part of a word comes first. -/
def Ends (text : List Char) : Prop :=
  ∀ c ∈ text.head?, isWordPart c = false

/-- A text is read as a datum where a value may stand. -/
def Denotes (d : Dialect) (text : List Char) (v : Datum) : Prop :=
  ∀ (stack : List Frame) (rest : List Char), Ends rest →
    d.readFrom ⟨.due, stack⟩ (text ++ rest) = d.readFrom ⟨.ready v, stack⟩ rest

theorem ends_cons (h : isWordPart c = false) (cs : List Char) : Ends (c :: cs) := by
  intro e he
  obtain rfl := Option.some.inj he
  exact h

theorem isWordPart_of_isSpace (h : Json.isSpace c = true) : isWordPart c = false := by
  simp only [Json.isSpace, Bool.or_eq_true, beq_iff_eq] at h
  rcases h with ((rfl | rfl) | rfl) | rfl <;> decide

theorem ends_gap (hgap : ∀ c ∈ gap, Json.isSpace c = true) (h : Ends rest) :
    Ends (gap ++ rest) := by
  cases gap with
  | nil => exact h
  | cons c gap => exact ends_cons (isWordPart_of_isSpace (hgap c List.mem_cons_self)) _

/-- A word goes on to the first character that is no part of one. -/
theorem denotes_word {v : Datum} (hne : text ≠ []) (hall : text.all isWordPart = true)
    (hv : d.word? text = some v) : d.Denotes text v := by
  intro stack rest hrest
  rw [List.all_eq_true] at hall
  obtain ⟨c, cs, rfl⟩ := List.exists_cons_of_ne_nil hne
  have hc : isWordPart c = true := hall c List.mem_cons_self
  have hspace : Json.isSpace c = false := by
    by_contra h
    rw [isWordPart_of_isSpace (by simpa using h)] at hc
    cases hc
  obtain ⟨htake, hdrop⟩ :=
    Text.span_append (fun e he => hall e (List.mem_cons_of_mem c he)) hrest
  have hnext : d.next? c (cs ++ rest) = some (.word (c :: cs), rest) := by
    rw [next?, if_pos hc, htake, hdrop]
  exact readFrom_token hspace hnext (by rw [step?, hv]; rfl)

theorem all_isWordPart_of_isNumeral (h : Decimal.IsNumeral text) :
    text.all isWordPart = true := by
  rw [List.all_eq_true]
  intro c hc
  rcases h.mem_cases hc with hdigit | hmark
  · simp [isWordPart, Text.isWordChar, Char.isAlphanum, hdigit]
  · simp only [List.mem_cons, List.not_mem_nil, or_false] at hmark
    rcases hmark with rfl | rfl | rfl | rfl | rfl <;> decide

theorem denotes_numeral (h : Decimal.IsNumeral text) :
    d.Denotes text (.number (String.ofList text)) := by
  refine denotes_word ?_ (all_isWordPart_of_isNumeral h) (if_pos h.isNumeral_eq)
  rintro rfl
  exact absurd h.isNumeral_eq (by decide)

/-- A text between quotes, written so that the quotation of the dialect undoes it. -/
theorem denotes_quoted {write : Char → List Char} (h : d.quotation.Undoes write)
    (value : List Char) :
    d.Denotes (d.quotation.mark :: value.flatMap write ++ [d.quotation.mark])
      (.str (String.ofList value)) := by
  intro stack rest _
  have hfree := d.mark_free
  simp only [isCommon, Bool.or_eq_false_iff, Option.isSome_eq_false_iff, Option.isNone_iff_eq_none]
    at hfree
  have hnext : d.next? d.quotation.mark (value.flatMap write ++ d.quotation.mark :: rest) =
      some (.text value, rest) := by
    rw [next?, hfree.1.2, if_neg (by decide), hfree.2]
    simp only [if_true, h.body?_eq value rest, Option.map_some]
  rw [List.append_assoc, List.cons_append]
  exact readFrom_token hfree.1.1 hnext rfl

/-! ### Entries and brackets -/

/-- A text is read as an entry where an entry may stand. -/
def DenotesEntry (d : Dialect) (text : List Char) (e : Entry) : Prop :=
  ∀ (b : Bracket) (done : List Entry) (stack : List Frame) (rest : List Char), Ends rest →
    d.readFrom ⟨.due, ⟨b, done, none⟩ :: stack⟩ (text ++ rest) =
      d.readFrom ⟨.ready e.2, ⟨b, done, e.1⟩ :: stack⟩ rest

theorem Denotes.item {v : Datum} (h : d.Denotes text v) : d.DenotesEntry text (none, v) :=
  fun _ _ _ rest hrest => h _ rest hrest

/-- A key and a value with the arrow between them. -/
theorem Denotes.member {key value : List Char} {k : String} {v : Datum}
    (hkey : d.Denotes key (.str k)) (hvalue : d.Denotes value v)
    (hgap : ∀ c ∈ gap, Json.isSpace c = true) (hgap' : ∀ c ∈ gap', Json.isSpace c = true) :
    d.DenotesEntry (key ++ (gap ++ d.arrow.1 :: (d.arrow.2 ++ (gap' ++ value)))) (some k, v) := by
  intro b done stack rest hrest
  have hfree := d.arrow_free.1
  simp only [isCommon, Bool.or_eq_false_iff] at hfree
  have hends : Ends (gap ++ d.arrow.1 :: (d.arrow.2 ++ (gap' ++ (value ++ rest)))) :=
    ends_gap hgap (ends_cons hfree.1.2 _)
  simp only [List.append_assoc, List.cons_append]
  rw [hkey _ _ hends, readFrom_spaces hgap, readFrom_arrow rfl, readFrom_spaces hgap',
    hvalue _ _ hrest]

/-- Entries with commas between them. What follows is read behind the last one, `e`, with the
others in the frame. -/
theorem readFrom_spread {α : Type} {spell : α → List Char} {entry : α → Entry}
    (hgap : ∀ c ∈ gap, Json.isSpace c = true) {xs : List α} (hne : xs ≠ [])
    (hxs : ∀ x ∈ xs, d.DenotesEntry (spell x) (entry x)) (hrest : Ends rest) {b : Bracket}
    {done : List Entry} {stack : List Frame} {w : Option Datum}
    (h : ∀ before e, done ++ xs.map entry = before ++ [e] →
      d.readFrom ⟨.ready e.2, ⟨b, before, e.1⟩ :: stack⟩ rest = w) :
    d.readFrom ⟨.due, ⟨b, done, none⟩ :: stack⟩ (Json.spread gap spell xs ++ rest) = w := by
  induction xs generalizing done with
  | nil => exact absurd rfl hne
  | cons x xs ih =>
      have hx := hxs x List.mem_cons_self
      cases xs with
      | nil =>
          rw [Json.spread, List.append_assoc, readFrom_spaces hgap, hx _ _ _ _ hrest]
          exact h done (entry x) rfl
      | cons y xs =>
          rw [Json.spread, List.append_assoc, List.append_assoc, List.cons_append,
            readFrom_spaces hgap, hx _ _ _ _ (ends_cons (by decide) _), readFrom_mark rfl rfl]
          apply ih (by simp) fun z hz => hxs z (List.mem_cons_of_mem x hz)
          intro before e he
          apply h
          rw [← he, List.append_assoc]
          rfl

/-- The end of brackets behind their last entry, with a comma in between or not. -/
theorem readFrom_close {b : Bracket} {last : Char}
    (hlast : Token.ofChar? last = some (.closing b)) (hgap : ∀ c ∈ gap, Json.isSpace c = true)
    {comma : List Char} (hcomma : comma = [] ∨ comma = [',']) {before : List Entry} {e : Entry}
    {v : Datum} (hv : d.assemble? b (before ++ [e]) = some v) (stack : List Frame)
    (rest : List Char) :
    d.readFrom ⟨.ready e.2, ⟨b, before, e.1⟩ :: stack⟩ (comma ++ (gap ++ last :: rest)) =
      d.readFrom ⟨.ready v, stack⟩ rest := by
  have hclose : d.close? b b (before ++ [e]) stack = some ⟨.ready v, stack⟩ := by
    rw [close?, if_pos rfl, hv]
    rfl
  rcases hcomma with rfl | rfl
  · rw [List.nil_append, readFrom_spaces hgap]
    refine readFrom_mark hlast ?_ rest
    exact hclose
  · rw [List.singleton_append, readFrom_mark rfl rfl, readFrom_spaces hgap]
    refine readFrom_mark hlast ?_ rest
    exact hclose

/-- Brackets around entries, with a comma behind the last one or not. -/
theorem denotes_brackets {α : Type} {spell : α → List Char} {entry : α → Entry} {b : Bracket}
    {first last : Char} (hfirst : Token.ofChar? first = some (.opening b))
    (hlast : Token.ofChar? last = some (.closing b)) (hgap : ∀ c ∈ gap, Json.isSpace c = true)
    (hgap' : ∀ c ∈ gap', Json.isSpace c = true) {comma : List Char}
    (hcomma : comma = [] ∨ comma = [',']) {xs : List α} (hne : xs ≠ [])
    (hxs : ∀ x ∈ xs, d.DenotesEntry (spell x) (entry x)) {v : Datum}
    (hv : d.assemble? b (xs.map entry) = some v) :
    d.Denotes (first :: (Json.spread gap spell xs ++ (comma ++ (gap' ++ [last])))) v := by
  intro stack rest _
  have hends : Ends (comma ++ (gap' ++ last :: rest)) := by
    rcases hcomma with rfl | rfl
    · rw [List.nil_append]
      exact ends_gap hgap' (ends_cons (free_of_ofChar? hlast).2 rest)
    · exact ends_cons (by decide) _
  have hread : d.readFrom ⟨.due, ⟨b, [], none⟩ :: stack⟩
      (Json.spread gap spell xs ++ (comma ++ (gap' ++ last :: rest))) =
        d.readFrom ⟨.ready v, stack⟩ rest := by
    refine readFrom_spread hgap hne hxs hends fun before e he => ?_
    rw [List.nil_append] at he
    exact readFrom_close hlast hgap' hcomma (he ▸ hv) stack rest
  rw [List.cons_append, readFrom_mark hfirst rfl, ← hread]
  simp

/-- Brackets without entries. -/
theorem denotes_empty {b : Bracket} {first last : Char}
    (hfirst : Token.ofChar? first = some (.opening b))
    (hlast : Token.ofChar? last = some (.closing b)) {v : Datum}
    (hv : d.assemble? b [] = some v) : d.Denotes [first, last] v := by
  intro stack rest _
  rw [List.cons_append, readFrom_mark hfirst rfl]
  refine readFrom_mark hlast ?_ rest
  rw [step?, close?, if_pos rfl, hv]
  rfl

theorem Denotes.read?_eq {v : Datum} (h : d.Denotes text v) : d.read? text = some v := by
  have hread := h [] [] (by simp [Ends])
  rw [List.append_nil] at hread
  rw [read?, hread, readFrom]
  rfl

-- A comma may follow the last entry, but none may be missing.
example : python.read? "[1, None,]".toList = some (.arr [.number "1", .null]) := by cbv

example : python.read? "[1 None]".toList = none := by cbv

end Dialect

end ApiNotes

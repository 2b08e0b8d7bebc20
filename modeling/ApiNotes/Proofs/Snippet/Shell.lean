import ApiNotes.Snippet.Render
import ApiNotes.Text.Blank
import Mathlib.Data.List.Forall2

/-!
# The command that a shell reads

`Shell.read?` splits a command line into words by the rules of a POSIX shell: single quotes
take everything literally, a backslash before a line feed goes away with it, a backslash
before any other character makes that character literal, and gaps separate words. Any other
character that means something to a shell, a line feed included, is refused where it stands
unquoted, so a text that is read is one simple command.

Each character of a word remembers how it was read. A snippet for `curl` is then the command
with the intended words, in which no character of the URL or of the body was read outside
of quotes, but for the quotes themselves, which are read behind a backslash.

A `Line` is a part of a command between two gaps. Lines are put together with a gap or with
a continued line break between them, and so the proofs follow the way a snippet is written.
-/

namespace ApiNotes

namespace Shell

/-- How a character of a word was read. -/
inductive Manner where
  | bare
  /-- Between single quotes. -/
  | quoted
  /-- Behind a backslash. -/
  | escaped
deriving Repr, DecidableEq

/-- A word of a command. -/
abbrev Word := List (Manner × Char)

/-- The characters of a word. -/
def Word.text (word : Word) : List Char :=
  word.map Prod.snd

/-- The characters, besides gaps, quotes and backslashes, that do not stand for themselves
everywhere in a command. -/
def isOperator (c : Char) : Bool :=
  ['\n', '|', '&', ';', '<', '>', '(', ')', '$', '\x60', '"', '*', '?', '[', '#', '~', '=',
    '%'].contains c

/-- Where the reading of a command is. -/
inductive Mode where
  | unquoted
  | backslash
  | quotes
deriving Repr, DecidableEq

/-- The word so far with one more character. -/
def push (word : Option Word) (manner : Manner) (c : Char) : Option Word :=
  some (word.getD [] ++ [(manner, c)])

/-- The words of a command, behind the start of a word if there is one. -/
def readFrom (mode : Mode) (word : Option Word) : List Char → Option (List Word)
  | [] => if mode = .unquoted then some word.toList else none
  | c :: cs =>
    match mode with
    | .quotes =>
      if c = '\'' then readFrom .unquoted word cs
      else readFrom .quotes (push word .quoted c) cs
    | .backslash =>
      if c = '\n' then readFrom .unquoted word cs
      else readFrom .unquoted (push word .escaped c) cs
    | .unquoted =>
      if c = '\'' then readFrom .quotes (some (word.getD [])) cs
      else if c = '\\' then readFrom .backslash word cs
      else if Text.isGap c then (readFrom .unquoted none cs).map (word.toList ++ ·)
      else if isOperator c then none
      else readFrom .unquoted (push word .bare c) cs

/-- The words of a text that is one command. -/
def read? (text : List Char) : Option (List Word) :=
  readFrom .unquoted none text

/-- A word without any quoting. -/
def bareWord (text : String) : Word :=
  text.toList.map fun c => (.bare, c)

/-- A word that is quoted as a whole, but for the quotes in it. -/
def quotedWord (text : String) : Word :=
  text.toList.map fun c => if c = '\'' then (.escaped, c) else (.quoted, c)

@[simp] theorem text_bareWord (text : String) : (bareWord text).text = text.toList := by
  rw [Word.text, bareWord, List.map_map]
  apply List.map_id

@[simp] theorem text_quotedWord (text : String) : (quotedWord text).text = text.toList := by
  rw [Word.text, quotedWord, List.map_map]
  apply List.map_id''
  intro c
  by_cases hc : c = '\'' <;> simp [hc]

/-! ### Single words -/

/-- Whether a character stands for itself everywhere. -/
def isPlain (c : Char) : Bool :=
  c != '\'' && c != '\\' && !Text.isGap c && !isOperator c

theorem readFrom_plain {c : Char} (h : isPlain c = true) (word : Option Word) (cs : List Char) :
    readFrom .unquoted word (c :: cs) = readFrom .unquoted (push word .bare c) cs := by
  simp only [isPlain, Bool.and_eq_true, bne_iff_ne, Bool.not_eq_true'] at h
  obtain ⟨⟨⟨hquote, hslash⟩, hgap⟩, hoperator⟩ := h
  simp [readFrom, hquote, hslash, hgap, hoperator]

theorem readFrom_bare {text : List Char} (h : text.all isPlain = true) (word : Word)
    (rest : List Char) :
    readFrom .unquoted (some word) (text ++ rest) =
      readFrom .unquoted (some (word ++ text.map fun c => (.bare, c))) rest := by
  induction text generalizing word with
  | nil => simp
  | cons c cs ih =>
      rw [List.all_cons, Bool.and_eq_true] at h
      rw [List.cons_append, readFrom_plain h.1, push, Option.getD_some, ih h.2]
      simp

/-- Inside of quotes a shell reads back what was quoted. -/
theorem readFrom_quotes (text : List Char) (word : Word) (rest : List Char) :
    readFrom .quotes (some word) (text.flatMap Snippet.shellChar ++ '\'' :: rest) =
      readFrom .unquoted (some (word ++ quotedWord (String.ofList text))) rest := by
  induction text generalizing word with
  | nil => simp [readFrom, quotedWord]
  | cons c cs ih =>
      simp only [quotedWord, String.toList_ofList] at ih
      by_cases hc : c = '\''
      · -- The quotation is closed, the quote is read behind a backslash, and it is opened again.
        simp [hc, Snippet.shellChar, Snippet.replaceChar, readFrom, push, quotedWord, ih]
      · simp [hc, Snippet.shellChar, Snippet.replaceChar, readFrom, push, quotedWord, ih]

/-! ### Lines -/

/-- A part of a command that is these words, wherever nothing or a gap follows. -/
def Line (text : List Char) (words : List Word) : Prop :=
  ∀ rest : List Char, (∀ c ∈ rest.head?, c = ' ') →
    readFrom .unquoted none (text ++ rest) = (readFrom .unquoted none rest).map (words ++ ·)

/-- A word ends where a gap follows. -/
theorem readFrom_some {rest : List Char} (h : ∀ c ∈ rest.head?, c = ' ') (word : Word) :
    readFrom .unquoted (some word) rest = (readFrom .unquoted none rest).map ([word] ++ ·) := by
  cases rest with
  | nil => rfl
  | cons c rest =>
      obtain rfl : c = ' ' := h c rfl
      simp [readFrom, Text.isGap]

theorem line_bareWord {text : String} (hne : text ≠ "") (h : text.toList.all isPlain = true) :
    Line text.toList [bareWord text] := by
  intro rest hrest
  obtain ⟨c, cs, htext⟩ : ∃ c cs, text.toList = c :: cs := by
    apply List.exists_cons_of_ne_nil
    simpa using hne
  rw [htext, List.all_cons, Bool.and_eq_true] at h
  rw [bareWord, htext, List.cons_append, readFrom_plain h.1, push, readFrom_bare h.2,
    readFrom_some hrest]
  rfl

theorem line_quotedWord (text : String) :
    Line (Snippet.shellQuoted text).toList [quotedWord text] := by
  intro rest hrest
  rw [Snippet.shellQuoted, String.toList_ofList, Snippet.quoteWith]
  have hopen : readFrom .unquoted none
      (('\'' :: text.toList.flatMap Snippet.shellChar ++ ['\'']) ++ rest) =
        readFrom .quotes (some []) (text.toList.flatMap Snippet.shellChar ++ '\'' :: rest) := by
    simp [readFrom]
  rw [hopen, readFrom_quotes, readFrom_some hrest, String.ofList_toList]
  rfl

theorem Line.indent {text : List Char} {words : List Word} (h : Line text words) :
    Line (' ' :: text) words := by
  intro rest hrest
  rw [← h rest hrest]
  simp [readFrom, Text.isGap]

/-- Two parts with a gap between them. -/
theorem Line.gap {xs ys : List Char} {words words' : List Word} (h : Line xs words)
    (h' : Line ys words') : Line (xs ++ ' ' :: ys) (words ++ words') := by
  intro rest hrest
  rw [List.append_assoc, h _ (by simp), h'.indent rest hrest, Option.map_map]
  simp [Function.comp_def]

/-- Two parts with a continued line break between them. -/
theorem Line.lineBreak {xs ys : List Char} {words words' : List Word} (h : Line xs words)
    (h' : Line ys words') : Line (xs ++ (" \\\n".toList ++ ys)) (words ++ words') := by
  intro rest hrest
  have hbreak : readFrom .unquoted none (' ' :: '\\' :: '\n' :: (ys ++ rest)) =
      readFrom .unquoted none (ys ++ rest) := by
    simp [readFrom, Text.isGap]
  change readFrom .unquoted none (xs ++ ' ' :: '\\' :: '\n' :: ys ++ rest) = _
  rw [List.append_assoc, h _ (by simp)]
  change (readFrom .unquoted none (' ' :: '\\' :: '\n' :: (ys ++ rest))).map _ = _
  rw [hbreak, h' rest hrest, Option.map_map]
  simp [Function.comp_def]

theorem line_intercalate {lines : List (List Char)} {words : List (List Word)}
    (h : List.Forall₂ Line lines words) :
    Line (" \\\n".toList.intercalate lines) words.flatten := by
  induction h with
  | nil =>
      intro rest _
      simp
  | @cons line ws lines words hline htail ih =>
      cases htail with
      | nil => simpa using hline
      | cons hnext _ =>
          rw [List.intercalate_cons_cons, List.append_assoc, List.flatten_cons]
          exact hline.lineBreak ih

theorem Line.read?_eq {text : List Char} {words : List Word} (h : Line text words) :
    read? text = some words := by
  have hread := h [] (by simp)
  simpa [read?, readFrom] using hread

end Shell

namespace Snippet

open Shell

theorem line_call (method : Method) :
    Line ("curl -X " ++ method.upper).toList
      [bareWord "curl", bareWord "-X", bareWord method.upper] := by
  have hcurl : Line "curl".toList [bareWord "curl"] := line_bareWord (by decide) (by decide)
  have hflag : Line "-X".toList [bareWord "-X"] := line_bareWord (by decide) (by decide)
  have hmethod : Line method.upper.toList [bareWord method.upper] := by
    cases method <;> exact line_bareWord (by decide) (by decide)
  have hline := (hcurl.gap hflag).gap hmethod
  simpa using hline

/-- An option with a quoted value, on a line of its own. -/
theorem line_option (flag value : String) (hne : flag ≠ "")
    (hflag : flag.toList.all isPlain = true) :
    Line ("  " ++ flag ++ " " ++ shellQuoted value).toList [bareWord flag, quotedWord value] := by
  have hline := ((line_bareWord hne hflag).gap (line_quotedWord value)).indent.indent
  simpa using hline

theorem line_header (value : String) :
    Line ("  -H " ++ shellQuoted value).toList [bareWord "-H", quotedWord value] :=
  line_option "-H" value (by decide) (by decide)

/-- The words that a snippet for `curl` is meant to have, line by line. -/
def curlLines (r : Request) : List (List Word) :=
  [[bareWord "curl", bareWord "-X", bareWord r.method.upper],
    [quotedWord r.url],
    [bareWord "-H", quotedWord "Content-Type: application/json"],
    [bareWord "-H", quotedWord "Accept: application/json"]] ++
  (if r.requiresAuth then [[bareWord "-H", quotedWord ("Authorization: Bearer " ++ token)]]
    else []) ++
  (match r.body with
    | some body => [[bareWord "-d", quotedWord body.pretty]]
    | none => [])

theorem forall₂_curlLines (r : Request) :
    List.Forall₂ Line ((curlArguments r).map String.toList) (curlLines r) := by
  have hurl : Line ("  " ++ shellQuoted r.url).toList [quotedWord r.url] := by
    have hline := (line_quotedWord r.url).indent.indent
    simpa using hline
  rw [curlArguments, curlLines, List.map_append, List.map_append]
  apply List.rel_append
  · apply List.rel_append
    · exact .cons (line_call r.method) (.cons hurl
        (.cons (line_header "Content-Type: application/json")
          (.cons (line_header "Accept: application/json") .nil)))
    · cases r.requiresAuth with
      | false => exact .nil
      | true => exact .cons (line_header ("Authorization: Bearer " ++ token)) .nil
  · cases r.body with
    | none => exact .nil
    | some body => exact .cons (line_option "-d" body.pretty (by decide) (by decide)) .nil

/-- A snippet for `curl` is, under its comment, one command with exactly the intended words.
The URL and the body are read between quotes throughout. -/
theorem read?_curl (r : Request) :
    (∃ command, (render .curl r).toList =
        ("# " ++ r.method.upper ++ " " ++ r.url ++ "\n").toList ++ command ∧
      read? command = some (curlLines r).flatten) ∧
    (curlLines r).flatten.map Word.text =
      (["curl", "-X", r.method.upper, r.url, "-H", "Content-Type: application/json",
        "-H", "Accept: application/json"] ++
      (if r.requiresAuth then ["-H", "Authorization: Bearer \x7btoken\x7d"] else []) ++
      (match r.body with
        | some body => ["-d", body.pretty]
        | none => [])).map String.toList := by
  constructor
  · refine ⟨_, ?_, (line_intercalate (forall₂_curlLines r)).read?_eq⟩
    simp [render, renderCurl]
  · rw [curlLines]
    cases r.requiresAuth <;> cases r.body <;> simp [token]

end Snippet

end ApiNotes

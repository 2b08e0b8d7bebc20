import ApiNotes.Proofs.Json.Scalar
import ApiNotes.Snippet.Quote
import Mathlib.Tactic.SplitIfs

/-!
# String literals of programming languages

A `Quotation` says how a language writes string literals between one quote on either side, and
`Quotation.read?` reads such a literal from the front of a text: the characters that it denotes,
and the text behind the closing quote. What a backslash means in JavaScript, PHP and Python is
given as the languages have it, whatever snippets make of it, and the few escapes that are left
out are refused. Other literals of the languages are left out too, such as those of Python
between three quotes, and so are rules about source code as a whole, such as that Python has no
NUL in it.

A writer is undone by a quotation when each character is read back from its spelling, with any
text behind it (`Undoes`). That is a matter of single characters, and it is all that is needed:
the closing quote is then the first one that is no part of a spelling, so that a text between
quotes is read back and nothing of it is taken for source code.
-/

namespace ApiNotes

/-- How a language writes string literals. -/
structure Quotation where
  /-- The quote on both sides. -/
  mark : Char
  /-- Whether a character may not stand for itself. -/
  barred : Char → Bool
  /-- What a backslash before a text stands for, and how many characters of the text belong
  to it. -/
  escape? : List Char → Option (List Char × Nat)
  mark_ne : mark ≠ '\\' := by decide

namespace Quotation

/-- The characters that a literal denotes and the text behind it, from the opening quote on. -/
def body? (q : Quotation) : List Char → Option (List Char × List Char)
  | [] => none
  | c :: cs =>
    if c = q.mark then some ([], cs)
    else if c = '\\' then
      match q.escape? cs with
      | some (text, n) => (q.body? (cs.drop n)).map (Prod.map (text ++ ·) id)
      | none => none
    else if q.barred c then none
    else (q.body? cs).map (Prod.map (c :: ·) id)
termination_by text => text.length
decreasing_by
  · rw [List.length_drop, List.length_cons]
    omega
  · exact Nat.lt_succ_self _

/-- The characters of the literal that a text begins with, and the text behind it. -/
def read? (q : Quotation) : List Char → Option (List Char × List Char)
  | [] => none
  | c :: cs => if c = q.mark then q.body? cs else none

/-! ### Languages -/

/-- The letters that stand for control characters behind a backslash. -/
def control? : Char → Option Char
  | 'b' => some '\x08'
  | 'f' => some '\x0c'
  | 'n' => some '\n'
  | 'r' => some '\r'
  | 't' => some '\t'
  | 'v' => some '\x0b'
  | _ => none

/-- The number of characters of the line end that a text begins with. -/
def lineEnd? : List Char → Option Nat
  | '\r' :: '\n' :: _ => some 2
  | '\r' :: _ => some 1
  | '\n' :: _ => some 1
  | _ => none

/-- The number that `n` digits spell in base sixteen, behind digits that spell `value`. -/
def hex? (value : Nat) : Nat → List Char → Option Nat
  | 0, _ => some value
  | _ + 1, [] => none
  | n + 1, c :: cs => (Text.hexValue? c).bind fun d => hex? (16 * value + d) n cs

/-- The character whose code `n` digits spell, with the letter before them. -/
def coded? (n : Nat) (cs : List Char) : Option (List Char × Nat) :=
  (hex? 0 n cs).bind fun code =>
    if code.isValidChar then some ([Char.ofNat code], n + 1) else none

/-- Whether a character is a digit in base eight. -/
def isOctal (c : Char) : Bool :=
  '0' ≤ c && c ≤ '7'

/-- Escapes of JavaScript: every character without a meaning of its own stands for itself.
Codes in braces and codes of surrogates are refused. -/
def javaScriptEscape? : List Char → Option (List Char × Nat)
  | [] => none
  | c :: cs =>
    if let some n := lineEnd? (c :: cs) then some ([], n)
    else if c = '\u2028' ∨ c = '\u2029' then some ([], 1)
    else if let some d := control? c then some ([d], 1)
    else if c = 'x' then coded? 2 cs
    else if c = 'u' then coded? 4 cs
    else if c = '0' ∧ ¬ cs.head?.any Char.isDigit then some (['\x00'], 1)
    else if c.isDigit then none
    else some ([c], 1)

/-- Escapes of Python: a backslash before a character without a meaning of its own stays.
Names of characters and codes of surrogates are refused. -/
def pythonEscape? : List Char → Option (List Char × Nat)
  | [] => none
  | c :: cs =>
    if let some n := lineEnd? (c :: cs) then some ([], n)
    else if let some d := control? c then some ([d], 1)
    else if c = '\\' ∨ c = '\'' ∨ c = '"' then some ([c], 1)
    else if c = 'a' then some (['\x07'], 1)
    else if c = 'x' then coded? 2 cs
    else if c = 'u' then coded? 4 cs
    else if c = 'U' then coded? 8 cs
    else if c = 'N' then none
    else if isOctal c then
      let digits := ((c :: cs).take 3).takeWhile isOctal
      some ([Char.ofNat (digits.foldl (fun n d => 8 * n + Text.digitValue d) 0)], digits.length)
    else some (['\\', c], 1)

/-- Escapes of PHP between single quotes: a backslash stays unless a backslash or a quote is
behind it. -/
def phpEscape? : List Char → Option (List Char × Nat)
  | [] => none
  | c :: _ => if c = '\\' ∨ c = '\'' then some ([c], 1) else some (['\\'], 0)

/-- Whether a character ends a line. -/
def endsLine (c : Char) : Bool :=
  c == '\n' || c == '\r'

/-- Strings of JavaScript between single quotes. -/
def javaScript : Quotation where
  mark := '\''
  barred := endsLine
  escape? := javaScriptEscape?

/-- Strings of Python between the given quotes, one on either side. -/
def python (mark : Char) (h : mark ≠ '\\' := by decide) : Quotation where
  mark := mark
  barred := endsLine
  escape? := pythonEscape?
  mark_ne := h

/-- Strings of PHP between single quotes. -/
def php : Quotation where
  mark := '\''
  barred _ := false
  escape? := phpEscape?

/-! ### Reading back -/

variable {q : Quotation} {c : Char}

/-- What follows a literal is shorter than the text that the literal is read from. -/
theorem length_body?_le {text : List Char} {r : List Char × List Char}
    (h : q.body? text = some r) : r.2.length ≤ text.length := by
  fun_induction q.body? text generalizing r with
  | case1 => cases h
  | case2 cs =>
      cases h
      exact Nat.le_succ _
  | case3 cs _ text n _ ih =>
      obtain ⟨r', hr', rfl⟩ := Option.map_eq_some_iff.1 h
      have hle := ih hr'
      rw [List.length_drop] at hle
      simp only [Prod.map_snd, id, List.length_cons]
      omega
  | case4 => cases h
  | case5 => cases h
  | case6 c cs _ _ _ ih =>
      obtain ⟨r', hr', rfl⟩ := Option.map_eq_some_iff.1 h
      have hle := ih hr'
      exact Nat.le_succ_of_le hle

theorem body?_mark (q : Quotation) (rest : List Char) :
    q.body? (q.mark :: rest) = some ([], rest) := by
  rw [body?, if_pos rfl]

/-- A character that stands for itself. -/
theorem body?_plain (hmark : c ≠ q.mark) (hslash : c ≠ '\\') (hbarred : q.barred c = false)
    (rest : List Char) : q.body? (c :: rest) = (q.body? rest).map (Prod.map (c :: ·) id) := by
  rw [body?, if_neg hmark, if_neg hslash, hbarred]
  rfl

/-- A backslash and what belongs to it. -/
theorem body?_escape (cs : List Char) {text rest : List Char}
    (h : q.escape? (cs ++ rest) = some (text, cs.length)) :
    q.body? ('\\' :: (cs ++ rest)) = (q.body? rest).map (Prod.map (text ++ ·) id) := by
  rw [body?, if_neg q.mark_ne.symm, if_pos rfl, h]
  simp only [List.drop_left]

theorem body?_letter {d : Char} {rest : List Char} (h : q.escape? (d :: rest) = some ([c], 1)) :
    q.body? ('\\' :: d :: rest) = (q.body? rest).map (Prod.map (c :: ·) id) :=
  body?_escape [d] h

/-- Each character is read back from its spelling. -/
def Undoes (q : Quotation) (write : Char → List Char) : Prop :=
  ∀ c rest, q.body? (write c ++ rest) = (q.body? rest).map (Prod.map (c :: ·) id)

theorem Undoes.body?_eq {write : Char → List Char} (h : q.Undoes write) (text rest : List Char) :
    q.body? (text.flatMap write ++ q.mark :: rest) = some (text, rest) := by
  induction text with
  | nil => exact q.body?_mark rest
  | cons c cs ih =>
      rw [List.flatMap_cons, List.append_assoc, h, ih]
      rfl

theorem Undoes.read?_eq {write : Char → List Char} (h : q.Undoes write) (text rest : List Char) :
    q.read? (q.mark :: text.flatMap write ++ [q.mark] ++ rest) = some (text, rest) := by
  rw [List.append_assoc, List.cons_append, read?, if_pos rfl]
  exact h.body?_eq text rest

/-! ### Snippets -/

/-- The characters that scripts escape by a letter behind a backslash. -/
def scriptLetters : List (Char × Char) :=
  [('\\', '\\'), ('\'', '\''), ('n', '\n'), ('r', '\r')]

/-- Any language undoes the quoting of scripts if it has the four escapes and bars no character
besides line ends. -/
theorem undoes_scriptChar (hmark : q.mark = '\'') (hbarred : ∀ c, q.barred c = true → endsLine c)
    (hletters : ∀ p ∈ scriptLetters, ∀ rest, q.escape? (p.1 :: rest) = some ([p.2], 1)) :
    q.Undoes Snippet.scriptChar := by
  intro c rest
  have hletter : ∀ d, (d, c) ∈ scriptLetters →
      q.body? ('\\' :: d :: rest) = (q.body? rest).map (Prod.map (c :: ·) id) :=
    fun d hd => body?_letter (hletters (d, c) hd rest)
  unfold Snippet.scriptChar
  split_ifs with hslash hquote hfeed hreturn
  · exact hletter '\\' (by simp [scriptLetters, hslash])
  · exact hletter '\'' (by simp [scriptLetters, hquote])
  · exact hletter 'n' (by simp [scriptLetters, hfeed])
  · exact hletter 'r' (by simp [scriptLetters, hreturn])
  · refine body?_plain (hmark ▸ hquote) hslash ?_ rest
    by_contra h
    have hends := hbarred c (by simpa using h)
    simp [endsLine, hfeed, hreturn] at hends

theorem javaScript_undoes_scriptChar : javaScript.Undoes Snippet.scriptChar := by
  refine undoes_scriptChar rfl (fun _ => id) ?_
  simp only [scriptLetters, List.forall_mem_cons]
  exact ⟨fun _ => rfl, fun _ => rfl, fun _ => rfl, fun _ => rfl, by simp⟩

theorem python_undoes_scriptChar : (python '\'').Undoes Snippet.scriptChar := by
  refine undoes_scriptChar rfl (fun _ => id) ?_
  simp only [scriptLetters, List.forall_mem_cons]
  exact ⟨fun _ => rfl, fun _ => rfl, fun _ => rfl, fun _ => rfl, by simp⟩

/-- A control character is read back from its code. -/
theorem python_body?_code {mark : Char} {hmark : mark ≠ '\\'} (hc : c.toNat < 0x20)
    (rest : List Char) :
    (python mark hmark).body? (['\\', 'u', '0', '0', Text.hexDigit (c.toNat / 16),
        Text.hexDigit (c.toNat % 16)] ++ rest) =
      ((python mark hmark).body? rest).map (Prod.map (c :: ·) id) := by
  have hhigh : Text.hexValue? (Text.hexDigit (c.toNat / 16)) = some (c.toNat / 16) :=
    Json.hexValue?_hexDigit (by omega)
  have hlow : Text.hexValue? (Text.hexDigit (c.toNat % 16)) = some (c.toNat % 16) :=
    Json.hexValue?_hexDigit (by omega)
  have hzero : Text.hexValue? '0' = some 0 := by decide
  have hcode : 16 * (c.toNat / 16) + c.toNat % 16 = c.toNat := by omega
  have hvalid : c.toNat.isValidChar := Or.inl (by omega)
  have hread : coded? 4 (['0', '0', Text.hexDigit (c.toNat / 16), Text.hexDigit (c.toNat % 16)] ++
      rest) = some ([c], 5) := by
    have hhex : hex? 0 4 (['0', '0', Text.hexDigit (c.toNat / 16),
        Text.hexDigit (c.toNat % 16)] ++ rest) = some c.toNat := by
      simp [hex?, hzero, hhigh, hlow, hcode]
    rw [coded?, hhex, Option.bind_some, if_pos hvalid, Char.ofNat_toNat]
  have hescape : (python mark hmark).escape? (['u', '0', '0', Text.hexDigit (c.toNat / 16),
      Text.hexDigit (c.toNat % 16)] ++ rest) = some ([c], 5) := hread
  exact body?_escape _ hescape

/-- The escapes of JSON mean the same in Python. -/
theorem python_undoes_escapeChar : (python '"').Undoes Json.escapeChar := by
  intro c rest
  unfold Json.escapeChar
  split_ifs with hquote hslash hfeed hreturn htab hback hform hcode
  · exact body?_letter (by rw [hquote]; rfl)
  · exact body?_letter (by rw [hslash]; rfl)
  · exact body?_letter (by rw [hfeed]; rfl)
  · exact body?_letter (by rw [hreturn]; rfl)
  · exact body?_letter (by rw [htab]; rfl)
  · exact body?_letter (by rw [hback]; rfl)
  · exact body?_letter (by rw [hform]; rfl)
  · exact python_body?_code hcode rest
  · refine body?_plain hquote hslash ?_ rest
    simp [python, endsLine, hfeed, hreturn]

/-- A character in a string of PHP. -/
def phpChar (c : Char) : List Char :=
  if c = '\\' then ['\\', '\\']
  else if c = '\'' then ['\\', '\'']
  else [c]

/-- What a backslash is replaced by has no quotes, so one pass does what two passes do. -/
theorem phpQuote_eq (text : List Char) :
    Snippet.phpQuote text = Snippet.quoteWith phpChar text := by
  have hchar : ∀ c, (Snippet.replaceChar '\\' ['\\', '\\'] c).flatMap
      (Snippet.replaceChar '\'' ['\\', '\'']) = phpChar c := by
    intro c
    rw [Snippet.replaceChar, phpChar]
    split_ifs with hslash
    · rfl
    · simp [Snippet.replaceChar, *]
    · simp [Snippet.replaceChar, *]
  rw [Snippet.phpQuote, Snippet.quoteWith, Snippet.quoteWith, List.flatMap_assoc]
  simp only [hchar]

theorem php_undoes_phpChar : php.Undoes phpChar := by
  intro c rest
  unfold phpChar
  split_ifs with hslash hquote
  · subst hslash
    exact body?_letter rfl
  · subst hquote
    exact body?_letter rfl
  · exact body?_plain hquote hslash rfl rest

end Quotation

namespace Snippet

theorem any_endsLine_scriptChar (c : Char) : (scriptChar c).any Quotation.endsLine = false := by
  unfold scriptChar
  split_ifs with hslash hquote hfeed hreturn
  · rfl
  · rfl
  · rfl
  · rfl
  · simp [Quotation.endsLine, hfeed, hreturn]

/-- A quoted text of a script is on one line. -/
theorem not_mem_scriptQuoted {d : Char} (h : Quotation.endsLine d = true) (s : String) :
    d ∉ (scriptQuoted s).toList := by
  intro hd
  rw [scriptQuoted, String.toList_ofList, quoteWith, List.mem_append, List.mem_cons,
    List.mem_singleton, List.mem_flatMap] at hd
  rcases hd with (rfl | ⟨c, -, hc⟩) | rfl
  · exact absurd h (by decide)
  · exact List.any_eq_false.1 (any_endsLine_scriptChar c) d hc h
  · exact absurd h (by decide)

/-- JavaScript and Python read back what is quoted for scripts, on one line, and PHP what is
quoted for PHP. The source code behind the quoted text stays as it is. -/
theorem read?_quoted (s : String) (rest : List Char) :
    (Quotation.javaScript.read? ((scriptQuoted s).toList ++ rest) = some (s.toList, rest) ∧
      (Quotation.python '\'').read? ((scriptQuoted s).toList ++ rest) = some (s.toList, rest) ∧
      '\n' ∉ (scriptQuoted s).toList ∧ '\r' ∉ (scriptQuoted s).toList) ∧
    Quotation.php.read? ((phpQuoted s).toList ++ rest) = some (s.toList, rest) := by
  refine ⟨⟨?_, ?_, not_mem_scriptQuoted (by decide) s, not_mem_scriptQuoted (by decide) s⟩, ?_⟩
  · rw [scriptQuoted, String.toList_ofList]
    exact Quotation.javaScript_undoes_scriptChar.read?_eq s.toList rest
  · rw [scriptQuoted, String.toList_ofList]
    exact Quotation.python_undoes_scriptChar.read?_eq s.toList rest
  · rw [phpQuoted, String.toList_ofList, Quotation.phpQuote_eq]
    exact Quotation.php_undoes_phpChar.read?_eq s.toList rest

end Snippet

end ApiNotes

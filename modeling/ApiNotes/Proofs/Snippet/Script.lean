import ApiNotes.Proofs.Snippet.Shell
import ApiNotes.Proofs.Text.Trim

/-!
# The script that a shell reads

`Shell.script?` reads a script, where `Shell.read?` reads one command: a line feed ends a command,
and a `#` where a word could begin opens a comment that goes on to the end of its line. A text that
is read as one command is a script of that command (`scriptFrom_of_readFrom`), so all that is left
to tell of a snippet for `curl` is its first line.

The comment of a snippet shows the URL as it is. It ends at the first line feed, and so it ends
within the URL if the URL has one; the rest of the URL is then read as a part of the script. A URL
has the line feeds of the base and of the URI that it is made of, so a snippet is one comment and
one command exactly when neither has any (`script?_generate_curl`).
-/

namespace ApiNotes

namespace Shell

/-- A part of a script. -/
inductive Item where
  /-- A comment, without the mark that opens it. -/
  | comment (text : List Char)
  | command (words : List Word)
deriving Repr, DecidableEq

/-- The command that words make, if there are any. -/
def commandOf (words : List Word) : List Item :=
  if words = [] then [] else [.command words]

/-- Where the reading of a script is. -/
inductive Stage where
  /-- In a command, behind its first words, and behind the start of a word if there is one. -/
  | command (mode : Mode) (words : List Word) (word : Option Word)
  | comment (text : List Char)

/-- Where a script starts, and where it goes on behind a line. -/
def Stage.fresh : Stage :=
  .command .unquoted [] none

/-- The parts of a script, of which the first one is being read. -/
def scriptFrom (stage : Stage) : List Char → Option (List Item)
  | [] =>
    match stage with
    | .comment text => some [.comment text]
    | .command mode words word =>
      if mode = .unquoted then some (commandOf (words ++ word.toList)) else none
  | c :: cs =>
    match stage with
    | .comment text =>
      if c = '\n' then (scriptFrom .fresh cs).map (.comment text :: ·)
      else scriptFrom (.comment (text ++ [c])) cs
    | .command .quotes words word =>
      if c = '\'' then scriptFrom (.command .unquoted words word) cs
      else scriptFrom (.command .quotes words (push word .quoted c)) cs
    | .command .backslash words word =>
      if c = '\n' then scriptFrom (.command .unquoted words word) cs
      else scriptFrom (.command .unquoted words (push word .escaped c)) cs
    | .command .unquoted words word =>
      if c = '\'' then scriptFrom (.command .quotes words (some (word.getD []))) cs
      else if c = '\\' then scriptFrom (.command .backslash words word) cs
      else if Text.isGap c then scriptFrom (.command .unquoted (words ++ word.toList) none) cs
      else if c = '\n' then (scriptFrom .fresh cs).map (commandOf (words ++ word.toList) ++ ·)
      else if c = '#' ∧ word.isNone then (scriptFrom (.comment []) cs).map (commandOf words ++ ·)
      else if c ≠ '#' ∧ isOperator c then none
      else scriptFrom (.command .unquoted words (push word .bare c)) cs

/-- The comments and commands of a script, in order. -/
def script? (text : List Char) : Option (List Item) :=
  scriptFrom .fresh text

/-! ### Commands and comments -/

/-- What is read as one command is a script of one command. -/
theorem scriptFrom_of_readFrom {mode : Mode} {word : Option Word} {text : List Char}
    {more : List Word} (h : readFrom mode word text = some more) (words : List Word) :
    scriptFrom (.command mode words word) text = some (commandOf (words ++ more)) := by
  induction text generalizing mode word words more with
  | nil =>
      rw [readFrom] at h
      split at h
      · next hmode =>
        obtain rfl := Option.some.inj h
        rw [scriptFrom]
        exact if_pos hmode
      · cases h
  | cons c cs ih =>
      cases mode with
      | quotes =>
          simp only [readFrom] at h
          simp only [scriptFrom]
          split_ifs at h ⊢ with hquote
          · exact ih h words
          · exact ih h words
      | backslash =>
          simp only [readFrom] at h
          simp only [scriptFrom]
          split_ifs at h ⊢ with hfeed
          · exact ih h words
          · exact ih h words
      | unquoted =>
          simp only [readFrom] at h
          simp only [scriptFrom]
          split_ifs at h with hquote hslash hgap hoperator
          · rw [if_pos hquote]
            exact ih h words
          · rw [if_neg hquote, if_pos hslash]
            exact ih h words
          · obtain ⟨later, hlater, rfl⟩ := Option.map_eq_some_iff.1 h
            rw [if_neg hquote, if_neg hslash, if_pos hgap, ih hlater, List.append_assoc]
          · -- A line feed and the mark of a comment would have been refused.
            have hfeed : c ≠ '\n' := by
              rintro rfl
              exact hoperator (by decide)
            have hmark : c ≠ '#' := by
              rintro rfl
              exact hoperator (by decide)
            rw [if_neg hquote, if_neg hslash, if_neg hgap, if_neg hfeed,
              if_neg fun hcomment => hmark hcomment.1,
              if_neg fun hrefused => hoperator hrefused.2]
            exact ih h words

theorem script?_of_read? {text : List Char} {words : List Word} (h : read? text = some words)
    (hne : words ≠ []) : script? text = some [.command words] := by
  have hscript := scriptFrom_of_readFrom h []
  rwa [List.nil_append, commandOf, if_neg hne] at hscript

theorem scriptFrom_comment {text : List Char} (h : '\n' ∉ text) (before rest : List Char) :
    scriptFrom (.comment before) (text ++ '\n' :: rest) =
      (script? rest).map (.comment (before ++ text) :: ·) := by
  induction text generalizing before with
  | nil => simp [scriptFrom, script?]
  | cons c cs ih =>
      rw [List.mem_cons, not_or] at h
      rw [List.cons_append, scriptFrom]
      simp only [if_neg (Ne.symm h.1)]
      rw [ih h.2, List.append_assoc, List.singleton_append]

/-- A comment goes on to the first line feed, and the script goes on behind it. -/
theorem script?_comment {text : List Char} (h : '\n' ∉ text) (rest : List Char) :
    script? ('#' :: (text ++ '\n' :: rest)) = (script? rest).map (.comment text :: ·) := by
  have hopen : script? ('#' :: (text ++ '\n' :: rest)) =
      scriptFrom (.comment []) (text ++ '\n' :: rest) := by
    simp [script?, Stage.fresh, scriptFrom, Text.isGap, commandOf]
  rw [hopen, scriptFrom_comment h, List.nil_append]

end Shell

/-! ### Line feeds in URLs -/

namespace Uri

/-- The characters that no placeholder is written with are the same in a route. -/
theorem mem_colonForm_iff {c : Char} (hopen : c ≠ '{') (hclose : c ≠ '}') (hcolon : c ≠ ':')
    (inside : Bool) (uri : List Char) : c ∈ colonForm inside uri ↔ c ∈ uri := by
  induction uri generalizing inside with
  | nil => rfl
  | cons d uri ih =>
      rw [colonForm]
      split_ifs with hplace hend
      · rw [List.mem_cons, List.mem_cons, ih, hplace.1]
        simp only [hcolon, hopen, false_or]
      · rw [ih, List.mem_cons, hend.2]
        simp only [hclose, false_or]
      · rw [List.mem_cons, List.mem_cons, ih]

/-- A URL has a line feed exactly where the base or the URI has one. -/
theorem newline_mem_join_route_iff (base uri : String) :
    '\n' ∈ (join base (route uri)).toList ↔ '\n' ∈ base.toList ∨ '\n' ∈ uri.toList := by
  rw [join, route, String.toList_ofList, String.toList_ofList, List.mem_append, List.mem_cons,
    Text.mem_dropEndWhile_iff (by decide), Text.mem_dropWhile_iff (by decide),
    mem_colonForm_iff (by decide) (by decide) (by decide)]
  simp only [show ('\n' = '/') = False by decide, false_or]

end Uri

namespace Snippet

open Shell

variable {r : Request} {first rest : List Char}

/-- What the comment of a snippet for `curl` is meant to say. -/
def requestLine (method : Method) (url : List Char) : List Char :=
  ' ' :: (method.upper.toList ++ ' ' :: url)

/-- The command of a snippet for `curl`, as it is written. -/
def curlCommand (r : Request) : List Char :=
  " \\\n".toList.intercalate ((curlArguments r).map String.toList)

theorem toList_renderCurl (r : Request) :
    (renderCurl r).toList =
      '#' :: (requestLine r.method r.url.toList ++ '\n' :: curlCommand r) := by
  simp [renderCurl, requestLine, curlCommand]

theorem newline_mem_requestLine_iff (method : Method) (url : List Char) :
    '\n' ∈ requestLine method url ↔ '\n' ∈ url := by
  have hmethod : '\n' ∉ method.upper.toList := by cases method <;> decide
  simp [requestLine, hmethod]

theorem script?_curlCommand (r : Request) :
    script? (curlCommand r) = some [.command (curlLines r).flatten] :=
  script?_of_read? (line_intercalate (forall₂_curlLines r)).read?_eq (by simp [curlLines])

/-- Where the URL has no line feed, the comment is the whole first line. -/
theorem script?_renderCurl (h : '\n' ∉ r.url.toList) :
    script? (renderCurl r).toList =
      some [.comment (requestLine r.method r.url.toList), .command (curlLines r).flatten] := by
  have hline := mt (newline_mem_requestLine_iff r.method _).1 h
  rw [toList_renderCurl, script?_comment hline, script?_curlCommand, Option.map_some]

/-- The comment ends at the first line feed of the URL, and the rest of the URL is read as a part
of the script. -/
theorem script?_renderCurl_of_newline (hurl : r.url.toList = first ++ '\n' :: rest)
    (hfirst : '\n' ∉ first) :
    script? (renderCurl r).toList =
      (script? (rest ++ '\n' :: curlCommand r)).map
        (.comment (requestLine r.method first) :: ·) := by
  have hline := mt (newline_mem_requestLine_iff r.method _).1 hfirst
  have hcut : requestLine r.method (first ++ '\n' :: rest) ++ '\n' :: curlCommand r =
      requestLine r.method first ++ '\n' :: (rest ++ '\n' :: curlCommand r) := by
    simp [requestLine]
  rw [toList_renderCurl, hurl, hcut, script?_comment hline]

/-- A snippet for `curl` is a script of one comment with the request line and of the one command
exactly when neither the base nor the URI has a line feed. Where the URL has one, the comment ends
there, and what stands behind it in the URL is read as a part of the script. -/
theorem script?_generate_curl (d : Document) (base : String) :
    (script? (generate d base .curl).toList =
        some [.comment (requestLine d.method (Request.of d base).url.toList),
          .command (curlLines (.of d base)).flatten] ↔
      '\n' ∉ base.toList ∧ '\n' ∉ d.uri.toList) ∧
    ∀ first rest, (Request.of d base).url.toList = first ++ '\n' :: rest → '\n' ∉ first →
      script? (generate d base .curl).toList =
        (script? (rest ++ '\n' :: curlCommand (.of d base))).map
          (.comment (requestLine d.method first) :: ·) := by
  refine ⟨?_, fun first rest hurl hfirst => script?_renderCurl_of_newline hurl hfirst⟩
  have hfeed : '\n' ∉ (Request.of d base).url.toList ↔
      '\n' ∉ base.toList ∧ '\n' ∉ d.uri.toList := by
    rw [← not_or]
    exact not_congr (Uri.newline_mem_join_route_iff base d.uri)
  rw [← hfeed]
  constructor
  · intro hscript hmem
    obtain ⟨first, rest, hurl, hfirst⟩ := List.eq_append_cons_of_mem hmem
    -- The comment that is read has no line feed, and the one that is meant has one.
    obtain ⟨items, -, hitems⟩ := Option.map_eq_some_iff.1
      ((script?_renderCurl_of_newline hurl hfirst).symm.trans hscript)
    have hline : requestLine d.method first = requestLine d.method (Request.of d base).url.toList :=
      Item.comment.inj (List.cons.inj hitems).1
    rw [← newline_mem_requestLine_iff d.method, ← hline, newline_mem_requestLine_iff] at hmem
    exact hfirst hmem
  · exact script?_renderCurl

/-- A base with a line feed: what follows it there is no part of the comment any more. -/
theorem script?_generate_curl_base :
    let d := Document.ofComment "users/\x7bid\x7d" .get true ""
    let base := "http://a\nls"
    ('\n' ∉ "http://a".toList) ∧
    script? (generate d base .curl).toList =
      (script? ("ls/users/:id".toList ++ '\n' :: curlCommand (.of d base))).map
        (.comment " GET http://a".toList :: ·) := by
  intro d base
  have hurl : (Request.of d base).url.toList =
      "http://a".toList ++ '\n' :: "ls/users/:id".toList := by decide
  have hfirst : '\n' ∉ "http://a".toList := by decide
  have hline : requestLine .get "http://a".toList = " GET http://a".toList := by decide
  refine ⟨hfirst, ?_⟩
  rw [(script?_generate_curl d base).2 _ _ hurl hfirst, ← hline]
  rfl

/-- A URI with a line feed: what follows it there is a command of its own. -/
theorem script?_second_command :
    let d := Document.ofComment "/a\nreboot" .get false ""
    script? (generate d "http://localhost" .curl).toList =
      some [.comment " GET http://localhost/a".toList, .command [bareWord "reboot"],
        .command (curlLines (.of d "http://localhost")).flatten] := by
  intro d
  have hurl : (Request.of d "http://localhost").url.toList =
      "http://localhost/a".toList ++ '\n' :: "reboot".toList := by decide
  have hcommand (rest : List Char) : script? ("reboot".toList ++ '\n' :: rest) =
      (script? rest).map (.command [bareWord "reboot"] :: ·) := rfl
  have hline : requestLine .get "http://localhost/a".toList =
      " GET http://localhost/a".toList := by decide
  rw [generate, render, script?_renderCurl_of_newline hurl (by decide), hcommand,
    script?_curlCommand, ← hline]
  rfl

end Snippet

end ApiNotes

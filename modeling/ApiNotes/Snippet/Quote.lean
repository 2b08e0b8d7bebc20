import ApiNotes.Text.Lines

/-!
# Strings in source code

The three ways in which snippets quote a text. All of them put it between single quotes
and differ in what happens to the characters inside.
-/

namespace ApiNotes

namespace Snippet

/-- A character in a string of JavaScript or Python. -/
def scriptChar (c : Char) : List Char :=
  if c = '\\' then ['\\', '\\']
  else if c = '\'' then ['\\', '\'']
  else if c = '\n' then ['\\', 'n']
  else if c = '\r' then ['\\', 'r']
  else [c]

/-- A character, or `new` in the place of the character `old`. -/
def replaceChar (old : Char) (new : List Char) (c : Char) : List Char :=
  if c = old then new else [c]

/-- A character in a quoted word of a shell. A quote closes the quotation, stands for
itself behind a backslash, and opens the quotation again. -/
def shellChar (c : Char) : List Char :=
  replaceChar '\'' ['\'', '\\', '\'', '\''] c

/-- A text between single quotes, with its characters written by `write`. -/
def quoteWith (write : Char → List Char) (text : List Char) : List Char :=
  '\'' :: text.flatMap write ++ ['\'']

/-- A string of JavaScript or Python. -/
def scriptQuoted (s : String) : String :=
  String.ofList (quoteWith scriptChar s.toList)

/-- A text as a string of PHP, where line breaks may stay. Backslashes are doubled first, and
then every quote gets a backslash, which stays single. -/
def phpQuote (text : List Char) : List Char :=
  quoteWith (replaceChar '\'' ['\\', '\'']) (text.flatMap (replaceChar '\\' ['\\', '\\']))

/-- A string of PHP. -/
def phpQuoted (s : String) : String :=
  String.ofList (phpQuote s.toList)

/-- A word of a shell. -/
def shellQuoted (s : String) : String :=
  String.ofList (quoteWith shellChar s.toList)

/-- Indents every line but the first by `n` spaces; empty lines stay empty. -/
def indentContinuation (n : Nat) (s : String) : String :=
  match Text.lines s.toList with
  | [] => ""
  | first :: rest =>
    String.ofList <| Text.joinRows <| first :: rest.map fun line =>
      if line = [] then [] else List.replicate n ' ' ++ line

end Snippet

end ApiNotes

import ApiNotes.Text.Blank

/-!
# Request targets

A request names its target in one of four forms: a path with a query, a whole URL, the
authority of a URL, or an asterisk. Only the path and the query matter for the answer; a
target in the form of an authority has an empty path. A fragment is cut off.
-/

namespace ApiNotes

namespace Site

/-- The path and the query that a request asks for. -/
structure Target where
  path : List Char
  query : List Char
deriving Repr, DecidableEq

/-- The characters that a path admits. -/
def isPathChar (c : Char) : Bool :=
  0x20 < c.toNat && c != '<' && c != '>' && c != '`'

/-- The characters that a query admits. -/
def isQueryChar (c : Char) : Bool :=
  0x20 < c.toNat && c != '<' && c != '>' && c != '"'

/-- The characters that a scheme admits. -/
def isSchemeChar (c : Char) : Bool :=
  c.isAlphanum || c == '+' || c == '-' || c == '.'

/-- The characters that an authority admits, the percent sign apart. -/
def isAuthorityChar (c : Char) : Bool :=
  c.isAlphanum || "!$&'()*+,-.:;=@[]_~".toList.contains c

/-- What was seen of an authority: the colons and the percent signs that may belong to the
host, the brackets, and whether an at sign came last. -/
structure AuthorityScan where
  colons : Nat := 0
  opened : Bool := false
  closed : Bool := false
  percent : Bool := false
  atSign : Bool := false
deriving Repr, DecidableEq

/-- Looks at one more character of an authority. What stands before an at sign or within
brackets does not belong to the port. -/
def AuthorityScan.step? (s : AuthorityScan) (c : Char) : Option AuthorityScan :=
  let s' := { s with atSign := c == '@' }
  if c = ':' then
    if s.colons < 8 then some { s' with colons := s.colons + 1 } else none
  else if c = '[' then
    if s.percent ∨ s.opened then none else some { s' with opened := true }
  else if c = ']' then
    if !s.opened ∨ s.closed then none
    else some { s' with closed := true, colons := 0, percent := false }
  else if c = '@' then some { s' with colons := 0, percent := false }
  else if c = '%' then some { s' with percent := true }
  else if isAuthorityChar c then some s'
  else none

/-- Whether a text is an authority: brackets are paired, at most one colon introduces a
port, percent signs stand in front of the host only, and something follows an at sign. -/
def isAuthority (text : List Char) : Bool :=
  match text.foldlM AuthorityScan.step? {} with
  | none => false
  | some s => s.opened == s.closed && s.colons ≤ 1 && !s.percent && !s.atSign

/-- Whether a character ends an authority. -/
def endsAuthority (c : Char) : Bool :=
  c == '/' || c == '?' || c == '#'

/-- The path and the query of a text that consists of them. -/
def Target.ofPath? (text : List Char) : Option Target :=
  let text := text.takeWhile (· != '#')
  let path := text.takeWhile (· != '?')
  let query := (text.dropWhile (· != '?')).drop 1
  if path.all isPathChar ∧ query.all isQueryChar then some ⟨path, query⟩ else none

/-- The longest scheme that is taken for one. -/
def schemeLimit : Nat :=
  64

/-- The target that a text denotes. The path of a whole URL is never empty. -/
def Target.parse? (text : String) : Option Target :=
  let cs := text.toList
  match cs with
  | [] => none
  | ['*'] => some ⟨['*'], []⟩
  | '/' :: _ => ofPath? cs
  | _ =>
    match cs.dropWhile isSchemeChar with
    | ':' :: '/' :: '/' :: rest =>
      let authority := rest.takeWhile (!endsAuthority ·)
      if schemeLimit < (cs.takeWhile isSchemeChar).length then none
      else if authority = [] ∨ !isAuthority authority then none
      else
        (ofPath? (rest.dropWhile (!endsAuthority ·))).map fun target =>
          if target.path = [] then { target with path := ['/'] } else target
    | _ => if isAuthority cs then some ⟨[], []⟩ else none

end Site

end ApiNotes

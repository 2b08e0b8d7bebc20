import ApiNotes.Url.Path

/-!
# Reading URLs

A URL is read into its parts and written from them; the text that is written is its normal
form. Blanks around a URL and line breaks within it do not count. The schemes `http`,
`https`, `ws`, `wss` and `ftp` are *special*: their slashes may be missing or doubled, the
host must not be empty, and the port that goes without saying is left out. The host of a
file may be empty, and `localhost` is as good as empty. URLs of other schemes without an
authority may have a path of any form.
-/

namespace ApiNotes

/-- The parts of a URL. -/
structure Url where
  scheme : List Char
  /-- What stands behind the double slash: user, host and port. -/
  authority : Option (List Char)
  /-- The path, or any text in its place. -/
  path : List Char
  query : Option (List Char)
  fragment : Option (List Char)
deriving Repr, DecidableEq

namespace Url

/-- The kind of a scheme. -/
def kindOf (scheme : List Char) : Kind :=
  if scheme = "file".toList then .file
  else if ["http", "https", "ws", "wss", "ftp"].any (fun s => s.toList == scheme) then .special
  else .other

/-- The port that goes without saying. -/
def defaultPort? (scheme : List Char) : Option Nat :=
  (List.lookup (String.ofList scheme)
    [("http", 80), ("ws", 80), ("https", 443), ("wss", 443), ("ftp", 21)])

/-- A text without controls and blanks around it, and without tabs and line breaks. -/
def clean (text : List Char) : List Char :=
  let isOutside := fun c : Char => c.toNat ≤ 0x20
  let inner := ((text.dropWhile isOutside).reverse.dropWhile isOutside).reverse
  inner.filter fun c => c != '\t' && c != '\n' && c != '\r'

/-- The scheme of a text, in small letters, and the text behind its colon. -/
def splitScheme? (text : List Char) : Option (List Char × List Char) :=
  let isInside := fun c : Char => c.isAlphanum || c == '+' || c == '-' || c == '.'
  match text.head?, text.dropWhile isInside with
  | some c, ':' :: rest =>
    if c.isAlpha then some ((text.takeWhile isInside).map Char.toLower, rest) else none
  | _, _ => none

/-- The ASCII characters that are escaped in the name and the password of a user. -/
def escapedInUser (c : Char) : Bool :=
  escapedInPath c || "/:;=@[\\]^|".toList.contains c

/-- A user with its password, as written before the host; nothing if both are empty. -/
def userText (user : List Char) : List Char :=
  let name := Text.percentEncode escapedInUser (user.takeWhile (· != ':'))
  let password := Text.percentEncode escapedInUser ((user.dropWhile (· != ':')).drop 1)
  if name = [] ∧ password = [] then []
  else name ++ (if password = [] then [] else ':' :: password) ++ ['@']

/-- What stands before the last at sign, and the rest. -/
def splitUser (authority : List Char) : Option (List Char) × List Char :=
  let host := (authority.reverse.takeWhile (· != '@')).reverse
  if host.length = authority.length then (none, authority)
  else (some (authority.take (authority.length - host.length - 1)), host)

/-- A text up to the first colon outside brackets. -/
def hostLength (inside : Bool) : List Char → Nat
  | [] => 0
  | c :: cs =>
    if c = ':' ∧ !inside then 0
    else hostLength ((inside || c == '[') && c != ']') cs + 1

/-- The port that digits denote; `none` if it need not be written. -/
def port (scheme digits : List Char) : Except Fault (Option Nat) :=
  if digits = [] then .ok none
  else if !digits.all Char.isDigit ∨ 65535 < Text.decimalValue digits then .error .port
  else
    let n := Text.decimalValue digits
    .ok (if defaultPort? scheme = some n then none else some n)

/-- Whether a character ends an authority. -/
def Kind.endsAuthority (kind : Kind) (c : Char) : Bool :=
  kind.isSlash c || endsPath c

/-- The digits of a port. In URLs of other schemes a backslash ends them, too, and begins
the path. -/
def portDigits (text : List Char) : List Char :=
  text.takeWhile (· != '\\')

/-- The authority behind a double slash, and the number of characters that belong to it. -/
def readAuthority (kind : Kind) (scheme text : List Char) : Except Fault (List Char × Nat) := do
  let whole := text.takeWhile (!kind.endsAuthority ·)
  let (user, rest) := splitUser whole
  let written := userText (user.getD [])
  if user = some [] ∧ rest = [] ∧ whole.length < text.length then throw .emptyHost
  let length := hostLength false rest
  let name := rest.take length
  if kind = .special ∧ name = [] then throw .emptyHost
  let host ← if kind = .special then specialHost name else opaqueHost name
  let digits := portDigits (rest.drop (length + 1))
  if host = [] ∧ (length < rest.length ∨ written ≠ []) then throw .emptyHost
  let number ← port scheme digits
  let suffix := match number with
    | none => []
    | some n => ':' :: Text.digits n
  let left := rest.length - (length + 1) - digits.length
  return (written ++ host ++ suffix, whole.length - left)

/-- The ASCII characters that are escaped in a query. -/
def Kind.escapedInQuery (kind : Kind) (c : Char) : Bool :=
  isControl c || " \"#<>".toList.contains c || (kind.isSpecial && c == '\'')

/-- The query and the fragment that follow a path. -/
def Kind.ending (kind : Kind) (text : List Char) : Option (List Char) × Option (List Char) :=
  let rest := text.dropWhile (!endsPath ·)
  let fragment := match rest.dropWhile (· != '#') with
    | [] => none
    | _ :: cs => some (Text.percentEncode escapedInFragment cs)
  let query := match rest with
    | '?' :: cs => some (Text.percentEncode kind.escapedInQuery (cs.takeWhile (· != '#')))
    | _ => none
  (query, fragment)

/-- The path behind an authority. -/
def Kind.pathAfter (kind : Kind) (text : List Char) : List Char :=
  match text with
  | [] => if kind.isSpecial then ['/'] else []
  | c :: cs =>
    if kind.isSlash c then pathText (kind.path cs)
    else if endsPath c ∧ !kind.isSpecial then []
    else pathText (kind.path (c :: cs))

/-- The path of a file that is given without a host and a slash. -/
def filePath (text : List Char) : List Char :=
  pathText (Kind.file.path text)

/-- The host and the path of a file, given what stands behind the double slash. A drive
letter in the place of the host begins the path, and one at the start of the path leaves no
host. -/
def fileHost (text : List Char) : Except Fault (List Char × List Char) := do
  let name := text.takeWhile (!Kind.file.endsAuthority ·)
  let rest := text.dropWhile (!Kind.file.endsAuthority ·)
  if isDriveLetter name then return ([], filePath text)
  let path := Kind.file.pathAfter rest
  if name = [] then return ([], path)
  let host ← specialHost name
  let inner := match rest with
    | c :: cs => if Kind.file.isSlash c then cs else rest
    | [] => []
  if host = "localhost".toList ∨ Kind.file.meetsDrive [] (Kind.file.split inner) then
    return ([], path)
  return (host, path)

/-- The authority and the path of a file. -/
def fileParts (text : List Char) : Except Fault (List Char × List Char) :=
  match text with
  | c :: d :: rest =>
    if Kind.file.isSlash c then
      if Kind.file.isSlash d then fileHost rest else .ok ([], filePath (d :: rest))
    else .ok ([], filePath text)
  | [c] => .ok ([], filePath (if Kind.file.isSlash c then [] else [c]))
  | [] => .ok ([], filePath [])

/-- The authority and the path behind a scheme. -/
def parts (kind : Kind) (scheme text : List Char) :
    Except Fault (Option (List Char) × List Char) :=
  match kind with
  | .file => do
    let (host, path) ← fileParts text
    return (some host, path)
  | .special => do
    let rest := text.dropWhile Kind.special.isSlash
    let (written, length) ← readAuthority .special scheme rest
    return (some written, Kind.special.pathAfter (rest.drop length))
  | .other =>
    match text with
    | '/' :: '/' :: rest => do
      let (written, length) ← readAuthority .other scheme rest
      return (some written, Kind.other.pathAfter (rest.drop length))
    | '/' :: rest => .ok (none, pathText (Kind.other.path rest))
    | _ => .ok (none, Text.percentEncode isControl (text.takeWhile (!endsPath ·)))

/-- The URL that a text denotes. -/
def parse (text : String) : Except Fault Url :=
  match splitScheme? (clean text.toList) with
  | none => .error .relative
  | some (scheme, rest) => do
    let kind := kindOf scheme
    let (authority, path) ← parts kind scheme rest
    let (query, fragment) := kind.ending rest
    return { scheme, authority, path, query, fragment }

/-- The text of a URL. A path that would pass for an authority is kept apart by a dot. -/
def text (url : Url) : String :=
  let start := match url.authority with
    | some authority => ['/', '/'] ++ authority
    | none => if ['/', '/'].isPrefixOf url.path then ['/', '.'] else []
  let query := match url.query with
    | some query => '?' :: query
    | none => []
  let fragment := match url.fragment with
    | some fragment => '#' :: fragment
    | none => []
  String.ofList (url.scheme ++ ':' :: start ++ url.path ++ query ++ fragment)

end Url

end ApiNotes

import ApiNotes.Url.Host

/-!
# Paths of URLs

The path of a URL is read segment by segment. A segment of one dot is left out and one of
two dots takes back the segment before it, but never a drive letter; `%2e` is a dot as well.
In the path of a file, a drive letter in the first place gets a colon, and empty segments at
the start are left out.
-/

namespace ApiNotes

namespace Url

/-- The schemes that are read in ways of their own. -/
inductive Kind where
  | file
  | special
  | other
deriving Repr, DecidableEq

/-- Whether a backslash is a slash. -/
def Kind.isSpecial (kind : Kind) : Bool :=
  kind != .other

/-- Whether a character separates segments. -/
def Kind.isSlash (kind : Kind) (c : Char) : Bool :=
  c == '/' || (kind.isSpecial && c == '\\')

/-- Whether a character ends a path. -/
def endsPath (c : Char) : Bool :=
  c == '?' || c == '#'

/-- The ASCII characters that are escaped in a fragment. -/
def escapedInFragment (c : Char) : Bool :=
  isControl c || " \"<>`".toList.contains c

/-- The ASCII characters that are escaped in a path. -/
def escapedInPath (c : Char) : Bool :=
  escapedInFragment c || "#?\x7b\x7d".toList.contains c

/-- A drive letter: a letter with a colon or a bar. -/
def isDriveLetter : List Char → Bool
  | [c, d] => c.isAlpha && (d == ':' || d == '|')
  | _ => false

/-- Whether a segment stands for the place itself. -/
def isDot (segment : List Char) : Bool :=
  [".", "%2e", "%2E"].any fun s => s.toList == segment

/-- Whether a segment stands for the place above. -/
def isDoubleDot (segment : List Char) : Bool :=
  ["..", ".%2e", ".%2E", "%2e.", "%2E.", "%2e%2e", "%2e%2E", "%2E%2e", "%2E%2E"].any fun s =>
    s.toList == segment

/-- The segments without the last one, unless that is a drive letter; the last segment comes
first. -/
def takeBack : List (List Char) → List (List Char)
  | [] => []
  | segment :: above => if isDriveLetter segment then segment :: above else above

/-- Whether a segment is a drive letter that begins the path of a file. -/
def Kind.startsDrive (kind : Kind) (above : List (List Char)) (segment : List Char) : Bool :=
  kind == .file && above.isEmpty && isDriveLetter segment

/-- A segment as it is kept below the segments `above`. -/
def Kind.segment (kind : Kind) (above : List (List Char)) (segment : List Char) : List Char :=
  if kind.startsDrive above segment then segment.take 1 ++ [':'] else segment

/-- The segments of a path, given those `above`, last one first. -/
def Kind.walk (kind : Kind) (above : List (List Char)) : List (List Char) → List (List Char)
  | [] => above.reverse
  | [segment] =>
    if isDoubleDot segment then (takeBack above).reverse ++ [[]]
    else if isDot segment then above.reverse ++ [[]]
    else above.reverse ++ [kind.segment above segment]
  | segment :: rest =>
    if isDoubleDot segment then kind.walk (takeBack above) rest
    else if isDot segment then kind.walk above rest
    else kind.walk (kind.segment above segment :: above) rest

/-- Whether a drive letter begins the path at some point while it is read. -/
def Kind.meetsDrive (kind : Kind) (above : List (List Char)) : List (List Char) → Bool
  | [] => false
  | segment :: rest =>
    if isDoubleDot segment then kind.meetsDrive (takeBack above) rest
    else if isDot segment then kind.meetsDrive above rest
    else kind.startsDrive above segment ||
      kind.meetsDrive (kind.segment above segment :: above) rest

/-- The segments of a text, up to its query or fragment. -/
def Kind.split (kind : Kind) (text : List Char) : List (List Char) :=
  let path := (text.takeWhile (!endsPath ·)).map fun c => if kind.isSlash c then '/' else c
  (path.splitOn '/').map (Text.percentEncode escapedInPath)

/-- Segments without the empty ones at the start; the last one is kept. -/
def dropEmpty : List (List Char) → List (List Char)
  | [] :: segment :: rest => dropEmpty (segment :: rest)
  | segments => segments

/-- The segments of the path that a text begins with. -/
def Kind.path (kind : Kind) (text : List Char) : List (List Char) :=
  let segments := kind.walk [] (kind.split text)
  if kind = .file then dropEmpty segments else segments

/-- Segments behind slashes. -/
def pathText (segments : List (List Char)) : List Char :=
  segments.flatMap ('/' :: ·)

end Url

end ApiNotes

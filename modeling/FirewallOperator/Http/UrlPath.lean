import FirewallOperator.Http.Percent
import FirewallOperator.Text.CharTable

/-! # Paths of URLs

A path is a row of segments. `resolved` takes out the segments that stand for places: a dot for the
place itself, two dots for the place above. The letter of a drive stays, whatever follows; as the
first segment of a file's path it is written with a colon. -/

namespace FirewallOperator

namespace UrlPath

/-- Whether a character is one of printable ASCII. -/
def isPrintableAscii (c : Char) : Bool := 0x20 < c.toNat && c.toNat < 0x7f

/-- Whether a path holds a character as it is. -/
def inPath (c : Char) : Bool := isPrintableAscii c && !"\"#<>?`\x7b\x7d".contains c

/-- Whether a segment stands for its own place. -/
def isDot (segment : List Char) : Bool :=
  [".", "%2e"].contains (String.ofList (segment.map Char.toLower))

/-- Whether a segment stands for the place above. -/
def isDotDot (segment : List Char) : Bool :=
  ["..", ".%2e", "%2e.", "%2e%2e"].contains (String.ofList (segment.map Char.toLower))

/-- Whether a segment is the letter of a drive. -/
def isDrive (segment : List Char) : Bool :=
  match segment with
  | [letter, sign] => letter.isAlpha && (sign == ':' || sign == '|')
  | _ => false

/-- The place above the one that segments lead to; they are given newest first. -/
def above (done : List (List Char)) : List (List Char) :=
  if done.head?.any isDrive then done else done.tail

/-- A segment that comes behind others, as it is written in the path of a file or of something
else. -/
def written (isFile : Bool) (done : List (List Char)) (segment : List Char) : List Char :=
  if isFile && done.isEmpty && isDrive segment then segment.take 1 ++ [':']
  else percentEncode inPath segment

/-- The segments of a path behind others, which are given newest first, without those that stand for
places. A path that ends with such a segment ends with a slash. -/
def resolved (isFile : Bool) (done : List (List Char)) : List (List Char) → List (List Char)
  | [] => done.reverse
  | segment :: rest =>
    let place := fun done => if rest.isEmpty then [] :: done else done
    if isDotDot segment then resolved isFile (place (above done)) rest
    else if isDot segment then resolved isFile (place done) rest
    else resolved isFile (written isFile done segment :: done) rest

/-- Whether a character separates segments; where files and hosts are looked up, a backslash does
so too. -/
def isSlash (special : Bool) (c : Char) : Bool := c == '/' || (special && c == '\\')

/-- The parts of a text between slashes. -/
def segments (special : Bool) (cs : List Char) : List (List Char) :=
  CharTable.parts '/' (cs.map fun c => if isSlash special c then '/' else c)

/-- The text of segments. -/
def text (segments : List (List Char)) : String := String.ofList (segments.flatMap ('/' :: ·))

/-- The path of a text that follows a host, by default the root where hosts are looked up. -/
def normal (special : Bool) (cs : List Char) : String :=
  match cs with
  | [] => if special then "/" else ""
  | c :: rest => text (resolved false [] (segments special (if isSlash special c then rest else cs)))

/-- The path of segments without empty ones at its front. -/
def trimmed (segments : List (List Char)) : String :=
  match segments.dropWhile List.isEmpty with
  | [] => "/"
  | kept => text kept

end UrlPath

end FirewallOperator

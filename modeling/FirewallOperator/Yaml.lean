import FirewallOperator.Json.Writer

/-! # YAML texts

`Json.yaml` writes a value in block style, two blanks to a level, with the items of a list directly
below its key. A text stands as it is where it cannot be taken for anything else; a text of several
lines is written line by line; all others are quoted. -/

namespace FirewallOperator

namespace Yaml

/-! ## Texts -/

/-- Whether a character may stand in a text that is not quoted with escapes. -/
def isPrintable (c : Char) : Bool :=
  let n := c.toNat
  (0x20 ≤ n && n ≤ 0x7e) || (0xa0 ≤ n && n ≤ 0xd7ff && n != 0x2028 && n != 0x2029)
    || (0xe000 ≤ n && n ≤ 0xfffd && n != 0xfeff) || 0x10000 ≤ n

/-- The words for truth values and for nothing. -/
def words : List String := ["~", "null", "true", "false", "y", "n", "yes", "no", "on", "off"]

/-- Whether a text is one of the words, in small letters, in capitals or with one capital. -/
def isWord (s : String) : Bool :=
  words.any fun w => s == w || s == w.toUpper || s == w.capitalize

/-- Whether a text starts like a number. -/
def startsLikeNumber (cs : List Char) : Bool :=
  let unsigned := match cs with
    | '+' :: rest => rest
    | '-' :: rest => rest
    | _ => cs
  match unsigned with
  | '.' :: c :: _ => c.isDigit || (unsigned.map (·.toLower) ∈ [".inf".toList, ".nan".toList])
  | c :: _ => c.isDigit
  | [] => false

/-- Whether the start of a text would be taken for the start of something else. -/
def startsSpecially : List Char → Bool
  | [] => true
  | c :: rest =>
    c == ' ' || ",[]\x7b\x7d#&*!|>\x27\"%@`".contains c
      || ("-?:".contains c && (rest.isEmpty || rest.head? == some ' '))
      || ["---".toList, "...".toList].contains ((c :: rest).take 3)

/-- Whether a mark inside a text would end it: a colon before a blank or at the end, a number sign
after a blank, or a blank at the end. -/
def endsEarly : List Char → Bool
  | [] => false
  | [c] => c == ':' || c == ' '
  | c :: d :: rest => (c == ':' && d == ' ') || (c == ' ' && d == '#') || endsEarly (d :: rest)

/-- Whether a text can stand as it is. -/
def isPlain (s : String) : Bool :=
  let cs := s.toList
  cs.all isPrintable && !startsSpecially cs && !endsEarly cs && !startsLikeNumber cs && !isWord s

/-- A text on one line: as it is, between single quotes, or with escapes. -/
def inlineText (s : String) : String :=
  if isPlain s then s
  else if s.toList.all isPrintable then
    "\x27" ++ String.ofList (s.toList.flatMap fun c => if c = '\x27' then [c, c] else [c]) ++ "\x27"
  else Json.quote s

/-- The lines of a text that can be written line by line: they are printable, the first one starts
without a blank, and the last one is not empty. -/
def lines? (s : String) : Option (List String) :=
  let lines := s.splitOn "\n"
  let starts := fun l : String => !l.isEmpty && !l.startsWith " "
  if 2 ≤ lines.length && lines.all (·.toList.all isPrintable) && lines.head?.any starts
      && !lines.getLast?.any String.isEmpty then some lines else none

/-! ## Values -/

/-- How a value is laid out. -/
inductive Layout where
  /-- On one line, behind its key or dash. -/
  | inline (text : String)
  /-- As the lines of a text. -/
  | text (lines : List String)
  /-- As items, one below the other. -/
  | items (lines : List String)
  /-- As members, one below the other. -/
  | members (lines : List String)

/-- A line one level deeper. Empty lines stay empty. -/
def indent (line : String) : String := if line.isEmpty then line else "  " ++ line

/-- The layout of a text. -/
def textLayout (s : String) : Layout := ((lines? s).map .text).getD (.inline (inlineText s))

namespace Layout

/-- The lines of a value behind a key. -/
def behindKey (key : String) : Layout → List String
  | .inline s => [key ++ ": " ++ s]
  | .text ls => (key ++ ": |-") :: ls.map indent
  -- items need no indentation: their dashes tell them from members
  | .items ls => (key ++ ":") :: ls
  | .members ls => (key ++ ":") :: ls.map indent

/-- Lines of which the first stands behind a dash. -/
def dashed : List String → List String
  | [] => []
  | first :: rest => ("- " ++ first) :: rest.map indent

/-- The lines of a value behind a dash. -/
def behindDash : Layout → List String
  | .inline s => ["- " ++ s]
  | .text ls => "- |-" :: ls.map indent
  | .items ls => dashed ls
  | .members ls => dashed ls

/-- The lines of a value that stands alone. -/
def lines : Layout → List String
  | .inline s => [s]
  | .text ls => "|-" :: ls.map indent
  | .items ls => ls
  | .members ls => ls

end Layout

mutual

/-- The layout of a value. -/
def layout : Json → Layout
  | .str s => textLayout s
  | .arr [] => .inline "[]"
  | .arr items => .items (itemLines items)
  | .obj [] => .inline "\x7b\x7d"
  | .obj members => .members (memberLines members)
  | j => .inline j.compact

/-- The lines of items. -/
def itemLines : List Json → List String
  | [] => []
  | j :: rest => (layout j).behindDash ++ itemLines rest

/-- The lines of members. -/
def memberLines : List (String × Json) → List String
  | [] => []
  | (key, j) :: rest => (layout j).behindKey (inlineText key) ++ memberLines rest

end

end Yaml

/-- A value as YAML, each line ended. -/
def Json.yaml (j : Json) : String := String.join ((Yaml.layout j).lines.map (· ++ "\n"))

end FirewallOperator

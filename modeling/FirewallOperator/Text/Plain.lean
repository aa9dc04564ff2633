/-! # Texts without control sequences

A terminal takes an escape character and what follows it for a command. `shownText` leaves out
those sequences, ended or not, and all other controls but blanks and line breaks: what is left is
what a terminal would show, and what is written when there is no terminal.

A line break or tab inside of a sequence is shown, and so is what follows it up to the next control;
only then does the sequence go on. -/

namespace FirewallOperator

/-- Where in a control sequence a text is. -/
inductive ControlSequence where
  | outside
  /-- After the escape character. -/
  | started
  /-- After the escape character and signs that name a set of commands. -/
  | command
  /-- In the parameters of a control sequence. -/
  | control
  /-- At the start of a device control string. -/
  | device
  /-- In the parameters of a device control string. -/
  | deviceParameters
  /-- After signs that follow the parameters of a device control string. -/
  | deviceSigns
  /-- In a string for the device or for an application. -/
  | payload
  /-- In a string for the operating system. -/
  | systemPayload
  deriving DecidableEq, Repr

namespace ControlSequence

/-- Whether a number lies between two others. -/
def within (low high n : Nat) : Bool := low ≤ n && n ≤ high

/-- Where a text is after a character that belongs to a sequence. A character beyond ASCII ends a
string when one of its bytes is the control that ends strings. -/
def next (s : ControlSequence) (c : Char) : ControlSequence :=
  let n := c.toNat
  if n = 0x18 ∨ n = 0x1a then outside
  else if n = 0x1b then started
  else
    match s with
    | outside => outside
    | started =>
      if within 0x20 0x2f n then command
      else if c = '[' then control
      else if c = ']' then systemPayload
      else if c = 'P' then device
      else if c = 'X' || c = '^' || c = '_' then payload
      else if within 0x30 0x7e n then outside
      else started
    | command => if within 0x30 0x7e n then outside else command
    | control => if within 0x40 0x7e n then outside else control
    | device =>
      if within 0x20 0x2f n then deviceSigns
      else if within 0x30 0x3f n then deviceParameters
      else if within 0x40 0x7e n then payload
      else device
    | deviceParameters =>
      if within 0x20 0x2f n then deviceSigns
      else if within 0x3c 0x7e n then payload
      else deviceParameters
    | deviceSigns => if within 0x30 0x7e n then payload else deviceSigns
    | payload => if (String.utf8EncodeChar c).contains 0x9c then outside else payload
    | systemPayload => if n = 0x07 then outside else systemPayload

/-- Whether blanks are shown, which are carried out inside of a sequence but not inside of a
string. -/
def showsBlanks : ControlSequence → Bool
  | outside | started | command | control => true
  | _ => false

end ControlSequence

/-- Whether a control is shown. -/
def isShownBlank (c : Char) : Bool := c == '\t' || c == '\n' || c == '\x0c' || c == '\r'

/-- Whether a character of ASCII is shown outside of sequences. -/
def isShownAscii (c : Char) : Bool := ControlSequence.within 0x20 0x7e c.toNat || isShownBlank c

/-- The characters that are shown. While `showing`, characters are not taken for a part of the
sequence that the text is in. -/
def shownChars (s : ControlSequence) (showing : Bool) : List Char → List Char
  | [] => []
  | c :: cs =>
    if s = .outside || showing then
      if c.toNat ≥ 0x80 then c :: shownChars .outside true cs
      else if isShownAscii c then c :: shownChars s true cs
      else shownChars (s.next c) false cs
    else if s.showsBlanks && isShownBlank c then c :: shownChars s true cs
    else shownChars (s.next c) false cs

/-- A text without control sequences. -/
def shownText (s : String) : String := String.ofList (shownChars .outside false s.toList)

end FirewallOperator

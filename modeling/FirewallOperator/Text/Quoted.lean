import FirewallOperator.Text.Extender
import FirewallOperator.Text.Hex
import FirewallOperator.Text.Unprintable

/-! # Quoted texts

`quoted s` writes a text between quotes so that nothing in it can be mistaken for the quote that
ends it, and so that nothing invisible stays invisible: the quote and the backslash are escaped,
as are extenders and characters without a shape. `listed` and `commaSeparated` put written items in
a row. -/

namespace FirewallOperator

/-- The characters that stand for one character between quotes. -/
def quotedChar (c : Char) : List Char :=
  if c = '"' then ['\\', '"']
  else if c = '\\' then ['\\', '\\']
  else if c = '\n' then ['\\', 'n']
  else if c = '\r' then ['\\', 'r']
  else if c = '\t' then ['\\', 't']
  else if c = '\x00' then ['\\', '0']
  else if isExtender c || isUnprintable c then
    '\\' :: 'u' :: '\x7b' :: hexNumeral c.toNat ++ ['\x7d']
  else [c]

/-- A text between quotes. -/
def quoted (s : String) : String := String.ofList ('"' :: s.toList.flatMap quotedChar ++ ['"'])

/-- A quoted text is its characters, each as it is quoted, between quotes. -/
@[simp] theorem toList_quoted (s : String) :
    (quoted s).toList = '"' :: s.toList.flatMap quotedChar ++ ['"'] := by
  simp [quoted]

/-- Items with a comma and a space between them. -/
def commaSeparated : List String → String
  | [] => ""
  | [x] => x
  | x :: rest => x ++ ", " ++ commaSeparated rest

/-- Items between brackets. -/
def listed (items : List String) : String := "[" ++ commaSeparated items ++ "]"

/-- Texts, each between quotes, in a list. -/
def quotedList (texts : List String) : String := listed (texts.map quoted)

end FirewallOperator

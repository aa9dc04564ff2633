/-! # UTF-8 bytes of a text

`utf8 s` is the byte sequence that encodes `s`; it is what digests are taken of, what percent
encoding escapes and what positions inside a line are counted in. -/

namespace FirewallOperator

/-- The UTF-8 encoding of a text. -/
def utf8 (s : String) : List UInt8 := s.toList.flatMap String.utf8EncodeChar

/-- The empty text has no bytes. -/
@[simp] theorem utf8_empty : utf8 "" = [] := rfl

/-- The bytes of texts follow one another like the texts. -/
@[simp] theorem utf8_append (s t : String) : utf8 (s ++ t) = utf8 s ++ utf8 t := by
  simp [utf8]

/-- The number of bytes that encode the given characters. -/
def utf8Length (cs : List Char) : Nat := cs.foldr (fun c n => c.utf8Size + n) 0

/-- No characters take no bytes. -/
@[simp] theorem utf8Length_nil : utf8Length [] = 0 := rfl

/-- The bytes of a first character come to those of the rest. -/
@[simp] theorem utf8Length_cons (c : Char) (cs : List Char) :
    utf8Length (c :: cs) = c.utf8Size + utf8Length cs := rfl

end FirewallOperator

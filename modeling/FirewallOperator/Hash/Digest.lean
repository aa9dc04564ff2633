import FirewallOperator.Hash.Sha256
import FirewallOperator.Text.Hex
import FirewallOperator.Text.Utf8

/-! # Short digests

`digest` names a text by sixteen hexadecimal digits. It depends on nothing but the text, so digests
taken by different runs of the program can be compared. -/

namespace FirewallOperator

/-- The first eight bytes of the SHA-256 of a text, in hexadecimal. -/
def digest (text : String) : String :=
  String.ofList (((Sha256.hash (utf8 text)).take 8).flatMap hexByte)

/-- A digest always has sixteen characters. -/
theorem length_digest (text : String) : (digest text).length = 16 := by
  simp [digest, List.length_flatMap, List.map_const', Sha256.length_hash]

end FirewallOperator

import FirewallOperator.Text.Mark

/-! # Characters that extend the one before

The characters with the Unicode property `Grapheme_Extend`: combining marks, joiners and variation
selectors, which have no place of their own in a line of text. The two half-width voicing marks do
have one, and do not count. -/

namespace FirewallOperator

/-- The ranges of extenders that are not among the marks without room of their own. -/
def otherExtenderRanges : List (Nat × Nat) :=
  [(0x09be, 0x09be), (0x09d7, 0x09d7), (0x0b3e, 0x0b3e), (0x0b57, 0x0b57), (0x0bbe, 0x0bbe),
   (0x0bd7, 0x0bd7), (0x0cc0, 0x0cc0), (0x0cc2, 0x0cc2), (0x0cc7, 0x0cc8), (0x0cca, 0x0ccb),
   (0x0cd5, 0x0cd6), (0x0d3e, 0x0d3e), (0x0d57, 0x0d57), (0x0dcf, 0x0dcf), (0x0ddf, 0x0ddf),
   (0x1715, 0x1715), (0x1734, 0x1734), (0x1b35, 0x1b35), (0x1b3b, 0x1b3b), (0x1b3d, 0x1b3d),
   (0x1b43, 0x1b44), (0x1baa, 0x1baa), (0x1bf2, 0x1bf3), (0x200c, 0x200c), (0x302e, 0x302f),
   (0xa953, 0xa953), (0xa9c0, 0xa9c0), (0x111c0, 0x111c0), (0x11235, 0x11235), (0x1133e, 0x1133e),
   (0x1134d, 0x1134d), (0x11357, 0x11357), (0x113b8, 0x113b8), (0x113c2, 0x113c2),
   (0x113c5, 0x113c5), (0x113c7, 0x113c9), (0x113cf, 0x113cf), (0x114b0, 0x114b0),
   (0x114bd, 0x114bd), (0x115af, 0x115af), (0x116b6, 0x116b6), (0x11930, 0x11930),
   (0x1193d, 0x1193d), (0x11f41, 0x11f41), (0x16ff0, 0x16ff1), (0x1d165, 0x1d166),
   (0x1d16d, 0x1d172), (0xe0020, 0xe007f)]

/-- Whether a character only extends the one before it. -/
def isExtender (c : Char) : Bool := isNonspacing c || inRanges c.toNat otherExtenderRanges

/-- No character of ASCII is an extender. -/
theorem isExtender_of_ascii {c : Char} (h : c.toNat < 0x80) : isExtender c = false := by
  rw [isExtender, isNonspacing_of_ascii h, Bool.false_or]
  exact inRanges_of_lt (show c.toNat < 0x9be by omega)

end FirewallOperator

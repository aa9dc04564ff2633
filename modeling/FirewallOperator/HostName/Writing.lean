import FirewallOperator.Text.CharTable
import FirewallOperator.Text.Mark

/-! # Writing directions

A host name that holds letters written from right to left can be shown in an order that misleads.
`isDirected` is the rule that keeps each label of such a name together: it starts with a letter,
holds only what goes with the direction of that letter, and ends with a letter or a number. -/

namespace FirewallOperator

namespace HostName

/-- How a character takes part in the direction of a text. -/
inductive Writing where
  /-- It is written from left to right. -/
  | fromLeft
  /-- It is written from right to left. -/
  | fromRight
  /-- It is a digit of the numbers of ASCII. -/
  | digit
  /-- It is a digit of Arabic numbers. -/
  | arabicDigit
  /-- It is a mark on the character before it. -/
  | mark
  /-- It goes with what is around it. -/
  | neutral
  deriving DecidableEq, Repr

/-- The directions of characters that are not written from left to right and are no marks, and of
those marks that do have a direction. -/
def writingLines : List String :=
  ["0-2f:n 30-39:e 3a-60:n 7b-d7:n f7:n 2b9-2ba:n 2c2-2cf:n 2d2-2ed:n 2ef-2ff:n 375:n 3f6:n",
   "58a-58f:n 5be:r 5c0:r 5c3:r 5c6:r 5d0-5f4:r 606-607:n 608:r 609-60a:n 60b:r 60c:n 60d:r",
   "60e-60f:n 61b-64a:r 660-669:a 66a:n 66b-66c:a 66d-66f:r 671-6d5:r 6de:n 6e5-6e6:r 6e9:n",
   "6ee-6ef:r 6f0-6f9:e 6fa-710:r 712-72f:r 74d-7a5:r 7b1-7ea:r 7f4-7f5:r 7f6-7f9:n 7fa:r",
   "7fe-815:r 81a:r 824:r 828:r 830-858:r 85e-88f:r 8a0-8c9:r 9f2-9f3:n 9fb:n af1:n bf3-bfa:n",
   "c78-c7e:n cbf:l cc6:l e3f:n f3a-f3d:n 1390-1399:n 1400:n 169b-169c:n 17db:n 17f0-180a:n",
   "1940-1945:n 19de-19ff:n 200c-20c1:n 2104-214d:n 218a-2335:n 237b-2394:n 2396-26ab:n",
   "26ad-27ff:n 2900-2bff:n 2ce5-2cea:n 2cf9-2cff:n 2e00-3004:n 3008-3020:n 3030:n 3037:n",
   "303d-303f:n 30a0:n 30fb:n 31c0-31e5:n 4dc0-4dff:n a490-a4c6:n a60d-a60f:n a673:n a67e-a67f:n",
   "a700-a721:n a788:n a828-a82b:n a838-a839:n a874-a877:n ab6a-ab6b:n fbb2-fbc2:r fbc3-fdff:n",
   "fe45-fe46:n fe73:r 10101:n 10140-1018c:n 10190-101a0:n 102e1-102fb:e 10800-1091b:r 1091f:n",
   "10920-10a00:r 10a10-10a35:r 10a40-10ae4:r 10aeb-10b35:r 10b39-10b3f:n 10b40-10d23:r",
   "10d30-10d49:a 10d4a-10d4f:r 10d6e:n 10d6f-10d8f:r 10e60-10e7e:a 10e80-10ea9:r 10ead-10ec7:r",
   "10ed0-10ed8:n 10f00-10f45:r 10f51-10f81:r 10f86-10ff6:r 11052-11065:n 11660-1166c:n",
   "11a07-11a08:l 11c3f:l 11fd5-11ff1:n 16fe2:n 1cc00-1cef0:n 1d1e9-1d241:n 1d245:n 1d300-1d356:n",
   "1e2ff:n 1e800-1e8cf:r 1e922-1e943:r 1e94b-1ed3d:r 1eef0-1f12f:n 1f16d-1f16f:n 1f1ad:n",
   "1f260-1fbfa:n"]

/-- The table of directions. -/
def writingTable : List CharSpan := CharTable.read writingLines

/-- The direction of a character. -/
def writing (c : Char) : Writing :=
  match CharTable.find? c.toNat writingTable with
  | some s =>
    match s.remark with
    | [_, 'r'] => .fromRight
    | [_, 'e'] => .digit
    | [_, 'a'] => .arabicDigit
    | [_, 'n'] => .neutral
    | _ => .fromLeft
  | none => if isNonspacing c then .mark else .fromLeft

/-- Whether a character is written from right to left, be it a letter or a digit. -/
def isFromRight (c : Char) : Bool := writing c == .fromRight || writing c == .arabicDigit

/-- Whether a label keeps to the direction of its first character. -/
def isDirected (label : List Char) : Bool :=
  let ds := label.map writing
  let last := (ds.reverse.dropWhile (· == .mark)).head?.getD .neutral
  match ds with
  | [] => true
  | .fromLeft :: _ =>
    (last == .fromLeft || last == .digit)
      && ds.all fun d => d != .fromRight && d != .arabicDigit
  | .fromRight :: _ =>
    (last == .fromRight || last == .digit || last == .arabicDigit)
      && ds.all (· != .fromLeft) && !(ds.contains .digit && ds.contains .arabicDigit)
  | _ => false

end HostName

end FirewallOperator

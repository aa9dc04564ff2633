import FirewallOperator.HostName.Composition
import FirewallOperator.Text.Mark

/-! # Joiners

Two characters that cannot be seen say whether the letters beside them are joined. A host name may
hold them only where they make a difference: behind a sign that takes the vowel from a consonant,
or, for the one that keeps letters apart, between letters that would be joined. -/

namespace FirewallOperator

namespace HostName

/-- How a letter is joined with its neighbours. -/
inductive Joining where
  /-- With the letter after it. -/
  | onward
  /-- With the letter before it. -/
  | backward
  | both
  /-- It does not come between the letters beside it. -/
  | passed
  | neither
  deriving DecidableEq, Repr

/-- The letters that are joined, and what is passed without being a mark. -/
def joiningLines : List String :=
  ["620:d 622-625:r 626:d 627:r 628:d 629:r 62a-62e:d 62f-632:r 633-63f:d 641-647:d 648:r",
   "649-64a:d 66e-66f:d 671-673:r 679-687:d 688-699:r 69a-6bf:d 6c0:r 6c1-6c2:d 6c3-6cb:r 6cc:d",
   "6cd:r 6ce:d 6cf:r 6d0-6d1:d 6d2-6d3:r 6d5:r 6ee-6ef:r 6fa-6fc:d 6ff:d 710:r 712-714:d",
   "715-719:r 71a-71d:d 71e:r 71f-727:d 728:r 729:d 72a:r 72b:d 72c:r 72d-72e:d 72f:r 74d:r",
   "74e-758:d 759-75b:r 75c-76a:d 76b-76c:r 76d-770:d 771:r 772:d 773-774:r 775-777:d 778-779:r",
   "77a-77f:d 7ca-7ea:d 840:r 841-845:d 846-847:r 848:d 849:r 84a-853:d 854:r 855:d 856-858:r",
   "860:d 862-865:d 867:r 868:d 869-882:r 886:d 889-88d:d 88e:r 88f:d 8a0-8a9:d 8aa-8ac:r 8ae:r",
   "8af-8b0:d 8b1-8b2:r 8b3-8b8:d 8b9:r 8ba-8c8:d 1807:d 1820-1878:d 1887-18a8:d 18aa:d",
   "a840-a871:d a872:l 10ac0-10ac4:d 10ac5:r 10ac7:r 10ac9-10aca:r 10acd:l 10ace-10ad2:r",
   "10ad3-10ad6:d 10ad7:l 10ad8-10adc:d 10add:r 10ade-10ae0:d 10ae1:r 10ae4:r 10aeb-10aee:d",
   "10aef:r 10b80:d 10b81:r 10b82:d 10b83-10b85:r 10b86-10b88:d 10b89:r 10b8a-10b8b:d 10b8c:r",
   "10b8d:d 10b8e-10b8f:r 10b90:d 10b91:r 10ba9-10bac:r 10bad-10bae:d 10d00:l 10d01-10d21:d",
   "10d22:r 10d23:d 10ec2:r 10ec3-10ec4:d 10ec6-10ec7:d 10f30-10f32:d 10f33:r 10f34-10f44:d",
   "10f51-10f53:d 10f54:r 10f70-10f73:d 10f74-10f75:r 10f76-10f81:d 10fb0:d 10fb2-10fb3:d",
   "10fb4-10fb6:r 10fb8:d 10fb9-10fba:r 10fbb-10fbc:d 10fbd:r 10fbe-10fbf:d 10fc1:d 10fc2-10fc3:r",
   "10fc4:d 10fc9:r 10fca:d 10fcb:l 1e922-1e943:d 1e94b:t"]

/-- The table of joined letters. -/
def joiningTable : List CharSpan := CharTable.read joiningLines

/-- How a character is joined. -/
def joining (c : Char) : Joining :=
  match CharTable.find? c.toNat joiningTable with
  | some s =>
    match s.remark with
    | [_, 'l'] => .onward
    | [_, 'r'] => .backward
    | [_, 'd'] => .both
    | [_, 't'] => .passed
    | _ => .neither
  | none => if isNonspacing c then .passed else .neither

/-- The character that keeps letters apart. -/
def separator : Char := '\u200c'

/-- The character that joins letters. -/
def joiner : Char := '\u200d'

/-- The class of the marks that take the vowel from a consonant. -/
def vowelKiller : Nat := 9

/-- Whether the first character that is not passed is joined in one of two ways. -/
def meets (way : Joining) (cs : List Char) : Bool :=
  match (cs.map joining).dropWhile (· == .passed) with
  | j :: _ => j == way || j == .both
  | [] => false

/-- Whether the joiners of a text are in their places. The characters before it are given, newest
first. -/
def isJoined (before : List Char) : List Char → Bool
  | [] => true
  | c :: cs =>
    let killed := (before.head?.map combiningClass) == some vowelKiller
    let allowed :=
      if c == separator then killed || (meets .onward before && meets .backward cs)
      else if c == joiner then killed
      else true
    allowed && isJoined (c :: before) cs

end HostName

end FirewallOperator

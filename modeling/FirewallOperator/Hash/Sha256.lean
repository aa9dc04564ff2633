/-! # SHA-256

The hash function of FIPS 180-4 on byte sequences. `Sha256.hash` pads a message to whole blocks of
sixteen words (`Sha256.padded`), expands each block into a schedule of sixty-four words
(`Sha256.schedule`) and folds the compression function over the blocks. -/

namespace FirewallOperator.Sha256

/-- The eight words that the compression function works on. -/
structure State where
  a : UInt32
  b : UInt32
  c : UInt32
  d : UInt32
  e : UInt32
  f : UInt32
  g : UInt32
  h : UInt32
  deriving DecidableEq, Repr

/-- The words that hashing starts from: the fractional parts of the square roots of the first eight
primes. -/
def initial : State :=
  ⟨0x6a09e667, 0xbb67ae85, 0x3c6ef372, 0xa54ff53a, 0x510e527f, 0x9b05688c, 0x1f83d9ab, 0x5be0cd19⟩

/-- The constant added in each of the sixty-four rounds: the fractional parts of the cube roots of
the first sixty-four primes. -/
def roundConstants : List UInt32 :=
  [0x428a2f98, 0x71374491, 0xb5c0fbcf, 0xe9b5dba5, 0x3956c25b, 0x59f111f1, 0x923f82a4, 0xab1c5ed5,
   0xd807aa98, 0x12835b01, 0x243185be, 0x550c7dc3, 0x72be5d74, 0x80deb1fe, 0x9bdc06a7, 0xc19bf174,
   0xe49b69c1, 0xefbe4786, 0x0fc19dc6, 0x240ca1cc, 0x2de92c6f, 0x4a7484aa, 0x5cb0a9dc, 0x76f988da,
   0x983e5152, 0xa831c66d, 0xb00327c8, 0xbf597fc7, 0xc6e00bf3, 0xd5a79147, 0x06ca6351, 0x14292967,
   0x27b70a85, 0x2e1b2138, 0x4d2c6dfc, 0x53380d13, 0x650a7354, 0x766a0abb, 0x81c2c92e, 0x92722c85,
   0xa2bfe8a1, 0xa81a664b, 0xc24b8b70, 0xc76c51a3, 0xd192e819, 0xd6990624, 0xf40e3585, 0x106aa070,
   0x19a4c116, 0x1e376c08, 0x2748774c, 0x34b0bcb5, 0x391c0cb3, 0x4ed8aa4a, 0x5b9cca4f, 0x682e6ff3,
   0x748f82ee, 0x78a5636f, 0x84c87814, 0x8cc70208, 0x90befffa, 0xa4506ceb, 0xbef9a3f7, 0xc67178f2]

/-! ## Padding -/

/-- The given number of bytes of `n`, most significant first. -/
def bigEndian (count n : Nat) : List UInt8 :=
  (List.range count).reverse.map fun i => UInt8.ofNat (n >>> (8 * i))

/-- A number is written in as many bytes as are asked for. -/
@[simp] theorem length_bigEndian (count n : Nat) : (bigEndian count n).length = count := by
  simp [bigEndian]

/-- The message, a one bit, zeros up to eight bytes short of a whole block, and the message's length
in bits. -/
def padded (message : List UInt8) : List UInt8 :=
  message ++ 0x80 :: List.replicate ((119 - message.length % 64) % 64) 0
    ++ bigEndian 8 (8 * message.length)

/-- A padded message is a whole number of blocks of sixty-four bytes. -/
theorem length_padded_mod (message : List UInt8) : (padded message).length % 64 = 0 := by
  simp [padded]; omega

/-- The big-endian words of a byte sequence; a last incomplete word is dropped. -/
def words : List UInt8 → List UInt32
  | a :: b :: c :: d :: rest =>
    (a.toUInt32 <<< 24 ||| b.toUInt32 <<< 16 ||| c.toUInt32 <<< 8 ||| d.toUInt32) :: words rest
  | _ => []

/-- Words in groups of sixteen. -/
def blocks (ws : List UInt32) : List (List UInt32) :=
  (List.range (ws.length / 16)).map fun i => (ws.drop (16 * i)).take 16

/-! ## Compression -/

/-- Rotation to the right. -/
def rotate (n : UInt32) (x : UInt32) : UInt32 := x >>> n ||| x <<< (32 - n)

/-- The schedule's next word in front of the words so far, which stand newest first. -/
def extend (ws : List UInt32) : List UInt32 :=
  let x := ws.getD 14 0
  let y := ws.getD 1 0
  let low := rotate 7 x ^^^ rotate 18 x ^^^ x >>> 3
  let high := rotate 17 y ^^^ rotate 19 y ^^^ y >>> 10
  (ws.getD 15 0 + low + ws.getD 6 0 + high) :: ws

/-- The sixty-four words that a block of sixteen supplies to the rounds. -/
def schedule (block : List UInt32) : List UInt32 := (Nat.repeat extend 48 block.reverse).reverse

/-- One round, with the round's constant and scheduled word already added up. -/
def round (s : State) (input : UInt32) : State :=
  let choice := (s.e &&& s.f) ^^^ (~~~s.e &&& s.g)
  let majority := (s.a &&& s.b) ^^^ (s.a &&& s.c) ^^^ (s.b &&& s.c)
  let t := s.h + (rotate 6 s.e ^^^ rotate 11 s.e ^^^ rotate 25 s.e) + choice + input
  let u := (rotate 2 s.a ^^^ rotate 13 s.a ^^^ rotate 22 s.a) + majority
  ⟨t + u, s.a, s.b, s.c, s.d + t, s.e, s.f, s.g⟩

/-- The state after one more block. -/
def compress (s : State) (block : List UInt32) : State :=
  let t := (List.zipWith (· + ·) roundConstants (schedule block)).foldl round s
  ⟨s.a + t.a, s.b + t.b, s.c + t.c, s.d + t.d, s.e + t.e, s.f + t.f, s.g + t.g, s.h + t.h⟩

/-- The words of a state in order. -/
def State.toList (s : State) : List UInt32 := [s.a, s.b, s.c, s.d, s.e, s.f, s.g, s.h]

/-- The thirty-two bytes that a message hashes to. -/
def hash (message : List UInt8) : List UInt8 :=
  let final := (blocks (words (padded message))).foldl compress initial
  final.toList.flatMap fun w => bigEndian 4 w.toNat

/-- Every message has a hash of 32 bytes. -/
theorem length_hash (message : List UInt8) : (hash message).length = 32 := by
  simp [hash, State.toList]

end FirewallOperator.Sha256

import Mathlib.Algebra.Group.Nat.Defs
import Mathlib.Data.List.Basic

/-!
# The MD5 message digest

Words are natural numbers below `2 ^ 32`.  A message is padded to whole blocks
of 64 bytes, and each block is mixed into a state of four words in 64 rounds.
-/

namespace StorageAppliance.Library.Md5

/-- The four words of the digest. -/
structure Digest where
  a : Nat
  b : Nat
  c : Nat
  d : Nat
deriving DecidableEq

/-- The additive constants of the rounds, from the sine function. -/
def constants : List Nat :=
  [0xd76aa478, 0xe8c7b756, 0x242070db, 0xc1bdceee,
    0xf57c0faf, 0x4787c62a, 0xa8304613, 0xfd469501,
    0x698098d8, 0x8b44f7af, 0xffff5bb1, 0x895cd7be,
    0x6b901122, 0xfd987193, 0xa679438e, 0x49b40821,
    0xf61e2562, 0xc040b340, 0x265e5a51, 0xe9b6c7aa,
    0xd62f105d, 0x02441453, 0xd8a1e681, 0xe7d3fbc8,
    0x21e1cde6, 0xc33707d6, 0xf4d50d87, 0x455a14ed,
    0xa9e3e905, 0xfcefa3f8, 0x676f02d9, 0x8d2a4c8a,
    0xfffa3942, 0x8771f681, 0x6d9d6122, 0xfde5380c,
    0xa4beea44, 0x4bdecfa9, 0xf6bb4b60, 0xbebfbc70,
    0x289b7ec6, 0xeaa127fa, 0xd4ef3085, 0x04881d05,
    0xd9d4d039, 0xe6db99e5, 0x1fa27cf8, 0xc4ac5665,
    0xf4292244, 0x432aff97, 0xab9423a7, 0xfc93a039,
    0x655b59c3, 0x8f0ccc92, 0xffeff47d, 0x85845dd1,
    0x6fa87e4f, 0xfe2ce6e0, 0xa3014314, 0x4e0811a1,
    0xf7537e82, 0xbd3af235, 0x2ad7d2bb, 0xeb86d391]

/-- The rotations, four for each sixteen rounds. -/
def rotations : List Nat :=
  [7, 12, 17, 22, 5, 9, 14, 20, 4, 11, 16, 23, 6, 10, 15, 21]

def add (left right : Nat) : Nat :=
  (left + right) % 2 ^ 32

def complement (word : Nat) : Nat :=
  word ^^^ (2 ^ 32 - 1)

def rotate (word amount : Nat) : Nat :=
  (word <<< amount) % 2 ^ 32 ||| word >>> (32 - amount)

/-- The mixing function of a round, and the word of the block that it takes. -/
def mix (state : Digest) (round : Nat) : Nat × Nat :=
  match round / 16 with
  | 0 =>
      ((state.b &&& state.c) ||| (complement state.b &&& state.d), round)
  | 1 =>
      ((state.d &&& state.b) ||| (complement state.d &&& state.c),
        (5 * round + 1) % 16)
  | 2 => (state.b ^^^ state.c ^^^ state.d, (3 * round + 5) % 16)
  | _ => (state.c ^^^ (state.b ||| complement state.d), 7 * round % 16)

/-- One round. -/
def oneRound (words : List Nat) (state : Digest) (round : Nat) : Digest :=
  let (mixed, index) := mix state round
  let sum :=
    add (add mixed state.a)
      (add (constants.getD round 0) (words.getD index 0))
  let amount := rotations.getD (round / 16 * 4 + round % 4) 0
  { a := state.d
    b := add state.b (rotate sum amount)
    c := state.b
    d := state.c }

/-- A word, from its least significant byte on. -/
def word (bytes : List UInt8) : Nat :=
  bytes.foldr (fun byte rest => byte.toNat + 256 * rest) 0

/-- The least significant bytes of a number. -/
def littleEndian : Nat → Nat → List UInt8
  | 0, _ => []
  | count + 1, number =>
      UInt8.ofNat number :: littleEndian count (number / 256)

/-- Mix a block into the state. -/
def block (state : Digest) (bytes : List UInt8) : Digest :=
  let words :=
    (List.range 16).map fun index => word ((bytes.drop (4 * index)).take 4)
  let mixed := (List.range 64).foldl (oneRound words) state
  { a := add state.a mixed.a
    b := add state.b mixed.b
    c := add state.c mixed.c
    d := add state.d mixed.d }

/-- Mix a number of blocks into the state. -/
def blocks : Nat → Digest → List UInt8 → Digest
  | 0, state, _ => state
  | count + 1, state, bytes =>
      blocks count (block state (bytes.take 64)) (bytes.drop 64)

/-- The message with its padding and its length in bits. -/
def pad (message : List UInt8) : List UInt8 :=
  message ++ 0x80 :: List.replicate ((119 - message.length % 64) % 64) 0 ++
    littleEndian 8 (8 * message.length)

/-- The digest of a message. -/
def sum (message : List UInt8) : List UInt8 :=
  let padded := pad message
  let start : Digest := ⟨0x67452301, 0xefcdab89, 0x98badcfe, 0x10325476⟩
  let final := blocks (padded.length / 64) start padded
  littleEndian 4 final.a ++ littleEndian 4 final.b ++
    littleEndian 4 final.c ++ littleEndian 4 final.d

example :
    sum [97, 98, 99] =
      [0x90, 0x01, 0x50, 0x98, 0x3c, 0xd2, 0x4f, 0xb0,
        0xd6, 0x96, 0x3f, 0x7d, 0x28, 0xe1, 0x7f, 0x72] := by
  decide +kernel

end StorageAppliance.Library.Md5

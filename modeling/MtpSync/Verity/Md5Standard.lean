import Mathlib.Algebra.Group.Nat.Defs
import MtpSync.Lib.Absorb

/-!
# The MD5 message digest

The digest as RFC 1321 defines it, on lists of bytes: the message is padded to whole blocks of 64
bytes and its length in bits is appended, four words are run through four rounds of sixteen steps
for each block, and the digest is the four words at the end.

- §1 bytes and words
- §2 the steps of a block
- §3 padding and digest
-/

namespace MtpSync

abbrev Byte := BitVec 8

abbrev Word := BitVec 32

namespace Md5Standard

/-! ## §1 Bytes and words -/

/-- The `k`-th word of a block, low-order byte first. -/
def word (block : List Byte) (k : ℕ) : Word :=
  .ofNat 32 ((block.getD (4 * k) 0).toNat + 2 ^ 8 * (block.getD (4 * k + 1) 0).toNat +
    2 ^ 16 * (block.getD (4 * k + 2) 0).toNat + 2 ^ 24 * (block.getD (4 * k + 3) 0).toNat)

/-- The `n` low-order bytes of a number, the lowest first. -/
def lowBytes (n x : ℕ) : List Byte := (List.range n).map fun j => .ofNat 8 (x / 2 ^ (8 * j))

/-! ## §2 The steps of a block -/

/-- The four-word buffer. -/
structure Registers where
  A : Word
  B : Word
  C : Word
  D : Word
  deriving DecidableEq

/-- The auxiliary function of the `i`-th step. -/
def auxiliary (i : ℕ) (X Y Z : Word) : Word :=
  match i / 16 with
  | 0 => (X &&& Y) ||| (~~~X &&& Z)
  | 1 => (X &&& Z) ||| (Y &&& ~~~Z)
  | 2 => X ^^^ Y ^^^ Z
  | _ => Y ^^^ (X ||| ~~~Z)

/-- Which word of the block the `i`-th step adds. -/
def wordIndex (i : ℕ) : ℕ :=
  match i / 16 with
  | 0 => i % 16
  | 1 => (5 * i + 1) % 16
  | 2 => (3 * i + 5) % 16
  | _ => 7 * i % 16

/-- By how many bits the `i`-th step rotates. -/
def rotation (i : ℕ) : ℕ :=
  match i / 16 with
  | 0 => [7, 12, 17, 22].getD (i % 4) 0
  | 1 => [5, 9, 14, 20].getD (i % 4) 0
  | 2 => [4, 11, 16, 23].getD (i % 4) 0
  | _ => [6, 10, 15, 21].getD (i % 4) 0

/-- The integer parts of `2 ^ 32 * |sin i|` for `i` from 1 to 64, in radians. -/
def sineTable : List Word :=
  [
    0xd76aa478, 0xe8c7b756, 0x242070db, 0xc1bdceee,
    0xf57c0faf, 0x4787c62a, 0xa8304613, 0xfd469501,
    0x698098d8, 0x8b44f7af, 0xffff5bb1, 0x895cd7be,
    0x6b901122, 0xfd987193, 0xa679438e, 0x49b40821,
    0xf61e2562, 0xc040b340, 0x265e5a51, 0xe9b6c7aa,
    0xd62f105d, 0x02441453, 0xd8a1e681, 0xe7d3fbc8,
    0x21e1cde6, 0xc33707d6, 0xf4d50d87, 0x455a14ed,
    0xa9e3e905, 0xfcefa3f8, 0x676f02d9, 0x8d2a4c8a,
    0xfffa3942, 0x8771f681, 0x6d9d6122, 0xfde5380c,
    0xa4beea44, 0x4bdecfa9, 0xf6bb4b60, 0xbebfbc70,
    0x289b7ec6, 0xeaa127fa, 0xd4ef3085, 0x04881d05,
    0xd9d4d039, 0xe6db99e5, 0x1fa27cf8, 0xc4ac5665,
    0xf4292244, 0x432aff97, 0xab9423a7, 0xfc93a039,
    0x655b59c3, 0x8f0ccc92, 0xffeff47d, 0x85845dd1,
    0x6fa87e4f, 0xfe2ce6e0, 0xa3014314, 0x4e0811a1,
    0xf7537e82, 0xbd3af235, 0x2ad7d2bb, 0xeb86d391
  ]

/-- The `i`-th step: three words move on, the fourth is computed. -/
def step (X : ℕ → Word) (r : Registers) (i : ℕ) : Registers where
  A := r.D
  B := r.B + (r.A + auxiliary i r.B r.C r.D + X (wordIndex i) + sineTable.getD i 0).rotateLeft
    (rotation i)
  C := r.B
  D := r.C

/-- One block. -/
def compress (r : Registers) (block : List Byte) : Registers :=
  let r' := (List.range 64).foldl (step (word block)) r
  ⟨r.A + r'.A, r.B + r'.B, r.C + r'.C, r.D + r'.D⟩

/-! ## §3 Padding and digest -/

/-- The words before the first block. -/
def initial : Registers := ⟨0x67452301, 0xefcdab89, 0x98badcfe, 0x10325476⟩

/-- One bit, and zeros until eight bytes are missing to whole blocks. -/
def padding (len : ℕ) : List Byte := 0x80 :: List.replicate ((119 - len % 64) % 64) 0

/-- The message as it is processed: padded, with its length in bits modulo `2 ^ 64`. -/
def pad (msg : List Byte) : List Byte :=
  msg ++ padding msg.length ++ lowBytes 8 (8 * msg.length)

/-- **The digest** of a message. -/
def digest (msg : List Byte) : List Byte :=
  let r := (absorb 64 compress initial (pad msg)).1
  lowBytes 4 r.A.toNat ++ lowBytes 4 r.B.toNat ++ lowBytes 4 r.C.toNat ++ lowBytes 4 r.D.toNat

/-- Two lowercase hexadecimal digits for each byte. -/
def hex (bytes : List Byte) : String :=
  .ofList (bytes.flatMap fun b => [Nat.digitChar (b.toNat / 16), Nat.digitChar (b.toNat % 16)])

/-- A padded message is made of whole blocks. -/
theorem length_pad (msg : List Byte) : (pad msg).length % 64 = 0 := by
  simp only [pad, padding, lowBytes, List.length_append, List.length_cons, List.length_replicate,
    List.length_map, List.length_range]
  omega

end Md5Standard

end MtpSync

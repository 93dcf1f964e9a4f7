import MtpSync.Verity.Md5Standard

/-!
# The MD5 object

`MD5` of `MyMd5.cpp`: an object takes a message in by `update`, in pieces of any length, and
`digest` gives the digest of what it has taken in so far.  Lengths and indices are `uint32` where
the source has them so.

- §1 the object
- §2 `transform`
- §3 `update`
- §4 `final`, `digest` and `toString`

A call that reads past the end of its input or never returns gives `none`.  The overloads of
`update` and the constructors with an input call the `update` modelled here.
-/

namespace MtpSync

/-! ## §1 The object -/

structure MD5 where
  _state : Vector Word 4
  /-- number of bits, modulo `2 ^ 64`, low-order word first -/
  _count : Vector Word 2
  _buffer : Vector Byte 64
  _digest : List Byte
  _finished : Bool

namespace MD5

/-- `memcpy(&_buffer[index], input, …)`. -/
def memcpy (buffer : Vector Byte 64) (index : ℕ) (input : List Byte) : Vector Byte 64 :=
  .ofFn fun j =>
    if index ≤ j ∧ j < index + input.length then input.getD (j - index) 0 else buffer.get j

/-- `encode`: four bytes for each word. -/
def encode (input : List Word) : List Byte :=
  input.flatMap fun w =>
    [.setWidth 8 (w &&& 0xff), .setWidth 8 ((w >>> 8) &&& 0xff), .setWidth 8 ((w >>> 16) &&& 0xff),
      .setWidth 8 ((w >>> 24) &&& 0xff)]

/-- `decode`: the `i`-th word. -/
def decode (input : List Byte) (i : ℕ) : Word :=
  (input.getD (4 * i) 0).setWidth 32 ||| (input.getD (4 * i + 1) 0).setWidth 32 <<< 8 |||
    (input.getD (4 * i + 2) 0).setWidth 32 <<< 16 ||| (input.getD (4 * i + 3) 0).setWidth 32 <<< 24

/-- `reset`; the constructors call it on an object that holds anything. -/
def reset (m : MD5) : MD5 where
  _state := #v[0x67452301, 0xefcdab89, 0x98badcfe, 0x10325476]
  _count := #v[0, 0]
  _buffer := m._buffer
  _digest := m._digest
  _finished := false

/-! ## §2 `transform` -/

def S11 : ℕ := 7
def S12 : ℕ := 12
def S13 : ℕ := 17
def S14 : ℕ := 22
def S21 : ℕ := 5
def S22 : ℕ := 9
def S23 : ℕ := 14
def S24 : ℕ := 20
def S31 : ℕ := 4
def S32 : ℕ := 11
def S33 : ℕ := 16
def S34 : ℕ := 23
def S41 : ℕ := 6
def S42 : ℕ := 10
def S43 : ℕ := 15
def S44 : ℕ := 21

def F (x y z : Word) : Word := (x &&& y) ||| (~~~x &&& z)

def G (x y z : Word) : Word := (x &&& z) ||| (y &&& ~~~z)

def H (x y z : Word) : Word := x ^^^ y ^^^ z

def I (x y z : Word) : Word := y ^^^ (x ||| ~~~z)

def ROTATE_LEFT (x : Word) (n : ℕ) : Word := (x <<< n) ||| (x >>> (32 - n))

/-- The local variables of `transform`. -/
inductive Var where
  | a | b | c | d
  deriving DecidableEq

/-- The macros of the four rounds. -/
inductive Macro where
  | FF | GG | HH | II
  deriving DecidableEq

/-- One line of `transform`, such as `FF(a, b, c, d, x[0], S11, 0xd76aa478)`. -/
structure Line where
  f : Macro
  a : Var
  b : Var
  c : Var
  d : Var
  x : ℕ
  s : ℕ
  ac : Word
  deriving DecidableEq

/-- The values of the local variables. -/
structure Locals where
  a : Word
  b : Word
  c : Word
  d : Word

def Locals.get (v : Locals) : Var → Word
  | .a => v.a
  | .b => v.b
  | .c => v.c
  | .d => v.d

def Locals.set (v : Locals) (x : Var) (w : Word) : Locals :=
  match x with
  | .a => { v with a := w }
  | .b => { v with b := w }
  | .c => { v with c := w }
  | .d => { v with d := w }

/-- The function a macro is made with. -/
def Macro.fn : Macro → Word → Word → Word → Word
  | .FF => F
  | .GG => G
  | .HH => H
  | .II => I

/-- What a line does: `a += fn(b, c, d) + x + ac`, `a = ROTATE_LEFT(a, s)`, `a += b`. -/
def Line.run (x : ℕ → Word) (v : Locals) (l : Line) : Locals :=
  let a := v.get l.a + (l.f.fn (v.get l.b) (v.get l.c) (v.get l.d) + x l.x + l.ac)
  v.set l.a (ROTATE_LEFT a l.s + v.get l.b)

/-- The lines of `transform`. -/
def rounds : List Line :=
  [
    -- Round 1
    ⟨.FF, .a, .b, .c, .d, 0, S11, 0xd76aa478⟩,
    ⟨.FF, .d, .a, .b, .c, 1, S12, 0xe8c7b756⟩,
    ⟨.FF, .c, .d, .a, .b, 2, S13, 0x242070db⟩,
    ⟨.FF, .b, .c, .d, .a, 3, S14, 0xc1bdceee⟩,
    ⟨.FF, .a, .b, .c, .d, 4, S11, 0xf57c0faf⟩,
    ⟨.FF, .d, .a, .b, .c, 5, S12, 0x4787c62a⟩,
    ⟨.FF, .c, .d, .a, .b, 6, S13, 0xa8304613⟩,
    ⟨.FF, .b, .c, .d, .a, 7, S14, 0xfd469501⟩,
    ⟨.FF, .a, .b, .c, .d, 8, S11, 0x698098d8⟩,
    ⟨.FF, .d, .a, .b, .c, 9, S12, 0x8b44f7af⟩,
    ⟨.FF, .c, .d, .a, .b, 10, S13, 0xffff5bb1⟩,
    ⟨.FF, .b, .c, .d, .a, 11, S14, 0x895cd7be⟩,
    ⟨.FF, .a, .b, .c, .d, 12, S11, 0x6b901122⟩,
    ⟨.FF, .d, .a, .b, .c, 13, S12, 0xfd987193⟩,
    ⟨.FF, .c, .d, .a, .b, 14, S13, 0xa679438e⟩,
    ⟨.FF, .b, .c, .d, .a, 15, S14, 0x49b40821⟩,
    -- Round 2
    ⟨.GG, .a, .b, .c, .d, 1, S21, 0xf61e2562⟩,
    ⟨.GG, .d, .a, .b, .c, 6, S22, 0xc040b340⟩,
    ⟨.GG, .c, .d, .a, .b, 11, S23, 0x265e5a51⟩,
    ⟨.GG, .b, .c, .d, .a, 0, S24, 0xe9b6c7aa⟩,
    ⟨.GG, .a, .b, .c, .d, 5, S21, 0xd62f105d⟩,
    ⟨.GG, .d, .a, .b, .c, 10, S22, 0x2441453⟩,
    ⟨.GG, .c, .d, .a, .b, 15, S23, 0xd8a1e681⟩,
    ⟨.GG, .b, .c, .d, .a, 4, S24, 0xe7d3fbc8⟩,
    ⟨.GG, .a, .b, .c, .d, 9, S21, 0x21e1cde6⟩,
    ⟨.GG, .d, .a, .b, .c, 14, S22, 0xc33707d6⟩,
    ⟨.GG, .c, .d, .a, .b, 3, S23, 0xf4d50d87⟩,
    ⟨.GG, .b, .c, .d, .a, 8, S24, 0x455a14ed⟩,
    ⟨.GG, .a, .b, .c, .d, 13, S21, 0xa9e3e905⟩,
    ⟨.GG, .d, .a, .b, .c, 2, S22, 0xfcefa3f8⟩,
    ⟨.GG, .c, .d, .a, .b, 7, S23, 0x676f02d9⟩,
    ⟨.GG, .b, .c, .d, .a, 12, S24, 0x8d2a4c8a⟩,
    -- Round 3
    ⟨.HH, .a, .b, .c, .d, 5, S31, 0xfffa3942⟩,
    ⟨.HH, .d, .a, .b, .c, 8, S32, 0x8771f681⟩,
    ⟨.HH, .c, .d, .a, .b, 11, S33, 0x6d9d6122⟩,
    ⟨.HH, .b, .c, .d, .a, 14, S34, 0xfde5380c⟩,
    ⟨.HH, .a, .b, .c, .d, 1, S31, 0xa4beea44⟩,
    ⟨.HH, .d, .a, .b, .c, 4, S32, 0x4bdecfa9⟩,
    ⟨.HH, .c, .d, .a, .b, 7, S33, 0xf6bb4b60⟩,
    ⟨.HH, .b, .c, .d, .a, 10, S34, 0xbebfbc70⟩,
    ⟨.HH, .a, .b, .c, .d, 13, S31, 0x289b7ec6⟩,
    ⟨.HH, .d, .a, .b, .c, 0, S32, 0xeaa127fa⟩,
    ⟨.HH, .c, .d, .a, .b, 3, S33, 0xd4ef3085⟩,
    ⟨.HH, .b, .c, .d, .a, 6, S34, 0x4881d05⟩,
    ⟨.HH, .a, .b, .c, .d, 9, S31, 0xd9d4d039⟩,
    ⟨.HH, .d, .a, .b, .c, 12, S32, 0xe6db99e5⟩,
    ⟨.HH, .c, .d, .a, .b, 15, S33, 0x1fa27cf8⟩,
    ⟨.HH, .b, .c, .d, .a, 2, S34, 0xc4ac5665⟩,
    -- Round 4
    ⟨.II, .a, .b, .c, .d, 0, S41, 0xf4292244⟩,
    ⟨.II, .d, .a, .b, .c, 7, S42, 0x432aff97⟩,
    ⟨.II, .c, .d, .a, .b, 14, S43, 0xab9423a7⟩,
    ⟨.II, .b, .c, .d, .a, 5, S44, 0xfc93a039⟩,
    ⟨.II, .a, .b, .c, .d, 12, S41, 0x655b59c3⟩,
    ⟨.II, .d, .a, .b, .c, 3, S42, 0x8f0ccc92⟩,
    ⟨.II, .c, .d, .a, .b, 10, S43, 0xffeff47d⟩,
    ⟨.II, .b, .c, .d, .a, 1, S44, 0x85845dd1⟩,
    ⟨.II, .a, .b, .c, .d, 8, S41, 0x6fa87e4f⟩,
    ⟨.II, .d, .a, .b, .c, 15, S42, 0xfe2ce6e0⟩,
    ⟨.II, .c, .d, .a, .b, 6, S43, 0xa3014314⟩,
    ⟨.II, .b, .c, .d, .a, 13, S44, 0x4e0811a1⟩,
    ⟨.II, .a, .b, .c, .d, 4, S41, 0xf7537e82⟩,
    ⟨.II, .d, .a, .b, .c, 11, S42, 0xbd3af235⟩,
    ⟨.II, .c, .d, .a, .b, 2, S43, 0x2ad7d2bb⟩,
    ⟨.II, .b, .c, .d, .a, 9, S44, 0xeb86d391⟩
  ]

/-- `transform`, on the state. -/
def transform (_state : Vector Word 4) (block : List Byte) : Vector Word 4 :=
  let v := rounds.foldl (Line.run (decode block)) ⟨_state[0], _state[1], _state[2], _state[3]⟩
  #v[_state[0] + v.a, _state[1] + v.b, _state[2] + v.c, _state[3] + v.d]

/-- The state as the words of the standard. -/
def registersOf (_state : Vector Word 4) : Md5Standard.Registers :=
  ⟨_state[0], _state[1], _state[2], _state[3]⟩

theorem registersOf_transform {_state : Vector Word 4} {block : List Byte} {v : Locals}
    (h : rounds.foldl (Line.run (decode block))
      ⟨_state[0], _state[1], _state[2], _state[3]⟩ = v) :
    registersOf (transform _state block) =
      ⟨(registersOf _state).A + v.a, (registersOf _state).B + v.b, (registersOf _state).C + v.c,
        (registersOf _state).D + v.d⟩ := by
  subst h
  rfl

/-! ## §3 `update` -/

/-- The loop over the whole blocks of the input, from `i` on; the fuel is more than it takes when
it ends.  A block that is not all in the input is read past its end. -/
def transformLoop (input : List Byte) : ℕ → Word → Vector Word 4 → Option (Word × Vector Word 4)
  | 0, _, _ => none
  | fuel + 1, i, _state =>
    if (i + 63).toNat < input.length then
      if i.toNat + 64 ≤ input.length then
        transformLoop input fuel (i + 64) (transform _state ((input.drop i.toNat).take 64))
      else none
    else some (i, _state)

/-- Number of bytes mod 64. -/
def index (m : MD5) : Word := (m._count[0] >>> 3) &&& 0x3f

/-- The number of bytes that wait. -/
theorem index_toNat (m : MD5) : m.index.toNat = m._count[0].toNat / 8 % 64 := by
  rw [index, BitVec.toNat_and, BitVec.toNat_ushiftRight, Nat.shiftRight_eq_div_pow]
  exact Nat.and_two_pow_sub_one_eq_mod _ 6

theorem index_lt (m : MD5) : m.index.toNat < 64 := by
  rw [index_toNat]
  exact Nat.mod_lt _ (by decide)

/-- The number of bits after `length` more bytes. -/
def addCount (_count : Vector Word 2) (length : ℕ) : Vector Word 2 :=
  let bits := BitVec.ofNat 32 length <<< 3
  let low := _count[0] + bits
  let high := if low < bits then _count[1] + 1 else _count[1]
  #v[low, high + BitVec.ofNat 32 length >>> 29]

/-- The number of bits the object has counted. -/
def bitCount (_count : Vector Word 2) : ℕ := _count[0].toNat + 2 ^ 32 * _count[1].toNat

theorem bits_toNat {len : ℕ} (h : len < 2 ^ 32) :
    (BitVec.ofNat 32 len <<< 3).toNat = 8 * len % 2 ^ 32 := by
  rw [BitVec.toNat_shiftLeft, BitVec.toNat_ofNat, Nat.mod_eq_of_lt h, Nat.shiftLeft_eq,
    Nat.mul_comm]

theorem addCount_low (_count : Vector Word 2) {len : ℕ} (h : len < 2 ^ 32) :
    (addCount _count len)[0].toNat = (_count[0].toNat + 8 * len % 2 ^ 32) % 2 ^ 32 := by
  rw [← bits_toNat h]
  exact BitVec.toNat_add _ _

/-- The index moves on by the bytes that are put into the buffer. -/
theorem addCount_index (m : MD5) {len : ℕ} (h : len < 2 ^ 32) :
    (addCount m._count len)[0].toNat / 8 % 64 = (m.index.toNat + len) % 64 := by
  rw [index_toNat, addCount_low _ h]
  omega

/-- `update`. -/
def update (m : MD5) (input : List Byte) : Option MD5 :=
  let index := m.index
  let partLen := 64 - index
  let _count := addCount m._count input.length
  if partLen.toNat ≤ input.length then do
    let _buffer := memcpy m._buffer index.toNat (input.take partLen.toNat)
    let (i, _state) ← transformLoop input (input.length + 1) partLen
      (transform m._state _buffer.toList)
    some { m with
      _state := _state
      _count := _count
      _buffer := memcpy _buffer 0 (input.drop i.toNat)
      _finished := false }
  else
    some { m with
      _count := _count
      _buffer := memcpy m._buffer index.toNat input
      _finished := false }

/-! ## §4 `final`, `digest` and `toString` -/

def PADDING : List Byte := 0x80 :: List.replicate 63 0

/-- How many bytes of `PADDING` are added. -/
def padLen (m : MD5) : Word := if m.index < 56 then 56 - m.index else 120 - m.index

/-- `final`: the digest is that of the padded message; state and count are restored. -/
def final (m : MD5) : Option MD5 := do
  let bits := encode m._count.toList
  let m₁ ← update m (PADDING.take m.padLen.toNat)
  let m₂ ← update m₁ bits
  some { m₂ with
    _state := m._state
    _count := m._count
    _digest := encode m₂._state.toList }

/-- `digest`: the digest and the object after it. -/
def digest (m : MD5) : Option (List Byte × MD5) :=
  if m._finished then some (m._digest, m)
  else do
    let m' ← final { m with _finished := true }
    some (m'._digest, m')

def HEX : List Char :=
  ['0', '1', '2', '3', '4', '5', '6', '7', '8', '9', 'a', 'b', 'c', 'd', 'e', 'f']

/-- `bytesToHexString`. -/
def bytesToHexString (input : List Byte) : String :=
  .ofList (input.flatMap fun t => [HEX.getD (t.toNat / 16) '0', HEX.getD (t.toNat % 16) '0'])

/-- `toString`. -/
def toString (m : MD5) : Option (String × MD5) := do
  let (bytes, m') ← digest m
  some (bytesToHexString bytes, m')

end MD5

end MtpSync

import Mathlib.Data.List.GetD
import MtpSync.Verity.MyMd5

/-!
# The MD5 object computes the MD5 digest

However a message is cut into pieces, the object holds the words after its whole blocks, the
number of its bits and the bytes that wait for more.

- §1 bytes and words
- §2 `transform` runs the steps of a block
- §3 what the object holds
- §4 `update` takes a piece in
- §5 `final` pads
-/

namespace MtpSync

namespace MD5

open Md5Standard

/-! ## §1 Bytes and words -/

/-- A byte put above a number of fewer bits adds up with it. -/
private theorem or_shift_toNat {x : Word} {b : Byte} {k : ℕ} (hx : x.toNat < 2 ^ k)
    (hk : k ≤ 24) : (x ||| b.setWidth 32 <<< k).toNat = x.toNat + 2 ^ k * b.toNat := by
  have hb : b.toNat < 2 ^ 8 := b.isLt
  have hwide : (b.setWidth 32).toNat = b.toNat := by
    rw [BitVec.toNat_setWidth]
    exact Nat.mod_eq_of_lt (by omega)
  have hlt : b.toNat <<< k < 2 ^ 32 := by
    rw [Nat.shiftLeft_eq]
    calc b.toNat * 2 ^ k ≤ b.toNat * 2 ^ 24 :=
          Nat.mul_le_mul_left _ (Nat.pow_le_pow_right (by decide) hk)
      _ < 2 ^ 32 := by omega
  have hshift : (b.setWidth 32 <<< k).toNat = b.toNat <<< k := by
    rw [BitVec.toNat_shiftLeft, hwide, Nat.mod_eq_of_lt hlt]
  rw [BitVec.toNat_or, hshift, Nat.or_comm, ← Nat.shiftLeft_add_eq_or_of_lt hx, Nat.shiftLeft_eq,
    Nat.add_comm, Nat.mul_comm]

/-- Four bytes that do not overlap. -/
private theorem or_shifts_toNat (b₀ b₁ b₂ b₃ : Byte) :
    (b₀.setWidth 32 ||| b₁.setWidth 32 <<< 8 ||| b₂.setWidth 32 <<< 16 |||
      b₃.setWidth 32 <<< 24 : Word).toNat =
      b₀.toNat + 2 ^ 8 * b₁.toNat + 2 ^ 16 * b₂.toNat + 2 ^ 24 * b₃.toNat := by
  have h₀ : b₀.toNat < 2 ^ 8 := b₀.isLt
  have h₁ : b₁.toNat < 2 ^ 8 := b₁.isLt
  have h₂ : b₂.toNat < 2 ^ 8 := b₂.isLt
  have hfirst : (b₀.setWidth 32).toNat = b₀.toNat := by
    rw [BitVec.toNat_setWidth]
    exact Nat.mod_eq_of_lt (by omega)
  have hsecond : (b₀.setWidth 32 ||| b₁.setWidth 32 <<< 8 : Word).toNat =
      b₀.toNat + 2 ^ 8 * b₁.toNat := by
    rw [or_shift_toNat (by omega) (by decide), hfirst]
  have hthird : (b₀.setWidth 32 ||| b₁.setWidth 32 <<< 8 ||| b₂.setWidth 32 <<< 16 : Word).toNat =
      b₀.toNat + 2 ^ 8 * b₁.toNat + 2 ^ 16 * b₂.toNat := by
    rw [or_shift_toNat (by omega) (by decide), hsecond]
  rw [or_shift_toNat (by omega) (by decide), hthird]

/-- The words of a block are those of the standard. -/
theorem decode_eq (block : List Byte) : decode block = word block := by
  funext i
  apply BitVec.eq_of_toNat_eq
  rw [decode, or_shifts_toNat, word, BitVec.toNat_ofNat]
  have h₀ := (block.getD (4 * i) 0).isLt
  have h₁ := (block.getD (4 * i + 1) 0).isLt
  have h₂ := (block.getD (4 * i + 2) 0).isLt
  have h₃ := (block.getD (4 * i + 3) 0).isLt
  omega

/-- Four bytes of each word, the lowest first. -/
theorem encode_eq (input : List Word) :
    encode input = input.flatMap fun w => lowBytes 4 w.toNat := by
  have hbyte : ∀ (w : Word) (k : ℕ),
      BitVec.setWidth 8 ((w >>> k) &&& 0xff) = BitVec.ofNat 8 (w.toNat / 2 ^ k) := by
    intro w k
    apply BitVec.eq_of_toNat_eq
    have hand : ((w >>> k) &&& 0xff : Word).toNat = w.toNat / 2 ^ k % 2 ^ 8 := by
      rw [BitVec.toNat_and, BitVec.toNat_ushiftRight, Nat.shiftRight_eq_div_pow]
      exact Nat.and_two_pow_sub_one_eq_mod _ 8
    rw [BitVec.toNat_setWidth, hand, BitVec.toNat_ofNat, Nat.mod_mod]
  have hfirst : ∀ w : Word, (w &&& 0xff : Word) = (w >>> 0) &&& 0xff := fun w => by
    rw [BitVec.ushiftRight_zero]
  rw [encode]
  congr 1
  funext w
  rw [hfirst, hbyte, hbyte, hbyte, hbyte]
  rfl

/-! ## §2 `transform` -/

/-- The variables in the order the `i`-th line uses them. -/
private def lineVars (i : ℕ) : Var × Var × Var × Var :=
  match i % 4 with
  | 0 => (.a, .b, .c, .d)
  | 1 => (.d, .a, .b, .c)
  | 2 => (.c, .d, .a, .b)
  | _ => (.b, .c, .d, .a)

private def lineMacro (i : ℕ) : Macro :=
  match i / 16 with
  | 0 => .FF
  | 1 => .GG
  | 2 => .HH
  | _ => .II

/-- The `i`-th line, as the standard has its step. -/
private def line (i : ℕ) : Line where
  f := lineMacro i
  a := (lineVars i).1
  b := (lineVars i).2.1
  c := (lineVars i).2.2.1
  d := (lineVars i).2.2.2
  x := wordIndex i
  s := rotation i
  ac := sineTable.getD i 0

/-- **The sixty-four lines** are the steps of the standard. -/
private theorem rounds_eq : rounds = (List.range 64).map line := by decide

/-- The four words before the `i`-th line, in the order of the standard. -/
private def registers (i : ℕ) (v : Locals) : Registers :=
  ⟨v.get (lineVars i).1, v.get (lineVars i).2.1, v.get (lineVars i).2.2.1,
    v.get (lineVars i).2.2.2⟩

private theorem lineMacro_fn (i : ℕ) : (lineMacro i).fn = auxiliary i := by
  funext X Y Z
  rw [lineMacro, auxiliary]
  generalize i / 16 = round
  match round with
  | 0 => rfl
  | 1 => rfl
  | 2 => rfl
  | _ + 3 => rfl

private theorem rotation_lt {i : ℕ} (h : i < 64) : rotation i < 32 := by
  revert i
  decide

private theorem ROTATE_LEFT_eq (x : Word) {n : ℕ} (h : n < 32) :
    ROTATE_LEFT x n = x.rotateLeft n := by
  rw [ROTATE_LEFT, BitVec.rotateLeft_def, Nat.mod_eq_of_lt h]

/-- The variables move on by one with each line. -/
private theorem lineVars_succ (i : ℕ) : lineVars (i + 1) =
    ((lineVars i).2.2.2, (lineVars i).1, (lineVars i).2.1, (lineVars i).2.2.1) := by
  have hmod : i % 4 = 0 ∧ (i + 1) % 4 = 1 ∨ i % 4 = 1 ∧ (i + 1) % 4 = 2 ∨
      i % 4 = 2 ∧ (i + 1) % 4 = 3 ∨ i % 4 = 3 ∧ (i + 1) % 4 = 0 := by omega
  rcases hmod with ⟨h, h'⟩ | ⟨h, h'⟩ | ⟨h, h'⟩ | ⟨h, h'⟩ <;> simp only [lineVars, h, h']

/-- A line changes its first variable only. -/
private theorem get_set (v : Locals) (x y : Var) (w : Word) :
    (v.set x w).get y = if y = x then w else v.get y := by
  cases x <;> cases y <;> rfl

/-- The variables of a line are four. -/
private theorem lineVars_distinct (i : ℕ) :
    (lineVars i).2.1 ≠ (lineVars i).1 ∧ (lineVars i).2.2.1 ≠ (lineVars i).1 ∧
      (lineVars i).2.2.2 ≠ (lineVars i).1 := by
  rw [lineVars]
  split <;> decide

/-- **One line is one step.** -/
private theorem registers_run (X : ℕ → Word) (v : Locals) {i : ℕ} (h : i < 64) :
    registers (i + 1) (Line.run X v (line i)) = step X (registers i v) i := by
  obtain ⟨hb, hc, hd⟩ := lineVars_distinct i
  rw [registers, lineVars_succ, Line.run]
  simp only [get_set, line, lineMacro_fn, ROTATE_LEFT_eq _ (rotation_lt h), if_pos, if_neg hb,
    if_neg hc, if_neg hd, step, registers, Registers.mk.injEq, true_and, and_true]
  rw [BitVec.add_comm]
  simp only [BitVec.add_assoc]

private theorem registers_rounds (X : ℕ → Word) (v : Locals) {n : ℕ} (h : n ≤ 64) :
    registers n (((List.range n).map line).foldl (Line.run X) v) =
      (List.range n).foldl (step X) (registers 0 v) := by
  induction n with
  | zero => rfl
  | succ n ih =>
    rw [List.range_succ, List.map_append, List.foldl_append, List.foldl_append]
    exact (registers_run X _ (by omega)).trans
      (congrArg (fun r => step X r n) (ih (by omega)))

/-- After sixteen lines four times over, the locals stand in their places. -/
private theorem registers_64 (v : Locals) : registers 64 v = ⟨v.a, v.b, v.c, v.d⟩ := rfl

/-- **`transform` takes a block in.** -/
theorem transform_eq (_state : Vector Word 4) (block : List Byte) :
    registersOf (transform _state block) = compress (registersOf _state) block := by
  obtain ⟨v, hv⟩ : ∃ v, rounds.foldl (Line.run (decode block))
      ⟨_state[0], _state[1], _state[2], _state[3]⟩ = v := ⟨_, rfl⟩
  have h : registers 64 v =
      (List.range 64).foldl (step (decode block)) (registersOf _state) := by
    rw [← hv, rounds_eq]
    exact registers_rounds (decode block) _ (Nat.le_refl 64)
  rw [registersOf_transform hv, compress, ← decode_eq, ← h, registers_64]

/-! ## §3 What the object holds -/

private theorem getElem_memcpy (buffer : Vector Byte 64) (k : ℕ) (input : List Byte) {j : ℕ}
    (h : j < 64) : (memcpy buffer k input)[j] =
      if k ≤ j ∧ j < k + input.length then input.getD (j - k) 0 else buffer[j] := by
  unfold memcpy
  exact Vector.getElem_ofFn h

/-- The first bytes of the buffer, the input put there, and what stood behind it. -/
theorem toList_memcpy (buffer : Vector Byte 64) {k : ℕ} {input : List Byte}
    (h : k + input.length ≤ 64) : (memcpy buffer k input).toList =
      buffer.toList.take k ++ input ++ buffer.toList.drop (k + input.length) := by
  apply List.ext_getElem
  · simp only [Vector.length_toList, List.length_append, List.length_take, List.length_drop]
    omega
  · intro j hj _
    rw [Vector.length_toList] at hj
    have hlen : (buffer.toList.take k).length = k := by
      rw [List.length_take, Vector.length_toList]
      omega
    rw [Vector.getElem_toList, getElem_memcpy _ _ _ hj]
    -- before, inside and behind the bytes copied
    by_cases hk : j < k
    · have hout : ¬ (k ≤ j ∧ j < k + input.length) := fun hin => absurd hin.1 (by omega)
      rw [if_neg hout, List.getElem_append_left (by rw [List.length_append]; omega),
        List.getElem_append_left (by omega), List.getElem_take, Vector.getElem_toList]
    · by_cases hi : j < k + input.length
      · rw [if_pos ⟨by omega, hi⟩, List.getElem_append_left (by rw [List.length_append]; omega),
          List.getElem_append_right (by omega), List.getD_eq_getElem _ _ (by omega)]
        simp only [hlen]
      · have hout : ¬ (k ≤ j ∧ j < k + input.length) := fun hin => hi hin.2
        have hidx : k + input.length + (j - (buffer.toList.take k ++ input).length) = j := by
          rw [List.length_append]
          omega
        rw [if_neg hout, List.getElem_append_right (by rw [List.length_append]; omega),
          List.getElem_drop, Vector.getElem_toList]
        simp only [hidx]

/-- The low-order word that has become smaller than what was added to it has run over. -/
private theorem carry_toNat (low high bits : Word) :
    (if low + bits < bits then high + 1 else high).toNat =
      (high.toNat + (low.toNat + bits.toNat) / 2 ^ 32) % 2 ^ 32 := by
  have h₀ := low.isLt
  have h₁ := bits.isLt
  have h₂ := high.isLt
  split
  · rename_i hlt
    rw [BitVec.lt_def, BitVec.toNat_add] at hlt
    rw [BitVec.toNat_add, show (1 : Word).toNat = 1 from rfl]
    omega
  · rename_i hge
    rw [BitVec.lt_def, BitVec.toNat_add] at hge
    omega

/-- The two words count the bits. -/
private theorem bitCount_addCount (_count : Vector Word 2) {len : ℕ} (h : len < 2 ^ 32) :
    bitCount (addCount _count len) = (bitCount _count + 8 * len) % 2 ^ 64 := by
  have hhigh : (BitVec.ofNat 32 len >>> 29).toNat = len / 2 ^ 29 := by
    rw [BitVec.toNat_ushiftRight, BitVec.toNat_ofNat, Nat.mod_eq_of_lt h,
      Nat.shiftRight_eq_div_pow]
  have hcarry : (addCount _count len)[1].toNat =
      ((_count[1].toNat + (_count[0].toNat + 8 * len % 2 ^ 32) / 2 ^ 32) % 2 ^ 32 +
        len / 2 ^ 29) % 2 ^ 32 := by
    rw [← bits_toNat h, ← carry_toNat, ← hhigh]
    exact BitVec.toNat_add _ _
  rw [bitCount, addCount_low _ h, hcarry, bitCount]
  omega

/-- What an object holds after `n` bytes: the words `r` of the whole blocks, and the bytes `rest`
that wait for more. -/
structure Holds (m : MD5) (n : ℕ) (r : Registers) (rest : List Byte) : Prop where
  count : bitCount m._count = 8 * n % 2 ^ 64
  state : registersOf m._state = r
  buffer : m._buffer.toList.take (n % 64) = rest

variable {m : MD5} {n : ℕ} {r : Registers} {rest : List Byte}

private theorem Holds.index (h : Holds m n r rest) : m.index.toNat = n % 64 := by
  have hcount := h.count
  rw [bitCount] at hcount
  rw [index_toNat]
  omega

private theorem Holds.length_rest (h : Holds m n r rest) : rest.length = n % 64 := by
  rw [← h.buffer, List.length_take, Vector.length_toList]
  omega

/-- A new object, or one that is reset. -/
theorem holds_reset (m : MD5) : Holds m.reset 0 initial [] where
  count := rfl
  state := rfl
  buffer := List.take_zero

/-! ## §4 `update` -/

/-- The loop takes the whole blocks in from where it stands. -/
private theorem transformLoop_eq {input : List Byte} (hlen : input.length < 2 ^ 32 - 64)
    (fuel : ℕ) (i : Word) (_state : Vector Word 4) (hi : i.toNat ≤ input.length)
    (hfuel : input.length - i.toNat < fuel) :
    ∃ i' _state', transformLoop input fuel i _state = some (i', _state') ∧
      absorb 64 compress (registersOf _state) (input.drop i.toNat) =
        (registersOf _state', input.drop i'.toNat) := by
  induction fuel generalizing i _state with
  | zero => exact absurd hfuel (Nat.not_lt_zero _)
  | succ fuel ih =>
    -- the counter does not wrap below the bound on the length
    have h63 : (i + 63).toNat = i.toNat + 63 := by
      rw [BitVec.toNat_add, show (63 : Word).toNat = 63 from rfl]
      exact Nat.mod_eq_of_lt (by omega)
    have h64 : (i + 64).toNat = i.toNat + 64 := by
      rw [BitVec.toNat_add, show (64 : Word).toNat = 64 from rfl]
      exact Nat.mod_eq_of_lt (by omega)
    have hdrop : (input.drop i.toNat).length = input.length - i.toNat := List.length_drop
    rw [transformLoop, h63]
    split
    · rename_i hlt
      obtain ⟨i', _state', hloop, habsorb⟩ := ih (i + 64)
        (transform _state ((input.drop i.toNat).take 64)) (by omega) (by omega)
      refine ⟨i', _state', ?_, ?_⟩
      · rw [if_pos (by omega)]
        exact hloop
      · rw [absorb_of_le (by decide) (by omega), ← transform_eq, List.drop_drop, ← h64]
        exact habsorb
    · exact ⟨i, _state, rfl, absorb_of_lt (by omega) _⟩

/-- **`update` takes its input in**, as a block at a time would. -/
theorem update_holds (h : Holds m n r rest) {input : List Byte}
    (hlen : input.length < 2 ^ 32 - 64) :
    ∃ m', update m input = some m' ∧ m'._finished = false ∧
      Holds m' (n + input.length) (absorb 64 compress r (rest ++ input)).1
        (absorb 64 compress r (rest ++ input)).2 := by
  have hindex := h.index
  have hrest := h.length_rest
  have hmod : n % 64 < 64 := Nat.mod_lt n (by decide)
  have hpart : (64 - m.index).toNat = 64 - n % 64 := by
    rw [BitVec.toNat_sub, show (64 : Word).toNat = 64 from rfl]
    omega
  have hcount : bitCount (addCount m._count input.length) = 8 * (n + input.length) % 2 ^ 64 := by
    rw [bitCount_addCount _ (by omega), h.count]
    omega
  have habsorbed := length_absorb (f := compress) (by decide : 0 < 64) r (rest ++ input)
  rw [List.length_append, hrest] at habsorbed
  simp only [update, hpart]
  split
  · rename_i hle
    -- the buffer is filled up to a block
    have hblock : (memcpy m._buffer m.index.toNat (input.take (64 - n % 64))).toList =
        (rest ++ input).take 64 := by
      have htake : (input.take (64 - n % 64)).length = 64 - n % 64 := by
        rw [List.length_take]
        omega
      have hnone : m._buffer.toList.drop (n % 64 + (64 - n % 64)) = [] :=
        List.drop_of_length_le (by rw [Vector.length_toList]; omega)
      have hall : rest.take 64 = rest := List.take_of_length_le (by omega)
      rw [hindex, toList_memcpy _ (by omega), h.buffer, htake, hnone, List.append_nil,
        List.take_append, hrest, hall]
    have hdrop : (rest ++ input).drop 64 = input.drop (64 - n % 64) := by
      rw [List.drop_append, List.drop_of_length_le (by omega), hrest, List.nil_append]
    obtain ⟨i', _state', hloop, habsorb⟩ := transformLoop_eq hlen (input.length + 1)
      (64 - m.index) (transform m._state ((rest ++ input).take 64)) (by omega) (by omega)
    have hwhole : absorb 64 compress r (rest ++ input) =
        (registersOf _state', input.drop i'.toNat) := by
      rw [absorb_of_le (by decide) (by rw [List.length_append]; omega), hdrop, ← h.state,
        ← transform_eq, ← hpart]
      exact habsorb
    have hleft : (input.drop i'.toNat).length = (n + input.length) % 64 := by
      rw [hwhole] at habsorbed
      exact habsorbed.trans (by omega)
    rw [hwhole, hblock, hloop]
    refine ⟨_, rfl, rfl, hcount, rfl, ?_⟩
    show (memcpy _ 0 (input.drop i'.toNat)).toList.take _ = input.drop i'.toNat
    rw [toList_memcpy _ (by omega), List.take_zero, List.nil_append, ← hleft, List.take_left]
  · rename_i hlt
    have hshort : absorb 64 compress r (rest ++ input) = (r, rest ++ input) :=
      absorb_of_lt (by rw [List.length_append]; omega) r
    have hleft : (rest ++ input).length = (n + input.length) % 64 := by
      rw [List.length_append]
      omega
    rw [hshort]
    refine ⟨_, rfl, rfl, hcount, h.state, ?_⟩
    show (memcpy _ m.index.toNat input).toList.take _ = rest ++ input
    rw [hindex, toList_memcpy _ (by omega), h.buffer, ← hleft, List.take_left]

/-! ## §5 `final` -/

private theorem lowBytes_add (k l x : ℕ) :
    lowBytes (k + l) x = lowBytes k x ++ lowBytes l (x / 2 ^ (8 * k)) := by
  rw [lowBytes, List.range_add, List.map_append, List.map_map]
  apply congrArg (lowBytes k x ++ ·)
  apply List.map_congr_left
  intro j _
  show BitVec.ofNat 8 (x / 2 ^ (8 * (k + j))) = BitVec.ofNat 8 (x / 2 ^ (8 * k) / 2 ^ (8 * j))
  rw [Nat.mul_add, Nat.pow_add, Nat.div_div_eq_div_mul]

/-- The low-order bytes do not see what is above them. -/
private theorem lowBytes_mod (k x : ℕ) : lowBytes k (x % 2 ^ (8 * k)) = lowBytes k x := by
  apply List.map_congr_left
  intro j hj
  have hlt : j < k := List.mem_range.1 hj
  have hsplit : 2 ^ (8 * k) = 2 ^ (8 * j) * 2 ^ (8 * (k - j)) := by
    rw [← Nat.pow_add]
    congr 1
    omega
  apply BitVec.eq_of_toNat_eq
  rw [BitVec.toNat_ofNat, BitVec.toNat_ofNat, hsplit, Nat.mod_mul_right_div_self]
  exact Nat.mod_mod_of_dvd _ (Nat.pow_dvd_pow 2 (by omega))

/-- The length in bits, as it is put behind the padding. -/
private theorem Holds.encode_count (h : Holds m n r rest) :
    encode m._count.toList = lowBytes 8 (8 * n) := by
  have hlow := m._count[0].isLt
  have hwords : m._count.toList = [m._count[0], m._count[1]] := by
    apply List.ext_getElem
    · rw [Vector.length_toList]
      rfl
    · intro j hj _
      rw [Vector.length_toList] at hj
      obtain rfl | rfl : j = 0 ∨ j = 1 := by omega
      · rfl
      · rfl
  have hbytes : lowBytes 8 (bitCount m._count) =
      lowBytes 4 m._count[0].toNat ++ lowBytes 4 m._count[1].toNat := by
    rw [lowBytes_add 4 4, ← lowBytes_mod 4 (bitCount _), bitCount]
    congr 2 <;> omega
  rw [encode_eq, hwords, ← lowBytes_mod 8, ← h.count, hbytes]
  rfl

/-- What `final` adds up to the length. -/
private theorem Holds.take_PADDING (h : Holds m n r rest) :
    PADDING.take m.padLen.toNat = padding n := by
  have hindex := h.index
  have hmod : n % 64 < 64 := Nat.mod_lt n (by decide)
  have hpad : m.padLen.toNat = (119 - n % 64) % 64 + 1 := by
    rw [padLen]
    split
    · rename_i hlt
      rw [BitVec.lt_def, show (56 : Word).toNat = 56 from rfl] at hlt
      rw [BitVec.toNat_sub, show (56 : Word).toNat = 56 from rfl]
      omega
    · rename_i hge
      rw [BitVec.lt_def, show (56 : Word).toNat = 56 from rfl] at hge
      rw [BitVec.toNat_sub, show (120 : Word).toNat = 120 from rfl]
      omega
  rw [hpad, PADDING, List.take_succ_cons, List.take_replicate, padding]
  congr 2
  omega

private theorem length_padding (n : ℕ) : (padding n).length ≤ 64 := by
  rw [padding, List.length_cons, List.length_replicate]
  omega

private theorem encode_state (_state : Vector Word 4) : encode _state.toList =
    lowBytes 4 (registersOf _state).A.toNat ++ lowBytes 4 (registersOf _state).B.toNat ++
      lowBytes 4 (registersOf _state).C.toNat ++ lowBytes 4 (registersOf _state).D.toNat := by
  have hwords : _state.toList = [_state[0], _state[1], _state[2], _state[3]] := by
    apply List.ext_getElem
    · rw [Vector.length_toList]
      rfl
    · intro j hj _
      rw [Vector.length_toList] at hj
      obtain rfl | rfl | rfl | rfl : j = 0 ∨ j = 1 ∨ j = 2 ∨ j = 3 := by omega
      · rfl
      · rfl
      · rfl
      · rfl
  rw [encode_eq, hwords]
  simp only [List.flatMap_cons, List.flatMap_nil, List.append_nil, List.append_assoc]
  rfl

/-- What an object holds that has taken the message `msg` in. -/
def Represents (m : MD5) (msg : List Byte) : Prop :=
  Holds m msg.length (absorb 64 compress initial msg).1 (absorb 64 compress initial msg).2

theorem represents_reset (m : MD5) : Represents m.reset [] := holds_reset m

/-- One piece more. -/
theorem update_represents {msg : List Byte} (h : Represents m msg) (input : List Byte)
    (hlen : input.length < 2 ^ 32 - 64) :
    ∃ m', update m input = some m' ∧ m'._finished = false ∧ Represents m' (msg ++ input) := by
  obtain ⟨m', hupdate, hfinished, hholds⟩ := update_holds h hlen
  refine ⟨m', hupdate, hfinished, ?_⟩
  rw [Represents, List.length_append, absorb_append (by decide)]
  exact hholds

/-- Every piece. -/
theorem updates_represent {msg : List Byte} (h : Represents m msg) (hfinished : m._finished = false)
    {inputs : List (List Byte)} (hlen : ∀ s ∈ inputs, s.length < 2 ^ 32 - 64) :
    ∃ m', inputs.foldlM update m = some m' ∧ m'._finished = false ∧
      Represents m' (msg ++ inputs.flatten) := by
  induction inputs generalizing m msg with
  | nil => exact ⟨m, rfl, hfinished, by rwa [List.flatten_nil, List.append_nil]⟩
  | cons s inputs ih =>
    obtain ⟨m₁, hupdate, hfinished₁, h₁⟩ := update_represents h s (hlen s List.mem_cons_self)
    obtain ⟨m', hrest, hfinished', h'⟩ :=
      ih h₁ hfinished₁ fun t ht => hlen t (List.mem_cons_of_mem s ht)
    refine ⟨m', ?_, hfinished', ?_⟩
    · rw [List.foldlM_cons, hupdate]
      exact hrest
    · rw [List.flatten_cons, ← List.append_assoc]
      exact h'

/-- **`final`** leaves the digest of the message. -/
theorem final_digest {msg : List Byte} (h : Represents m msg) :
    ∃ m', final m = some m' ∧ m'._digest = Md5Standard.digest msg := by
  have hbits := h.encode_count
  have hpadding := h.take_PADDING
  have hshort := length_padding msg.length
  have hlength : (lowBytes 8 (8 * msg.length)).length = 8 := rfl
  obtain ⟨m₁, hfirst, -, h₁⟩ := update_represents h (padding msg.length) (by omega)
  obtain ⟨m₂, hsecond, -, h₂⟩ :=
    update_represents h₁ (lowBytes 8 (8 * msg.length)) (by omega)
  have hstate : registersOf m₂._state = (absorb 64 compress initial (pad msg)).1 := h₂.state
  refine ⟨{ m₂ with _state := m._state, _count := m._count, _digest := encode m₂._state.toList },
    ?_, ?_⟩
  · simp only [final, hpadding, hbits, hfirst, hsecond, Option.bind_eq_bind, Option.bind_some]
  · rw [encode_state, hstate, Md5Standard.digest]

private theorem bytesToHexString_eq (input : List Byte) : bytesToHexString input = hex input := by
  have hdigit : ∀ k < 16, HEX.getD k '0' = Nat.digitChar k := by decide
  rw [bytesToHexString, hex]
  congr 2
  funext t
  have hlt : t.toNat < 2 ^ 8 := t.isLt
  rw [hdigit _ (by omega), hdigit _ (by omega)]

/-- **However a message is cut**, the object gives its digest. -/
theorem toString_digest (m : MD5) {inputs : List (List Byte)}
    (hlen : ∀ s ∈ inputs, s.length < 2 ^ 32 - 64) :
    ∃ m', (inputs.foldlM update m.reset).bind toString =
      some (hex (Md5Standard.digest inputs.flatten), m') := by
  obtain ⟨m₁, hupdates, hfinished, h⟩ := updates_represent (represents_reset m) rfl hlen
  rw [List.nil_append] at h
  have h' : Represents { m₁ with _finished := true } inputs.flatten := ⟨h.count, h.state, h.buffer⟩
  obtain ⟨m', hfinal, hdigest⟩ := final_digest h'
  refine ⟨m', ?_⟩
  simp only [hupdates, Option.bind_some, toString, MD5.digest, hfinished, hfinal,
    Bool.false_eq_true, if_false, Option.bind_eq_bind, hdigest, bytesToHexString_eq]

/-- The message "abc" in two pieces, after a reset of an object that held other things. -/
theorem toString_abc :
    (∀ s ∈ [[0x61], [0x62, 0x63]], (s : List Byte).length < 2 ^ 32 - 64) ∧
      ∃ m', ([[0x61], [0x62, 0x63]].foldlM update
        (reset ⟨.replicate 4 0xff, .replicate 2 7, .replicate 64 0x5a, [], true⟩)).bind toString =
          some ("900150983cd24fb0d6963f7d28e17f72", m') := by
  have habc : hex (Md5Standard.digest [[0x61], [0x62, 0x63]].flatten) =
      "900150983cd24fb0d6963f7d28e17f72" := by decide +kernel
  rw [← habc]
  exact ⟨by decide, toString_digest _ (by decide)⟩

end MD5

end MtpSync

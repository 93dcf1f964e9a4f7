import MtpSync.Verity.Md5Digest

/-!
# What taking a digest leaves of the MD5 object

`final` runs the padding through `update` and restores the state and the count, but not the
buffer.  Where 56 bytes or more wait for a whole block, the padding takes their place.

- §1 what a later call sees of an object
- §2 the buffer after `final`
- §3 runs
-/

namespace MtpSync

namespace MD5

/-! ## §1 What a later call sees -/

/-- The bytes that wait for more. -/
def pending (m : MD5) : List Byte := m._buffer.toList.take m.index.toNat

/-- What the later calls depend on. -/
structure View where
  _state : Vector Word 4
  _count : Vector Word 2
  pending : List Byte
  _finished : Bool

def view (m : MD5) : View := ⟨m._state, m._count, m.pending, m._finished⟩

variable {m m' : MD5}

private theorem index_eq (h : m._count = m'._count) : m.index = m'.index := by
  rw [index, h]
  rfl

private theorem part_toNat (m : MD5) : (64 - m.index).toNat = 64 - m.index.toNat := by
  have hlt := index_lt m
  rw [BitVec.toNat_sub, show (64 : Word).toNat = 64 from rfl]
  omega

/-- The bytes that wait, with more behind them. -/
private theorem take_memcpy {input : List Byte} (h : m.index.toNat + input.length ≤ 64) {k : ℕ}
    (hk : k ≤ m.index.toNat + input.length) :
    (memcpy m._buffer m.index.toNat input).toList.take k = (m.pending ++ input).take k := by
  have hlen : (m._buffer.toList.take m.index.toNat).length = m.index.toNat := by
    rw [List.length_take, Vector.length_toList]
    omega
  rw [toList_memcpy _ h, pending, List.take_append_of_le_length]
  rw [List.length_append, hlen]
  exact hk

private theorem memcpy_congr (hindex : m.index = m'.index) (hpending : m.pending = m'.pending)
    {input : List Byte} (h : m.index.toNat + input.length = 64) :
    memcpy m._buffer m.index.toNat input = memcpy m'._buffer m'.index.toNat input := by
  apply Vector.toList_inj.1
  have htake : ∀ v : Vector Byte 64, v.toList = v.toList.take 64 := fun v =>
    (List.take_of_length_le (Nat.le_of_eq Vector.length_toList)).symm
  rw [htake, htake (memcpy m'._buffer _ _), take_memcpy (by omega) (by omega),
    take_memcpy (by rw [← hindex]; omega) (by rw [← hindex]; omega), hpending]

/-- Input that does not fill the buffer up to a block. -/
private theorem update_short {input : List Byte} (h : m.index.toNat + input.length < 64) :
    update m input = some { m with
      _count := addCount m._count input.length
      _buffer := memcpy m._buffer m.index.toNat input
      _finished := false } := by
  have hpart := part_toNat m
  rw [update]
  exact if_neg (by omega)

private theorem pending_short {input : List Byte} (h : m.index.toNat + input.length < 64) :
    pending { m with
      _count := addCount m._count input.length
      _buffer := memcpy m._buffer m.index.toNat input
      _finished := false } = m.pending ++ input := by
  have hmod : (addCount m._count input.length)[0].toNat / 8 % 64 =
      m.index.toNat + input.length :=
    (addCount_index m (by omega)).trans (Nat.mod_eq_of_lt h)
  have hlen : (m.pending ++ input).length = m.index.toNat + input.length := by
    rw [List.length_append, pending, List.length_take, Vector.length_toList]
    omega
  rw [pending, (index_toNat _).trans hmod, take_memcpy (by omega) (by omega),
    List.take_of_length_le (by omega)]

private theorem view_short {input : List Byte} (h : m.index.toNat + input.length < 64) :
    (update m input).map view =
      some ⟨m._state, addCount m._count input.length, m.pending ++ input, false⟩ := by
  rw [update_short h, Option.map_some, view, pending_short h]

/-- **`update`** sees nothing else. -/
theorem update_view (h : view m = view m') (input : List Byte) :
    (update m input).map view = (update m' input).map view := by
  have hstate : m._state = m'._state := congrArg View._state h
  have hcount : m._count = m'._count := congrArg View._count h
  have hpending : m.pending = m'.pending := congrArg View.pending h
  have hindex := index_eq hcount
  have hpart := part_toNat m
  have hlt := index_lt m
  by_cases hshort : m.index.toNat + input.length < 64
  · rw [view_short hshort, view_short (by rw [← hindex]; exact hshort), hstate, hcount, hpending]
  · have hlen : m.index.toNat + (input.take (64 - m.index).toNat).length = 64 := by
      rw [List.length_take]
      omega
    simp only [update, ← hindex, ← hcount, ← hstate]
    rw [if_pos (by omega), if_pos (by omega), memcpy_congr hindex hpending hlen, ← hindex]
    cases transformLoop input (input.length + 1) (64 - m.index) (transform m._state
        (memcpy m'._buffer m.index.toNat (input.take (64 - m.index).toNat)).toList) with
    | none => rfl
    | some p => rfl

/-- Any number of pieces. -/
private theorem updates_view (h : view m = view m') (inputs : List (List Byte)) :
    (inputs.foldlM update m).map view = (inputs.foldlM update m').map view := by
  induction inputs generalizing m m' with
  | nil => exact congrArg some h
  | cons s inputs ih =>
    have hupdate := update_view h s
    rw [List.foldlM_cons, List.foldlM_cons]
    cases hm : update m s with
    | none =>
      rw [hm] at hupdate
      rw [Option.map_eq_none_iff.1 hupdate.symm]
    | some m₁ =>
      rw [hm] at hupdate
      obtain ⟨m₁', hm', hview⟩ := Option.map_eq_some_iff.1 hupdate.symm
      rw [hm']
      exact ih hview.symm

private theorem final_view (h : view m = view m') :
    (final m).map MD5._digest = (final m').map MD5._digest := by
  have hcount : m._count = m'._count := congrArg View._count h
  have hpad : m'.padLen = m.padLen := by rw [padLen, padLen, index_eq hcount]
  have hbits : encode m'._count.toList = encode m._count.toList := by rw [hcount]
  -- the padding, and then the length, leave the same view
  have hpadded := update_view h (PADDING.take m.padLen.toNat)
  simp only [final, hpad, hbits, Option.bind_eq_bind]
  cases hm : update m (PADDING.take m.padLen.toNat) with
  | none =>
    rw [hm] at hpadded
    rw [Option.map_eq_none_iff.1 hpadded.symm]
    rfl
  | some m₁ =>
    rw [hm] at hpadded
    obtain ⟨m₁', hm', hview⟩ := Option.map_eq_some_iff.1 hpadded.symm
    have hlength := update_view hview.symm (encode m._count.toList)
    rw [hm', Option.bind_some, Option.bind_some]
    cases hm₂ : update m₁ (encode m._count.toList) with
    | none =>
      rw [hm₂] at hlength
      rw [Option.map_eq_none_iff.1 hlength.symm]
      rfl
    | some m₂ =>
      rw [hm₂] at hlength
      obtain ⟨m₂', hm₂', hview₂⟩ := Option.map_eq_some_iff.1 hlength.symm
      have hstate : m₂'._state = m₂._state := congrArg View._state hview₂
      rw [hm₂']
      simp only [Option.bind_some, Option.map_some, hstate]

private theorem digest_of_not_finished (h : m._finished = false) :
    digest m = (final { m with _finished := true }).map fun m' => (m'._digest, m') := by
  rw [digest, h]
  exact Option.map_eq_bind.symm

/-- **`digest`** of an object that is not finished sees nothing else. -/
theorem digest_view (h : view m = view m') (hfinished : m._finished = false) :
    (digest m).map Prod.fst = (digest m').map Prod.fst := by
  have hfinished' : m'._finished = false := (congrArg View._finished h).symm.trans hfinished
  have hstart : view { m with _finished := true } = view { m' with _finished := true } :=
    congrArg (fun v : View => { v with _finished := true }) h
  rw [digest_of_not_finished hfinished, digest_of_not_finished hfinished', Option.map_map,
    Option.map_map]
  exact final_view hstart

/-! ## §2 The buffer after `final` -/

/-- Input that fills the buffer once. -/
private theorem update_block {input : List Byte} (h : 64 ≤ m.index.toNat + input.length)
    (h' : m.index.toNat + input.length < 128) :
    update m input = some { m with
      _state := transform m._state
        (memcpy m._buffer m.index.toNat (input.take (64 - m.index.toNat))).toList
      _count := addCount m._count input.length
      _buffer := memcpy (memcpy m._buffer m.index.toNat (input.take (64 - m.index.toNat))) 0
        (input.drop (64 - m.index.toNat))
      _finished := false } := by
  have hpart := part_toNat m
  have hlt := index_lt m
  have h63 : (64 - m.index + 63).toNat = 127 - m.index.toNat := by
    rw [BitVec.toNat_add, hpart, show (63 : Word).toNat = 63 from rfl]
    omega
  have hstop : ¬ 127 - m.index.toNat < input.length := by omega
  simp only [update, hpart, transformLoop, h63, if_neg hstop, Option.bind_eq_bind,
    Option.bind_some]
  exact if_pos (by omega)

private theorem length_encode (input : List Word) : (encode input).length = 4 * input.length := by
  induction input with
  | nil => rfl
  | cons w input ih =>
    simp only [encode, List.flatMap_cons, List.length_append, List.length_cons,
      List.length_nil] at ih ⊢
    omega

/-- What is left of the bytes that waited. -/
def leftover (m : MD5) : List Byte :=
  if m.index.toNat < 56 then m.pending
  else (List.replicate 56 0 ++ encode m._count.toList).take m.index.toNat

private theorem padLen_toNat (m : MD5) : m.padLen.toNat =
    if m.index.toNat < 56 then 56 - m.index.toNat else 120 - m.index.toNat := by
  have hlt := index_lt m
  rw [padLen]
  simp only [BitVec.lt_def, show (56 : Word).toNat = 56 from rfl]
  split
  · rw [BitVec.toNat_sub, show (56 : Word).toNat = 56 from rfl]
    omega
  · rw [BitVec.toNat_sub, show (120 : Word).toNat = 120 from rfl]
    omega

/-- Eight bytes behind fifty-six that wait fill the block. -/
private theorem update_bits (h : m.index.toNat = 56) {bits : List Byte} (hbits : bits.length = 8) :
    ∃ m₁, update m bits = some m₁ ∧ m₁._finished = false ∧
      m₁._buffer.toList = m._buffer.toList.take 56 ++ bits := by
  refine ⟨_, update_block (by omega) (by omega), rfl, ?_⟩
  have htake : bits.take (64 - m.index.toNat) = bits := List.take_of_length_le (by omega)
  have hnone : bits.drop (64 - m.index.toNat) = [] := List.drop_of_length_le (by omega)
  have hend : m._buffer.toList.drop (56 + bits.length) = [] :=
    List.drop_of_length_le (by rw [Vector.length_toList]; omega)
  show (memcpy (memcpy _ _ _) 0 (bits.drop _)).toList = _
  rw [htake, hnone, toList_memcpy _ (by decide), List.take_zero, List.nil_append, List.nil_append,
    List.length_nil, Nat.add_zero, List.drop_zero, toList_memcpy _ (by omega), h, hend,
    List.append_nil]

/-- The bytes that wait after the padding. -/
private theorem update_padding (m : MD5) :
    ∃ m₁, update m (PADDING.take m.padLen.toNat) = some m₁ ∧ m₁.index.toNat = 56 ∧
      m₁._buffer.toList.take 56 = if m.index.toNat < 56 then
        m.pending ++ PADDING.take (56 - m.index.toNat) else List.replicate 56 0 := by
  have hlt := index_lt m
  have hpad := padLen_toNat m
  have hlength : (PADDING.take m.padLen.toNat).length = m.padLen.toNat := by
    rw [List.length_take, show PADDING.length = 64 from rfl, hpad]
    split <;> omega
  have hindex :
      (addCount m._count (PADDING.take m.padLen.toNat).length)[0].toNat / 8 % 64 = 56 := by
    rw [addCount_index m (by rw [hlength, hpad]; split <;> omega), hlength, hpad]
    split <;> omega
  -- the padding fits in the block, or fills it and goes on in the next
  by_cases h : m.index.toNat < 56
  · rw [if_pos h] at hpad ⊢
    refine ⟨_, update_short (by omega), (index_toNat _).trans hindex, ?_⟩
    have hlen : (m.pending ++ PADDING.take m.padLen.toNat).length = 56 := by
      rw [List.length_append, hlength, pending, List.length_take, Vector.length_toList]
      omega
    rw [take_memcpy (by omega) (by omega), List.take_of_length_le (by omega), hpad]
  · rw [if_neg h] at hpad ⊢
    refine ⟨_, update_block (by omega) (by omega), (index_toNat _).trans hindex, ?_⟩
    have hzeros : (PADDING.take m.padLen.toNat).drop (64 - m.index.toNat) =
        List.replicate 56 0 := by
      have hall : ∀ i < 64, 56 ≤ i →
          (PADDING.take (120 - i)).drop (64 - i) = List.replicate 56 0 := by decide
      rw [hpad]
      exact hall _ hlt (by omega)
    show (memcpy _ 0 ((PADDING.take _).drop _)).toList.take 56 = _
    rw [hzeros, toList_memcpy _ (by decide), List.take_zero, List.nil_append]
    exact List.take_left' List.length_replicate

/-- What `final` leaves in the place of the bytes that waited. -/
private theorem final_leftover (m : MD5) : ∃ m', final m = some m' ∧ m'._state = m._state ∧
    m'._count = m._count ∧ m'._finished = false ∧
      m'._buffer.toList.take m.index.toNat = leftover m := by
  have hbits : (encode m._count.toList).length = 8 := by
    rw [length_encode, Vector.length_toList]
  obtain ⟨m₁, hm₁, hindex, hpadding⟩ := update_padding m
  obtain ⟨m₂, hm₂, hfinished, hbuffer⟩ := update_bits hindex hbits
  refine ⟨{ m₂ with _state := m._state, _count := m._count, _digest := encode m₂._state.toList },
    ?_, rfl, rfl, hfinished, ?_⟩
  · simp only [final, hm₁, hm₂, Option.bind_eq_bind, Option.bind_some]
  · show m₂._buffer.toList.take m.index.toNat = leftover m
    rw [hbuffer, hpadding, leftover]
    split
    · rw [List.append_assoc, List.take_left']
      rw [pending, List.length_take, Vector.length_toList]
      omega
    · rfl

/-- **`digest`** leaves everything as it was but the bytes that wait. -/
theorem digest_leftover (hfinished : m._finished = false) :
    ∃ bytes m₁, digest m = some (bytes, m₁) ∧
      view m₁ = { view m with pending := leftover m } := by
  obtain ⟨m₁, hfinal, hstate, hcount, hfinished₁, hleft⟩ :=
    final_leftover { m with _finished := true }
  refine ⟨m₁._digest, m₁, ?_, ?_⟩
  · rw [digest_of_not_finished hfinished, hfinal]
    rfl
  · rw [view, hstate, hcount, hfinished₁, pending, index_eq hcount]
    exact congr (congrArg (View.mk m._state m._count) hleft) hfinished.symm

/-- The bytes that wait survive a digest: there are fewer than fifty-six of them, or they are what
the padding writes in their place. -/
def Survives (m : MD5) : Prop :=
  m.index.toNat < 56 ∨
    m.pending = (List.replicate 56 0 ++ encode m._count.toList).take m.index.toNat

instance (m : MD5) : Decidable (Survives m) :=
  inferInstanceAs (Decidable (_ ∨ _))

/-- The condition is exact. -/
theorem leftover_eq_iff (m : MD5) : leftover m = m.pending ↔ Survives m := by
  rw [leftover, Survives]
  split
  · rename_i h
    exact ⟨fun _ => Or.inl h, fun _ => rfl⟩
  · rename_i h
    exact ⟨fun heq => Or.inr heq.symm, fun hor => (hor.resolve_left h).symm⟩

/-! ## §3 Runs -/

/-- A call on the object. -/
inductive Call where
  | update (input : List Byte)
  | digest
  | toString

/-- The object after a call. -/
def Call.exec (m : MD5) : Call → Option MD5
  | .update input => MD5.update m input
  | .digest => (MD5.digest m).map Prod.snd
  | .toString => (MD5.toString m).map Prod.snd

/-- What the updates of a run take in. -/
def inputsOf (calls : List Call) : List (List Byte) :=
  calls.filterMap fun
    | .update input => some input
    | _ => none

/-- Every digest of a run is taken where the bytes that wait survive it. -/
def DigestsSurvive : MD5 → List Call → Prop
  | _, [] => True
  | m, .update input :: calls => ∀ m', MD5.update m input = some m' → DigestsSurvive m' calls
  | m, .digest :: calls | m, .toString :: calls =>
    Survives m ∧ ∀ m', (MD5.digest m).map Prod.snd = some m' → DigestsSurvive m' calls

/-- A digest taken here can be taken again, and what is taken after further updates is the same
with and without it. -/
def Undisturbed (m : MD5) : Prop :=
  ∃ bytes m₁, digest m = some (bytes, m₁) ∧ (digest m₁).map Prod.fst = some bytes ∧
    ∀ inputs : List (List Byte), ((inputs.foldlM MD5.update m₁).bind digest).map Prod.fst =
      ((inputs.foldlM MD5.update m).bind digest).map Prod.fst

private theorem finished_of_view (h : view m = view m') (hfinished : m._finished = false) :
    m'._finished = false :=
  (congrArg View._finished h).symm.trans hfinished

private theorem view_digest (hfinished : m._finished = false) (h : Survives m) :
    ∃ bytes m₁, digest m = some (bytes, m₁) ∧ view m₁ = view m := by
  obtain ⟨bytes, m₁, hdigest, hview⟩ := digest_leftover hfinished
  refine ⟨bytes, m₁, hdigest, ?_⟩
  rw [hview, (leftover_eq_iff m).2 h]
  rfl

private theorem update_finished {input : List Byte} (h : update m input = some m') :
    m'._finished = false := by
  by_cases hshort : m.index.toNat + input.length < 64
  · rw [update_short hshort, Option.some.injEq] at h
    rw [← h]
  · simp only [update, Option.bind_eq_bind] at h
    split at h
    · obtain ⟨p, -, hp⟩ := Option.bind_eq_some_iff.1 h
      rw [← Option.some.inj hp]
    · rw [← Option.some.inj h]

private theorem updates_finished {inputs : List (List Byte)} (hfinished : m._finished = false)
    (h : inputs.foldlM MD5.update m = some m') : m'._finished = false := by
  induction inputs generalizing m with
  | nil => exact Option.some.inj h ▸ hfinished
  | cons s inputs ih =>
    rw [List.foldlM_cons] at h
    obtain ⟨m₁, hm₁, hrest⟩ := Option.bind_eq_some_iff.1 h
    exact ih (update_finished hm₁) hrest

/-- Objects of the same view give the same digests after the same updates. -/
private theorem digests_eq (h : view m = view m') (hfinished : m._finished = false)
    (inputs : List (List Byte)) : ((inputs.foldlM MD5.update m).bind digest).map Prod.fst =
      ((inputs.foldlM MD5.update m').bind digest).map Prod.fst := by
  have hupdates := updates_view h inputs
  cases hm : inputs.foldlM MD5.update m with
  | none =>
    rw [hm] at hupdates
    rw [Option.map_eq_none_iff.1 hupdates.symm]
  | some m₁ =>
    rw [hm] at hupdates
    obtain ⟨m₁', hm', hview⟩ := Option.map_eq_some_iff.1 hupdates.symm
    rw [hm']
    exact digest_view hview.symm (updates_finished hfinished hm)

theorem undisturbed_of_survives (hfinished : m._finished = false) (h : Survives m) :
    Undisturbed m := by
  obtain ⟨bytes, m₁, hdigest, hview⟩ := view_digest hfinished h
  have hfinished₁ : m₁._finished = false := finished_of_view hview.symm hfinished
  refine ⟨bytes, m₁, hdigest, ?_, digests_eq hview hfinished₁⟩
  rw [digest_view hview hfinished₁, hdigest]
  rfl

/-- **A run whose digests survive** is, to all later calls, a run without them. -/
private theorem run_view {calls : List Call} {m₀ : MD5} (hview : view m = view m₀)
    (hfinished : m._finished = false) (hsurvive : DigestsSurvive m calls)
    (hrun : calls.foldlM Call.exec m = some m') :
    m'._finished = false ∧
      (some m').map view = ((inputsOf calls).foldlM MD5.update m₀).map view := by
  induction calls generalizing m m₀ with
  | nil =>
    have heq : m = m' := Option.some.inj hrun
    exact ⟨heq ▸ hfinished, heq ▸ congrArg some hview⟩
  | cons call calls ih =>
    rw [List.foldlM_cons] at hrun
    obtain ⟨m₁, hcall, hrest⟩ := Option.bind_eq_some_iff.1 hrun
    cases call with
    -- an update does the same to both
    | update input =>
      have hupdate : MD5.update m input = some m₁ := hcall
      have hsame := update_view hview input
      rw [hupdate] at hsame
      obtain ⟨m₂, hm₂, hview₂⟩ := Option.map_eq_some_iff.1 hsame.symm
      have hinputs : inputsOf (.update input :: calls) = input :: inputsOf calls := rfl
      rw [hinputs, List.foldlM_cons, hm₂]
      exact ih hview₂.symm (update_finished hupdate) (hsurvive m₁ hupdate) hrest
    -- a digest leaves the view, so the updates behind it go on from the same
    | digest =>
      obtain ⟨bytes, m₂, hdigest, hview₂⟩ := view_digest hfinished hsurvive.1
      have hm₂ : m₂ = m₁ := by
        have hexec : (MD5.digest m).map Prod.snd = some m₁ := hcall
        rw [hdigest] at hexec
        exact Option.some.inj hexec
      rw [hm₂] at hview₂ hdigest
      exact ih (hview₂.trans hview) (finished_of_view hview₂.symm hfinished)
        (hsurvive.2 m₁ (congrArg (Option.map Prod.snd) hdigest)) hrest
    | toString =>
      obtain ⟨bytes, m₂, hdigest, hview₂⟩ := view_digest hfinished hsurvive.1
      have hm₂ : m₂ = m₁ := by
        have hexec : (MD5.toString m).map Prod.snd = some m₁ := hcall
        rw [MD5.toString, hdigest] at hexec
        exact Option.some.inj hexec
      rw [hm₂] at hview₂ hdigest
      exact ih (hview₂.trans hview) (finished_of_view hview₂.symm hfinished)
        (hsurvive.2 m₁ (congrArg (Option.map Prod.snd) hdigest)) hrest

/-- **In a run whose digests survive** a digest is that of the updates alone, and where the bytes
that wait survive it, it disturbs nothing. -/
theorem digest_undisturbed (m : MD5) {calls : List Call} {m' : MD5}
    (hrun : calls.foldlM Call.exec m.reset = some m')
    (hsurvive : DigestsSurvive m.reset calls) :
    (digest m').map Prod.fst =
        (((inputsOf calls).foldlM MD5.update m.reset).bind digest).map Prod.fst ∧
      (Survives m' → Undisturbed m') := by
  obtain ⟨hfinished, hview⟩ := run_view rfl rfl hsurvive hrun
  refine ⟨?_, undisturbed_of_survives hfinished⟩
  obtain ⟨m₀, hm₀, hsame⟩ := Option.map_eq_some_iff.1 hview.symm
  rw [hm₀]
  exact digest_view hsame.symm hfinished

/-- An object for the examples. -/
private def fresh : MD5 := ⟨.replicate 4 0, .replicate 2 0, .replicate 64 0, [], false⟩

/-- Three bytes and a digest. -/
theorem digest_undisturbed_short : ∃ m', [Call.update [0x61, 0x62, 0x63], .digest].foldlM Call.exec
    fresh.reset = some m' ∧ Survives m' ∧ Undisturbed m' := by
  have hupdate : ∀ m, MD5.update fresh.reset [0x61, 0x62, 0x63] = some m → Survives m := by
    intro m h
    rw [update_short (by decide), Option.some.injEq] at h
    rw [← h]
    decide
  have hsurvive : DigestsSurvive fresh.reset [.update [0x61, 0x62, 0x63], .digest] :=
    fun m h => ⟨hupdate m h, fun _ _ => trivial⟩
  have hend : ([Call.update [0x61, 0x62, 0x63], .digest].foldlM Call.exec fresh.reset).any
      (fun m => decide (Survives m)) = true := by decide +kernel
  cases hrun : [Call.update [0x61, 0x62, 0x63], .digest].foldlM Call.exec fresh.reset with
  | none =>
    rw [hrun] at hend
    exact absurd hend (by decide)
  | some m' =>
    rw [hrun] at hend
    have hm' : Survives m' := of_decide_eq_true hend
    exact ⟨m', rfl, hm', (digest_undisturbed fresh hrun hsurvive).2 hm'⟩

/-- After fifty-six bytes the second digest is another one. -/
theorem second_digest_differs : ¬ ∀ (m : MD5) (calls : List Call) (m' : MD5),
    calls.foldlM Call.exec m.reset = some m' → Undisturbed m' := by
  intro h
  obtain ⟨m', hm'⟩ : ∃ m', MD5.update fresh.reset (List.replicate 56 0x61) = some m' :=
    Option.isSome_iff_exists.1 (by decide +kernel)
  have hrun : [Call.update (List.replicate 56 0x61)].foldlM Call.exec fresh.reset = some m' := by
    rw [List.foldlM_cons, Call.exec, hm']
    rfl
  obtain ⟨bytes, m₁, hdigest, hsecond, -⟩ := h fresh _ m' hrun
  have hdiffer : ((MD5.update fresh.reset (List.replicate 56 0x61)).bind fun m =>
      (MD5.digest m).bind fun p => (MD5.digest p.2).map Prod.fst) ≠
      ((MD5.update fresh.reset (List.replicate 56 0x61)).bind MD5.digest).map Prod.fst := by
    decide +kernel
  rw [hm', Option.bind_some, Option.bind_some, hdigest, Option.bind_some, hsecond] at hdiffer
  exact hdiffer rfl

end MD5

end MtpSync

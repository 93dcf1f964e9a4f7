import MtpSync.Lib.Act
import MtpSync.Lib.Forest
import Mathlib.Data.Finset.Card
import Mathlib.Data.Finset.Insert
import Mathlib.Data.Finset.Filter
import Mathlib.Logic.Function.Basic

/-!
# Forests on a heap

The nodes of a `Forest` as cells of a heap, linked by pointers to the first child and to the next
sibling.  A call that follows a null pointer, or a pointer to a cell that has been deleted, is
undefined.  Addresses are handed out by any allocator, which may hand a deleted address out again.

`Held h t` says that the cells of `t`, a forest whose nodes carry their addresses, are in `h` as
`t` has them.  Each call below is described by what it makes of such a forest and by the cells it
leaves alone.

- §1 heaps
- §2 calls
- §3 the forests a heap holds
- §4 deleting a forest
- §5 linking a node behind the last child
- §6 growing a forest below a node
-/

namespace MtpSync

/-! ## §1 Heaps -/

/-- A pointer, `none` where it is null. -/
abbrev Ptr := Option ℕ

/-- A node on the heap. -/
structure Cell (ν : Type) where
  val : ν
  child : Ptr
  sibling : Ptr

/-- The cells at the live addresses. -/
structure Heap (ν : Type) where
  get : ℕ → Option (Cell ν)
  live : Finset ℕ
  mem_live : ∀ a, a ∈ live ↔ (get a).isSome = true

namespace Heap

variable {ν : Type} {h h' : Heap ν} {a b : ℕ} {c : Cell ν} {as bs : List ℕ}

/-- The cells decide what is live. -/
theorem ext_get (hget : ∀ a, h.get a = h'.get a) : h = h' := by
  obtain ⟨get, live, hlive⟩ := h
  obtain ⟨get', live', hlive'⟩ := h'
  obtain rfl : get = get' := funext hget
  obtain rfl : live = live' := Finset.ext fun a => (hlive a).trans (hlive' a).symm
  rfl

theorem notMem_live : a ∉ h.live ↔ h.get a = none := by
  rw [h.mem_live, Bool.not_eq_true, Option.isSome_eq_false_iff, Option.isNone_iff_eq_none]

theorem mem_live_of_get (hc : h.get a = some c) : a ∈ h.live := by
  rw [h.mem_live, hc]
  rfl

private theorem mem_live_empty (a : ℕ) :
    a ∈ (∅ : Finset ℕ) ↔ (none : Option (Cell ν)).isSome = true := by
  simp

/-- No live cell. -/
def empty : Heap ν := ⟨fun _ => none, ∅, mem_live_empty⟩

private theorem mem_live_put (h : Heap ν) (a : ℕ) (c : Cell ν) (b : ℕ) :
    b ∈ insert a h.live ↔ (Function.update h.get a (some c) b).isSome = true := by
  rw [Finset.mem_insert, Function.update_apply]
  split <;> simp_all [h.mem_live]

/-- The cell at `a` becomes `c`. -/
def put (h : Heap ν) (a : ℕ) (c : Cell ν) : Heap ν :=
  ⟨Function.update h.get a (some c), insert a h.live, mem_live_put h a c⟩

private theorem mem_live_drop (h : Heap ν) (as : List ℕ) (b : ℕ) :
    b ∈ (h.live.filter fun i => i ∉ as) ↔ (if b ∈ as then none else h.get b).isSome = true := by
  rw [Finset.mem_filter, h.mem_live]
  split <;> simp_all

/-- The cells at `as` are deleted. -/
def drop (h : Heap ν) (as : List ℕ) : Heap ν :=
  ⟨fun b => if b ∈ as then none else h.get b, h.live.filter fun i => i ∉ as, mem_live_drop h as⟩

@[simp] theorem get_empty : (empty : Heap ν).get a = none := rfl

@[simp] theorem get_put_self : (h.put a c).get a = some c := Function.update_self _ _ _

theorem get_put_of_ne (hne : b ≠ a) : (h.put a c).get b = h.get b :=
  Function.update_of_ne hne _ _

theorem get_put : (h.put a c).get b = if b = a then some c else h.get b :=
  Function.update_apply _ _ _ _

theorem get_drop : (h.drop as).get b = if b ∈ as then none else h.get b := rfl

theorem get_drop_of_notMem (hb : b ∉ as) : (h.drop as).get b = h.get b := if_neg hb

@[simp] theorem live_put : (h.put a c).live = insert a h.live := rfl

@[simp] theorem mem_live_drop_iff : b ∈ (h.drop as).live ↔ b ∈ h.live ∧ b ∉ as := by
  simp [drop]

@[simp] theorem drop_nil : h.drop [] = h := ext_get fun b => by simp [get_drop]

theorem drop_drop : (h.drop as).drop bs = h.drop (as ++ bs) := ext_get fun b => by
  simp only [get_drop, List.mem_append]
  split <;> simp_all

theorem put_put {c' : Cell ν} : (h.put a c).put a c' = h.put a c' := ext_get fun b => by
  simp only [get_put]
  split <;> rfl

theorem put_eq_self (hc : h.get a = some c) : h.put a c = h := ext_get fun b => by
  rw [get_put]
  split
  · next heq => rw [heq, hc]
  · rfl

end Heap

/-- What `new` may return: an address at which no cell is live. -/
structure Allocator where
  next : Finset ℕ → ℕ
  fresh : ∀ live, next live ∉ live

/-- A heap and the variables beside it. -/
structure Store (ν τ : Type) where
  heap : Heap ν
  vars : τ

/-! ## §2 Calls -/

namespace Store

variable {ν τ : Type}

/-- Follow a pointer. -/
def deref (p : Ptr) : Act (Store ν τ) (Cell ν) where
  run s :=
    match p.bind s.heap.get with
    | some c => (.ok c, s)
    | none => (.error .undefined, s)

/-- Write through a pointer. -/
def assign (p : Ptr) (f : Cell ν → Cell ν) : Act (Store ν τ) Unit where
  run s :=
    match p with
    | none => (.error .undefined, s)
    | some a =>
      match s.heap.get a with
      | some c => (.ok (), { s with heap := s.heap.put a (f c) })
      | none => (.error .undefined, s)

/-- `new`: a cell without child and sibling. -/
def new (A : Allocator) (v : ν) : Act (Store ν τ) ℕ where
  run s :=
    let a := A.next s.heap.live
    (.ok a, { s with heap := s.heap.put a ⟨v, none, none⟩ })

/-- `delete` of a pointer that is not null. -/
def delete (a : ℕ) : Act (Store ν τ) Unit where
  run s :=
    match s.heap.get a with
    | some _ => (.ok (), { s with heap := s.heap.drop [a] })
    | none => (.error .undefined, s)

/-- Assign to the variables. -/
def setVars (f : τ → τ) : Act (Store ν τ) Unit := .modify fun s => { s with vars := f s.vars }

variable {s : Store ν τ} {a : ℕ} {c : Cell ν}

theorem deref_run (hc : s.heap.get a = some c) : (deref (some a)).run s = (.ok c, s) := by
  simp [deref, hc]

theorem assign_run (hc : s.heap.get a = some c) (f : Cell ν → Cell ν) :
    (assign (some a) f).run s = (.ok (), { s with heap := s.heap.put a (f c) }) := by
  simp [assign, hc]

theorem new_run (A : Allocator) (v : ν) (s : Store ν τ) :
    (new A v).run s = (.ok (A.next s.heap.live),
      { s with heap := s.heap.put (A.next s.heap.live) ⟨v, none, none⟩ }) := rfl

theorem delete_run (hc : s.heap.get a = some c) :
    (delete a).run s = (.ok (), { s with heap := s.heap.drop [a] }) := by
  simp [delete, hc]

@[simp] theorem setVars_run (f : τ → τ) (s : Store ν τ) :
    (setVars f).run s = (.ok (), { s with vars := f s.vars }) := rfl

end Store

/-! ## §3 The forests a heap holds -/

namespace Forest

variable {ν μ : Type}

/-- The address of the first node. -/
def ptr : Forest (ℕ × ν) → Ptr
  | nil => none
  | node n _ _ => some n.1

theorem eq_nil_of_ptr {t : Forest (ℕ × ν)} (h : t.ptr = none) : t = nil := by
  cases t with
  | nil => rfl
  | node n c s => cases h

/-- The addresses of the nodes. -/
def addrs (t : Forest (ℕ × ν)) : List ℕ := t.nodes.map Prod.fst

@[simp] theorem addrs_nil : (nil : Forest (ℕ × ν)).addrs = [] := rfl

@[simp] theorem addrs_node {n : ℕ × ν} {c s : Forest (ℕ × ν)} :
    (node n c s).addrs = n.1 :: (c.addrs ++ s.addrs) := by
  simp [addrs, nodes]

theorem mem_addrs_node {n : ℕ × ν} {c s : Forest (ℕ × ν)} {a : ℕ} :
    a ∈ (node n c s).addrs ↔ a = n.1 ∨ a ∈ c.addrs ∨ a ∈ s.addrs := by
  rw [addrs_node, List.mem_cons, List.mem_append]

@[simp] theorem addrs_append {t x : Forest (ℕ × ν)} :
    (t.append x).addrs = t.addrs ++ x.addrs := by
  simp [addrs]

/-- The address of the last sibling. -/
def last : Forest (ℕ × ν) → Ptr
  | nil => none
  | node n _ sibling => sibling.last.or (some n.1)

theorem last_node {n : ℕ × ν} {c s : Forest (ℕ × ν)} : ∃ l, (node n c s).last = some l := by
  rw [last]
  cases s.last with
  | none => exact ⟨n.1, rfl⟩
  | some l => exact ⟨l, rfl⟩

theorem last_node_node {n m : ℕ × ν} {c d u : Forest (ℕ × ν)} :
    (node n c (node m d u)).last = (node m d u).last := by
  obtain ⟨l, hl⟩ := last_node (n := m) (c := d) (s := u)
  rw [last, hl]
  rfl

@[simp] theorem last_append_single {t : Forest (ℕ × ν)} {n : ℕ × ν} {c : Forest (ℕ × ν)} :
    (t.append (node n c nil)).last = some n.1 := by
  induction t with
  | nil => rfl
  | node m d s _ ihs => rw [append, last, ihs, Option.some_or]

theorem ptr_addUnder {p : ℕ × ν → Bool} {t x : Forest (ℕ × ν)} :
    (addUnder p x t).ptr = t.ptr := by
  cases t <;> rfl

theorem ptr_append {t x : Forest (ℕ × ν)} : (t.append x).ptr = t.ptr.or x.ptr := by
  cases t <;> rfl

theorem mem_addrs_of_mem {t : Forest (ℕ × ν)} {n : ℕ × ν} (hn : n ∈ t.nodes) : n.1 ∈ t.addrs :=
  List.mem_map_of_mem hn

/-- The node at an address. -/
def isAt (a : ℕ) (n : ℕ × ν) : Bool := n.1 == a

theorem isAt_self (n : ℕ × ν) : isAt n.1 n = true := beq_self_eq_true n.1

theorem isAt_of_ne {a : ℕ} {n : ℕ × ν} (hne : n.1 ≠ a) : isAt a n = false := beq_false_of_ne hne

section At

variable {t x : Forest (ℕ × ν)} {a : ℕ}

theorem addrs_eq_nodes_map : t.addrs = (t.map Prod.fst).nodes := nodes_map.symm

theorem any_isAt_iff : t.any (isAt a) = true ↔ a ∈ t.addrs := by
  rw [any_iff, addrs, List.mem_map]
  simp only [mem_nodes, isAt, beq_iff_eq]

theorem addrs_childOf_sublist (ha : a ∈ t.addrs) :
    (a :: (childOf (isAt a) t).addrs).Sublist t.addrs := by
  rw [addrs_eq_nodes_map] at ha
  have hsub := nodes_childOf_sublist ha
  rwa [← map_childOf (f := Prod.fst) (q := (· == a)), ← addrs_eq_nodes_map,
    ← addrs_eq_nodes_map] at hsub

theorem addrs_childOf_subset (ha : a ∈ t.addrs) : (childOf (isAt a) t).addrs ⊆ t.addrs :=
  fun _ hb => (addrs_childOf_sublist ha).subset (.tail a hb)

theorem addrs_addUnder_perm (hnodup : t.addrs.Nodup) (ha : a ∈ t.addrs) :
    (addUnder (isAt a) x t).addrs.Perm (t.addrs ++ x.addrs) := by
  have hmap := map_addUnder (f := Prod.fst) (p := isAt a) (q := (· == a)) (t := t) (x := x)
    fun _ _ => rfl
  rw [addrs_eq_nodes_map, hmap, addrs_eq_nodes_map, addrs_eq_nodes_map (t := x)]
  rw [addrs_eq_nodes_map] at hnodup ha
  exact nodes_addUnder_perm hnodup ha

end At

end Forest

/-- The heap has the cells of the forest. -/
def Held {ν : Type} (h : Heap ν) : Forest (ℕ × ν) → Prop
  | .nil => True
  | .node n child sibling =>
    h.get n.1 = some ⟨n.2, child.ptr, sibling.ptr⟩ ∧ Held h child ∧ Held h sibling

namespace Held

variable {ν : Type} {h h' : Heap ν} {t x : Forest (ℕ × ν)}

/-- **Frame**: a heap that has the same cells holds the same forest. -/
theorem of_agree (ht : Held h t) (heq : ∀ a ∈ t.addrs, h'.get a = h.get a) : Held h' t := by
  induction t with
  | nil => trivial
  | node n c s ihc ihs =>
    obtain ⟨hn, hc, hs⟩ := ht
    simp only [Forest.addrs_node, List.forall_mem_cons, List.forall_mem_append] at heq
    exact ⟨heq.1.trans hn, ihc hc heq.2.1, ihs hs heq.2.2⟩

/-- The addresses of a forest are live. -/
theorem live (ht : Held h t) : ∀ a ∈ t.addrs, a ∈ h.live := by
  induction t with
  | nil => simp
  | node n c s ihc ihs =>
    obtain ⟨hn, hc, hs⟩ := ht
    simp only [Forest.addrs_node, List.forall_mem_cons, List.forall_mem_append]
    exact ⟨Heap.mem_live_of_get hn, ihc hc, ihs hs⟩

theorem right (ht : Held h (t.append x)) : Held h x := by
  induction t with
  | nil => exact ht
  | node n c s _ ihs => exact ihs ht.2.2

/-- No more addresses than live ones. -/
theorem length_le (ht : Held h t) (hnodup : t.addrs.Nodup) : t.addrs.length ≤ h.live.card := by
  rw [← List.toFinset_card_of_nodup hnodup]
  exact Finset.card_le_card fun a ha => ht.live a (List.mem_toFinset.1 ha)

/-- The cell of a node. -/
theorem get {n : ℕ × ν} (ht : Held h t) (hn : n ∈ t.nodes) :
    ∃ p q, h.get n.1 = some ⟨n.2, p, q⟩ := by
  induction t with
  | nil => cases hn
  | node m c s ihc ihs =>
    obtain ⟨hm, hc, hs⟩ := ht
    rw [Forest.nodes, List.mem_cons, List.mem_append] at hn
    rcases hn with rfl | hn | hn
    · exact ⟨_, _, hm⟩
    · exact ihc hc hn
    · exact ihs hs hn

/-- The cell of a node and what is below it. -/
theorem childOf {n : ℕ × ν} (ht : Held h t) (hnodup : t.addrs.Nodup) (hn : n ∈ t.nodes) :
    (∃ q, h.get n.1 = some ⟨n.2, (t.childOf (Forest.isAt n.1)).ptr, q⟩) ∧
      Held h (t.childOf (Forest.isAt n.1)) ∧ (t.childOf (Forest.isAt n.1)).addrs.Nodup ∧
      n.1 ∉ (t.childOf (Forest.isAt n.1)).addrs := by
  refine and_assoc.1 ⟨?_, ?_⟩
  · induction t with
    | nil => cases hn
    | node m c s ihc ihs =>
      obtain ⟨hm, hc, hs⟩ := ht
      simp only [Forest.addrs_node, List.nodup_cons, List.mem_append, not_or,
        List.nodup_append'] at hnodup
      obtain ⟨⟨hmc, hms⟩, hcn, hsn, hdisj⟩ := hnodup
      rw [Forest.nodes, List.mem_cons, List.mem_append] at hn
      rw [Forest.childOf]
      rcases hn with rfl | hn | hn
      · rw [if_pos (Forest.isAt_self n)]
        exact ⟨⟨_, hm⟩, hc⟩
      · have hnc := Forest.mem_addrs_of_mem hn
        have hmn : m.1 ≠ n.1 := fun heq => hmc (heq ▸ hnc)
        rw [Forest.isAt_of_ne hmn, if_neg (by decide), if_pos (Forest.any_isAt_iff.2 hnc)]
        exact ihc hc hcn hn
      · have hns := Forest.mem_addrs_of_mem hn
        have hmn : m.1 ≠ n.1 := fun heq => hms (heq ▸ hns)
        rw [Forest.isAt_of_ne hmn, if_neg (by decide),
          if_neg fun h => hdisj (Forest.any_isAt_iff.1 h) hns]
        exact ihs hs hsn hn
  · have hsub := Forest.addrs_childOf_sublist (Forest.mem_addrs_of_mem hn)
    have hcons := hsub.nodup hnodup
    rw [List.nodup_cons] at hcons
    exact ⟨hcons.2, hcons.1⟩

/-- What hangs behind the last sibling may be exchanged for what begins at the same address. -/
theorem exchange {x' : Forest (ℕ × ν)} (ht : Held h (t.append x)) (hx : Held h' x')
    (hptr : x'.ptr = x.ptr) (heq : ∀ a ∈ t.addrs, h'.get a = h.get a) :
    Held h' (t.append x') := by
  induction t with
  | nil => exact hx
  | node n c s ihc ihs =>
    obtain ⟨hn, hc, hs⟩ := ht
    simp only [Forest.addrs_node, List.forall_mem_cons, List.forall_mem_append] at heq
    refine ⟨?_, hc.of_agree heq.2.1, ihs hs heq.2.2⟩
    rw [heq.1, hn, Forest.ptr_append, Forest.ptr_append, hptr]

/-- **The last sibling** has no sibling; pointed at another forest, it has that behind it. -/
theorem link {l : ℕ} (ht : Held h t) (hnodup : t.addrs.Nodup) (hl : t.last = some l) :
    ∃ v p, l ∈ t.addrs ∧ h.get l = some ⟨v, p, none⟩ ∧
      ∀ (h' : Heap ν) x, h'.get l = some ⟨v, p, x.ptr⟩ →
        (∀ a ∈ t.addrs, a ≠ l → h'.get a = h.get a) → Held h' x → Held h' (t.append x) := by
  induction t with
  | nil => cases hl
  | node n c s ihc ihs =>
    obtain ⟨hn, hc, hs⟩ := ht
    simp only [Forest.addrs_node, List.nodup_cons, List.mem_append, not_or,
      List.nodup_append'] at hnodup
    obtain ⟨⟨hnc, hns⟩, hcn, hsn, hdisj⟩ := hnodup
    cases s with
    | nil =>
      obtain rfl : n.1 = l := Option.some.inj hl
      refine ⟨n.2, c.ptr, Forest.mem_addrs_node.2 (.inl rfl), hn, fun h' x hl' heq hx =>
        ⟨hl', hc.of_agree fun a ha => ?_, hx⟩⟩
      exact heq a (Forest.mem_addrs_node.2 (.inr (.inl ha))) fun heq' => hnc (heq' ▸ ha)
    | node m d u =>
      have hl' : (Forest.node m d u).last = some l := Forest.last_node_node.symm.trans hl
      obtain ⟨v, p, hmem, hget, hlink⟩ := ihs hs hsn hl'
      have hne : n.1 ≠ l := fun heq => hns (heq ▸ hmem)
      refine ⟨v, p, Forest.mem_addrs_node.2 (.inr (.inr hmem)), hget, fun h' x hlx heq hx =>
        ⟨?_, hc.of_agree fun a ha => ?_, hlink h' x hlx (fun a ha => ?_) hx⟩⟩
      · rw [heq n.1 (Forest.mem_addrs_node.2 (.inl rfl)) hne, hn, Forest.ptr_append]
        rfl
      · exact heq a (Forest.mem_addrs_node.2 (.inr (.inl ha))) fun heq' => hdisj ha (heq' ▸ hmem)
      · exact heq a (Forest.mem_addrs_node.2 (.inr (.inr ha)))

/-- **Below one node** of a forest something is added: its cell gets the new child, and what was
and is below it is held again. -/
theorem addUnder {n : ℕ × ν} (ht : Held h t) (hnodup : t.addrs.Nodup) (hn : n ∈ t.nodes)
    (hcell : ∀ p q, h.get n.1 = some ⟨n.2, p, q⟩ →
      h'.get n.1 = some ⟨n.2, ((t.childOf (Forest.isAt n.1)).append x).ptr, q⟩)
    (hchild : Held h' ((t.childOf (Forest.isAt n.1)).append x))
    (heq : ∀ a ∈ t.addrs, a ≠ n.1 → a ∉ (t.childOf (Forest.isAt n.1)).addrs →
      h'.get a = h.get a) :
    Held h' (Forest.addUnder (Forest.isAt n.1) x t) := by
  have hother : ∀ {u : Forest (ℕ × ν)}, n.1 ∉ u.addrs →
      Forest.addUnder (Forest.isAt n.1) x u = u := fun hu =>
    Forest.addUnder_of_forall fun m hm =>
      Forest.isAt_of_ne fun h => hu (h ▸ Forest.mem_addrs_of_mem hm)
  induction t with
  | nil => trivial
  | node m c s ihc ihs =>
    obtain ⟨hm, hc, hs⟩ := ht
    simp only [Forest.addrs_node, List.nodup_cons, List.mem_append, not_or,
      List.nodup_append'] at hnodup
    obtain ⟨⟨hmc, hms⟩, hcn, hsn, hdisj⟩ := hnodup
    simp only [Forest.mem_addrs_node] at heq
    rw [Forest.nodes, List.mem_cons, List.mem_append] at hn
    rw [Forest.childOf] at hcell hchild heq
    rw [Forest.addUnder]
    -- the node itself, or one below it, or one behind it
    rcases hn with rfl | hn | hn
    · simp only [Forest.isAt_self, if_true] at hcell hchild heq ⊢
      rw [hother hmc, hother hms]
      refine ⟨hcell _ _ hm, hchild, hs.of_agree fun a ha => ?_⟩
      exact heq a (.inr (.inr ha)) (fun h => hms (h ▸ ha)) fun hac => hdisj hac ha
    · have hnc := Forest.mem_addrs_of_mem hn
      have hmn : m.1 ≠ n.1 := fun h => hmc (h ▸ hnc)
      have hsub := Forest.addrs_childOf_subset hnc
      simp only [Forest.isAt_of_ne hmn, Forest.any_isAt_iff.2 hnc, Bool.false_eq_true, if_false,
        if_true] at hcell hchild heq ⊢
      rw [hother fun h => hdisj hnc h]
      refine ⟨?_, ihc hc hcn hn hcell hchild fun a ha => heq a (.inr (.inl ha)),
        hs.of_agree fun a ha => ?_⟩
      · rw [heq m.1 (.inl rfl) hmn fun h => hmc (hsub h), hm, Forest.ptr_addUnder]
      · exact heq a (.inr (.inr ha)) (fun h => hdisj hnc (h ▸ ha)) fun h => hdisj (hsub h) ha
    · have hns := Forest.mem_addrs_of_mem hn
      have hmn : m.1 ≠ n.1 := fun h => hms (h ▸ hns)
      have hany : c.any (Forest.isAt n.1) = false := by
        rw [Bool.eq_false_iff, ne_eq, Forest.any_isAt_iff]
        exact fun h => hdisj h hns
      have hsub := Forest.addrs_childOf_subset hns
      simp only [Forest.isAt_of_ne hmn, hany, Bool.false_eq_true, if_false] at hcell hchild heq ⊢
      rw [hother fun h => hdisj h hns]
      refine ⟨?_, hc.of_agree fun a ha => ?_,
        ihs hs hsn hn hcell hchild fun a ha => heq a (.inr (.inr ha))⟩
      · rw [heq m.1 (.inl rfl) hmn fun h => hms (hsub h), hm, Forest.ptr_addUnder]
      · exact heq a (.inr (.inl ha)) (fun h => hdisj (h ▸ ha) hns) fun h => hdisj ha (hsub h)

end Held

/-! ## §4 Deleting a forest -/

namespace Store

variable {ν τ : Type}

/-- What is below a node is deleted by `rec`, if there is anything, and the pointer to it replaced
by what `rec` leaves. -/
def clearChild (rec : Ptr → Act (Store ν τ) Ptr) (a : ℕ) : Act (Store ν τ) Unit := do
  let c ← deref (some a)
  if c.child = none then pure ()
  else do
    let p ← rec c.child
    assign (some a) fun c => { c with child := p }

/-- The same for what is behind a node. -/
def clearSibling (rec : Ptr → Act (Store ν τ) Ptr) (a : ℕ) : Act (Store ν τ) Unit := do
  let c ← deref (some a)
  if c.sibling = none then pure ()
  else do
    let p ← rec c.sibling
    assign (some a) fun c => { c with sibling := p }

/-- Delete a node after its child and its sibling; what is left of the pointer. -/
def clear : ℕ → Ptr → Act (Store ν τ) Ptr
  | 0, _ => .halt .hang
  | _ + 1, none => pure none
  | fuel + 1, some a => do
    clearChild (clear fuel) a
    clearSibling (clear fuel) a
    delete a
    pure none

variable {fuel : ℕ} {rec : Ptr → Act (Store ν τ) Ptr} {h : Heap ν} {vars : τ} {a : ℕ} {v : ν}
  {p q : Ptr} {t : Forest (ℕ × ν)}

theorem clearChild_run (ha : h.get a = some ⟨v, t.ptr, q⟩) (hnot : a ∉ t.addrs)
    (hrec : (rec t.ptr).run ⟨h, vars⟩ = (.ok none, ⟨h.drop t.addrs, vars⟩)) :
    (clearChild rec a).run ⟨h, vars⟩
      = (.ok (), ⟨(h.drop t.addrs).put a ⟨v, none, q⟩, vars⟩) := by
  rw [clearChild, Act.bind_run_ok (deref_run ha)]
  cases t with
  | nil =>
    have hsame : h.put a ⟨v, none, q⟩ = h := Heap.put_eq_self ha
    rw [Forest.addrs_nil, Heap.drop_nil, hsame]
    rfl
  | node n c s =>
    have ha' : (h.drop (Forest.node n c s).addrs).get a = some ⟨v, some n.1, q⟩ :=
      (Heap.get_drop_of_notMem hnot).trans ha
    rw [if_neg (by simp [Forest.ptr]), Act.bind_run_ok hrec, assign_run ha']

theorem clearSibling_run (ha : h.get a = some ⟨v, p, t.ptr⟩) (hnot : a ∉ t.addrs)
    (hrec : (rec t.ptr).run ⟨h, vars⟩ = (.ok none, ⟨h.drop t.addrs, vars⟩)) :
    (clearSibling rec a).run ⟨h, vars⟩
      = (.ok (), ⟨(h.drop t.addrs).put a ⟨v, p, none⟩, vars⟩) := by
  rw [clearSibling, Act.bind_run_ok (deref_run ha)]
  cases t with
  | nil =>
    have hsame : h.put a ⟨v, p, none⟩ = h := Heap.put_eq_self ha
    rw [Forest.addrs_nil, Heap.drop_nil, hsame]
    rfl
  | node n c s =>
    have ha' : (h.drop (Forest.node n c s).addrs).get a = some ⟨v, p, some n.1⟩ :=
      (Heap.get_drop_of_notMem hnot).trans ha
    rw [if_neg (by simp [Forest.ptr]), Act.bind_run_ok hrec, assign_run ha']

/-- **Deleting a forest** deletes its cells, each of them once, and nothing else. -/
theorem clear_run (ht : Held h t) (hnodup : t.addrs.Nodup) (hfuel : t.addrs.length < fuel) :
    (clear fuel t.ptr).run ⟨h, vars⟩ = (.ok none, ⟨h.drop t.addrs, vars⟩) := by
  induction t generalizing fuel h with
  | nil =>
    obtain ⟨fuel, rfl⟩ : ∃ k, fuel = k + 1 := ⟨fuel - 1, by omega⟩
    simp [Forest.ptr, clear]
  | node n c s ihc ihs =>
    obtain ⟨fuel, rfl⟩ : ∃ k, fuel = k + 1 := ⟨fuel - 1, by omega⟩
    obtain ⟨hn, hc, hs⟩ := ht
    simp only [Forest.addrs_node, List.nodup_cons, List.mem_append, not_or,
      List.nodup_append'] at hnodup
    obtain ⟨⟨hnc, hns⟩, hcn, hsn, hdisj⟩ := hnodup
    rw [Forest.addrs_node, List.length_cons, List.length_append] at hfuel
    -- the child first: its cells go, and the cell of the node loses the pointer to them
    have hrecc := @ihc fuel h hc hcn (by omega)
    have hchild := clearChild_run hn hnc hrecc
    -- the sibling is still held
    have hs' : Held ((h.drop c.addrs).put n.1 ⟨n.2, none, s.ptr⟩) s := by
      refine hs.of_agree fun b hb => ?_
      have hne : b ≠ n.1 := fun heq => hns (heq ▸ hb)
      rw [Heap.get_put_of_ne hne, Heap.get_drop_of_notMem fun hbc => hdisj hbc hb]
    have hrecs := @ihs fuel _ hs' hsn (by omega)
    have hsibling := clearSibling_run Heap.get_put_self hns hrecs
    rw [Forest.ptr, clear, Act.bind_run_ok hchild, Act.bind_run_ok hsibling,
      Act.bind_run_ok (delete_run Heap.get_put_self)]
    have hdrop : ((((h.drop c.addrs).put n.1 ⟨n.2, none, s.ptr⟩).drop s.addrs).put n.1
        ⟨n.2, none, none⟩).drop [n.1] = h.drop (n.1 :: (c.addrs ++ s.addrs)) := by
      apply Heap.ext_get
      intro b
      simp only [Heap.get_drop, Heap.get_put, List.mem_cons, List.mem_append]
      grind
    rw [hdrop, Forest.addrs_node]
    rfl

/-! ## §5 Linking a node behind the last child -/

/-- `while (treeTemp)`: walk to the last sibling and link `b` behind it. -/
def linkLast (b : ℕ) : ℕ → Ptr → Act (Store ν τ) Unit
  | 0, _ => .halt .hang
  | _ + 1, none => pure ()
  | fuel + 1, some a => do
    let c ← deref (some a)
    if c.sibling = none then assign (some a) fun c => { c with sibling := some b }
    else linkLast b fuel c.sibling

/-- Link `b` behind the last child of a node. -/
def linkUnder (fuel : ℕ) (p : Ptr) (b : ℕ) : Act (Store ν τ) Unit := do
  let c ← deref p
  if c.child = none then assign p fun c => { c with child := some b }
  else linkLast b fuel c.child

/-- The walk ends at the last sibling. -/
theorem linkLast_run {l b : ℕ} (ht : Held h t) (hl : t.last = some l)
    (hget : h.get l = some ⟨v, p, none⟩) (hfuel : t.addrs.length < fuel) :
    (linkLast b fuel t.ptr).run ⟨h, vars⟩
      = (.ok (), ⟨h.put l ⟨v, p, some b⟩, vars⟩) := by
  induction t generalizing fuel with
  | nil => cases hl
  | node n c s _ ihs =>
    obtain ⟨fuel, rfl⟩ : ∃ k, fuel = k + 1 := ⟨fuel - 1, by omega⟩
    obtain ⟨hn, -, hs⟩ := ht
    rw [Forest.addrs_node, List.length_cons, List.length_append] at hfuel
    rw [Forest.ptr, linkLast, Act.bind_run_ok (deref_run hn)]
    cases s with
    | nil =>
      obtain rfl : n.1 = l := Option.some.inj hl
      rw [if_pos (by rfl), assign_run hget]
    | node m d u =>
      rw [if_neg (by simp [Forest.ptr])]
      exact ihs hs (Forest.last_node_node.symm.trans hl) (by omega)

/-- **A new node** is linked behind the last child, wherever in the forest. -/
theorem linkUnder_run {n : ℕ × ν} {b : ℕ} {w : ν} (ht : Held h t) (hnodup : t.addrs.Nodup)
    (hn : n ∈ t.nodes) (hb : h.get b = some ⟨w, none, none⟩) (hbt : b ∉ t.addrs)
    (hfuel : t.addrs.length < fuel) :
    ∃ h', (linkUnder fuel (some n.1) b).run ⟨h, vars⟩ = (.ok (), ⟨h', vars⟩) ∧
      Held h' (Forest.addUnder (Forest.isAt n.1) (.node (b, w) .nil .nil) t) ∧
      (∀ a ∉ t.addrs, h'.get a = h.get a) ∧
      ∀ a c, a ≠ n.1 → h.get a = some c → ∃ q, h'.get a = some { c with sibling := q } := by
  obtain ⟨⟨q, hcell⟩, hchild, hcn, hnc⟩ := ht.childOf hnodup hn
  have hna := Forest.mem_addrs_of_mem hn
  have hnew : ∀ {h' : Heap ν}, h'.get b = h.get b →
      Held h' (Forest.node (b, w) .nil .nil) := fun heq => ⟨heq.trans hb, trivial, trivial⟩
  rw [linkUnder, Act.bind_run_ok (deref_run hcell)]
  have hsub := Forest.addrs_childOf_subset hna
  have hlen := (Forest.addrs_childOf_sublist hna).length_le
  generalize hd : t.childOf (Forest.isAt n.1) = d at *
  cases d with
  | nil =>
    have hbn : b ≠ n.1 := fun heq => hbt (heq ▸ hna)
    refine ⟨h.put n.1 ⟨n.2, some b, q⟩, ?_, ?_, fun a ha => ?_, fun a c hne hc => ⟨c.sibling, ?_⟩⟩
    · rw [if_pos (by rfl), assign_run hcell]
    · refine ht.addUnder hnodup hn (fun p' q' hget => ?_) ?_ fun a _ hne _ =>
        Heap.get_put_of_ne hne
      · obtain rfl : q = q' := by
          have := hcell.symm.trans hget
          injections
        rw [hd]
        exact Heap.get_put_self
      · rw [hd]
        exact hnew (Heap.get_put_of_ne hbn)
    · exact Heap.get_put_of_ne fun heq => ha (heq ▸ hna)
    · exact (Heap.get_put_of_ne hne).trans hc
  | node m c s =>
    obtain ⟨l, hl⟩ : ∃ l, (Forest.node m c s).last = some l := Forest.last_node
    obtain ⟨v, p, hlmem, hlget, hlink⟩ := hchild.link hcn hl
    have hln : n.1 ≠ l := fun heq => hnc (heq ▸ hlmem)
    have hbl : b ≠ l := fun heq => hbt (heq ▸ hsub hlmem)
    refine ⟨h.put l ⟨v, p, some b⟩, ?_, ?_, fun a ha => ?_, fun a c _ hc => ?_⟩
    · rw [if_neg (by simp [Forest.ptr])]
      rw [List.length_cons] at hlen
      exact linkLast_run hchild hl hlget (by omega)
    · refine ht.addUnder hnodup hn (fun p' q' hget => ?_) ?_ fun a _ hne hna => ?_
      · rw [hd, Heap.get_put_of_ne hln, hcell, Forest.ptr_append]
        have := hcell.symm.trans hget
        injections
        subst_vars
        rfl
      · rw [hd]
        exact hlink _ _ Heap.get_put_self (fun a _ hne => Heap.get_put_of_ne hne)
          (hnew (Heap.get_put_of_ne hbl))
      · rw [hd] at hna
        exact Heap.get_put_of_ne fun heq => hna (heq ▸ hlmem)
    · exact Heap.get_put_of_ne fun heq => ha (heq ▸ hsub hlmem)
    · by_cases hal : a = l
      · obtain rfl : c = ⟨v, p, none⟩ := Option.some.inj (hc.symm.trans (hal ▸ hlget))
        exact ⟨some b, hal ▸ Heap.get_put_self⟩
      · exact ⟨c.sibling, (Heap.get_put_of_ne hal).trans hc⟩

/-! ## §6 Growing a forest below a node -/

/-- What a recursion makes a forest from: the rows, in the order they are walked, which of them
become children of a node, the node of a row, and what is noted about a new node. -/
structure Grower (ρ ν τ : Type) where
  rows : List ρ
  isChild : ρ → ν → Bool
  toNode : ρ → ν
  note : ℕ × ν → τ → τ

/-- The children of a node. -/
def Grower.children {ρ : Type} (g : Grower ρ ν τ) (v : ν) : List ν :=
  (g.rows.filter fun r => g.isChild r v).map g.toNode

/-- What is noted about the nodes of a forest: a node after those below it. -/
def Grower.notes {ρ : Type} (g : Grower ρ ν τ) : Forest (ℕ × ν) → τ → τ
  | .nil, vars => vars
  | .node n child sibling, vars => g.notes sibling (g.note n (g.notes child vars))

section Growing

variable {ρ : Type} (A : Allocator) (g : Grower ρ ν τ)

/-- A new node, linked behind the child `prev` or, if there is no child, to `a` itself. -/
def newChild (v : ν) (a : ℕ) (prev : Ptr) : Act (Store ν τ) ℕ := do
  let b ← new A v
  let c ← deref (some a)
  if c.child = none then do
    assign (some a) fun c => { c with child := some b }
    pure b
  else do
    assign prev fun c => { c with sibling := some b }
    pure b

/-- The children of `a`, one after the other, each with what is below it. -/
def growLoop (rec : ℕ → Act (Store ν τ) Unit) (a : ℕ) : List ρ → Ptr → Act (Store ν τ) Unit
  | [], _ => pure ()
  | r :: rows, prev => do
    let c ← deref (some a)
    if g.isChild r c.val then do
      let b ← newChild A (g.toNode r) a prev
      rec b
      setVars (g.note (b, g.toNode r))
      growLoop rec a rows (some b)
    else growLoop rec a rows prev

/-- The children of the node at an address, and theirs, as deep as they go. -/
def growBelow : ℕ → ℕ → Act (Store ν τ) Unit
  | 0, _ => .halt .hang
  | fuel + 1, a => growLoop A g (growBelow fuel) a g.rows none

end Growing

/-- From `h` to `h'` the forest `x` was made, of new cells, and hung behind `done` below `a`. -/
structure Grown (h h' : Heap ν) (a : ℕ) (v : ν) (q : Ptr) (done x : Forest (ℕ × ν)) : Prop where
  cell : h'.get a = some ⟨v, (done.append x).ptr, q⟩
  held : Held h' (done.append x)
  nodup : x.addrs.Nodup
  fresh : ∀ b ∈ x.addrs, b ∉ h.live
  frame : ∀ b, b ≠ a → b ∉ done.addrs → b ∉ x.addrs → h'.get b = h.get b

namespace Grown

variable {h h₁ h₂ : Heap ν} {a b : ℕ} {v w : ν} {q : Ptr} {done x y c : Forest (ℕ × ν)}

/-- Nothing is deleted. -/
theorem live_mono (hg : Grown h h₁ a v q done x) : h.live ⊆ h₁.live := by
  intro k hk
  by_cases hka : k = a
  · exact hka ▸ Heap.mem_live_of_get hg.cell
  by_cases hkd : k ∈ done.addrs
  · exact hg.held.live k (by simp [hkd])
  by_cases hkx : k ∈ x.addrs
  · exact hg.held.live k (by simp [hkx])
  · rwa [Heap.mem_live, hg.frame k hka hkd hkx, ← Heap.mem_live]

/-- One forest behind another. -/
theorem trans (hx : Grown h h₁ a v q done x) (hy : Grown h₁ h₂ a v q (done.append x) y) :
    Grown h h₂ a v q done (x.append y) where
  cell := Forest.append_assoc ▸ hy.cell
  held := Forest.append_assoc ▸ hy.held
  nodup := by
    rw [Forest.addrs_append, List.nodup_append']
    refine ⟨hx.nodup, hy.nodup, fun k hkx hky => hy.fresh k hky (hx.held.live k ?_)⟩
    simp [hkx]
  fresh k hk := by
    rw [Forest.addrs_append, List.mem_append] at hk
    rcases hk with hk | hk
    · exact hx.fresh k hk
    · exact fun hlive => hy.fresh k hk (hx.live_mono hlive)
  frame k hka hkd hk := by
    rw [Forest.addrs_append, List.mem_append, not_or] at hk
    rw [hy.frame k hka (by simp [hkd, hk.1]) hk.2, hx.frame k hka hkd hk.1]

/-- A child, and then what is below it. -/
theorem below (hdone : Held h done) (ha : a ∈ h.live)
    (hn : Grown h h₁ a v q done (.node (b, w) .nil .nil))
    (hc : Grown h₁ h₂ b w none .nil c) :
    Grown h h₂ a v q done (.node (b, w) c .nil) := by
  have hb : b ∉ h.live := hn.fresh b (by simp)
  have hb₁ : b ∈ h₁.live := hn.held.live b (by simp)
  -- what was live is neither the child nor below it
  have hold : ∀ k ∈ h.live, h₂.get k = h₁.get k := fun k hk =>
    hc.frame k (fun heq => hb (heq ▸ hk)) (by simp) fun hkc => hc.fresh k hkc (hn.live_mono hk)
  refine
    { cell := ?_
      held := hn.held.exchange ⟨hc.cell, hc.held, trivial⟩ rfl fun k hk =>
        hold k (hdone.live k hk)
      nodup := ?_
      fresh := fun k hk => ?_
      frame := fun k hka hkd hk => ?_ }
  · rw [hold a ha, hn.cell, Forest.ptr_append, Forest.ptr_append]
    rfl
  · rw [Forest.addrs_node, Forest.addrs_nil, List.append_nil, List.nodup_cons]
    exact ⟨fun hbc => hc.fresh b hbc hb₁, hc.nodup⟩
  · rcases Forest.mem_addrs_node.1 hk with rfl | hk | hk
    · exact hb
    · exact fun hlive => hc.fresh k hk (hn.live_mono hlive)
    · cases hk
  · rw [Forest.mem_addrs_node, not_or, not_or] at hk
    rw [hc.frame k hk.1 (by simp) hk.2.1, hn.frame k hka hkd (by simpa using hk.1)]

/-- What was made below a leaf of a forest is part of that forest. -/
theorem addUnder {t : Forest (ℕ × ν)} {n : ℕ × ν} (ht : Held h t) (hnodup : t.addrs.Nodup)
    (hn : n ∈ t.nodes) (hleaf : t.childOf (Forest.isAt n.1) = .nil)
    (hq : h.get n.1 = some ⟨n.2, none, q⟩) (hg : Grown h h₁ n.1 n.2 q .nil x) :
    Held h₁ (Forest.addUnder (Forest.isAt n.1) x t) ∧
      (Forest.addUnder (Forest.isAt n.1) x t).addrs.Nodup := by
  have hna := Forest.mem_addrs_of_mem hn
  have hold : ∀ k ∈ t.addrs, k ∉ x.addrs := fun k hk hkx => hg.fresh k hkx (ht.live k hk)
  refine ⟨ht.addUnder hnodup hn (fun p r hget => ?_) ?_ fun k hk hkn _ => ?_, ?_⟩
  · obtain rfl : q = r := by
      have := hq.symm.trans hget
      injections
    rw [hleaf]
    exact hg.cell
  · rw [hleaf]
    exact hg.held
  · exact hg.frame k hkn (by simp) (hold k hk)
  · rw [(Forest.addrs_addUnder_perm hnodup hna).nodup_iff, List.nodup_append']
    exact ⟨hnodup, hg.nodup, fun k hk hkx => hold k hk hkx⟩

end Grown

section Growing

variable {ρ : Type} {A : Allocator} {g : Grower ρ ν τ}

/-- A new child is a new cell behind those there are. -/
theorem newChild_run {done : Forest (ℕ × ν)} (w : ν) (ha : h.get a = some ⟨v, done.ptr, q⟩)
    (hdone : Held h done) (hnodup : done.addrs.Nodup) (hnot : a ∉ done.addrs) :
    ∃ b h', (newChild A w a done.last).run ⟨h, vars⟩ = (.ok b, ⟨h', vars⟩) ∧
      Grown h h' a v q done (.node (b, w) .nil .nil) := by
  obtain ⟨b, hb⟩ : ∃ b, A.next h.live = b := ⟨_, rfl⟩
  have hfresh : b ∉ h.live := hb ▸ A.fresh h.live
  have hba : a ≠ b := fun heq => hfresh (heq ▸ Heap.mem_live_of_get ha)
  have hnew : (new A w).run (⟨h, vars⟩ : Store ν τ)
      = (.ok b, ⟨h.put b ⟨w, none, none⟩, vars⟩) := by
    rw [new_run, hb]
  have ha' : (h.put b ⟨w, none, none⟩).get a = some ⟨v, done.ptr, q⟩ :=
    (Heap.get_put_of_ne hba).trans ha
  have hdone' : Held (h.put b ⟨w, none, none⟩) done := hdone.of_agree fun k hk =>
    Heap.get_put_of_ne fun heq => hfresh (heq ▸ hdone.live k hk)
  rw [newChild, Act.bind_run_ok hnew, Act.bind_run_ok (deref_run ha')]
  cases done with
  | nil =>
    refine ⟨b, (h.put b ⟨w, none, none⟩).put a ⟨v, some b, q⟩, ?_, ?_⟩
    · rw [if_pos (by rfl), Act.bind_run_ok (assign_run ha' _)]
      rfl
    · exact
        { cell := Heap.get_put_self
          held := ⟨(Heap.get_put_of_ne hba.symm).trans Heap.get_put_self, trivial, trivial⟩
          nodup := List.nodup_singleton b
          fresh := fun k hk => List.mem_singleton.1 hk ▸ hfresh
          frame := fun k hka _ hk => by
            rw [Heap.get_put_of_ne hka, Heap.get_put_of_ne (List.mem_singleton.not.1 hk)] }
  | node m c s =>
    obtain ⟨l, hl⟩ := Forest.last_node (n := m) (c := c) (s := s)
    obtain ⟨u, p, hlmem, hlget, hlink⟩ := hdone'.link hnodup hl
    refine ⟨b, (h.put b ⟨w, none, none⟩).put l ⟨u, p, some b⟩, ?_, ?_⟩
    · rw [if_neg (by simp [Forest.ptr]), hl, Act.bind_run_ok (assign_run hlget _)]
      rfl
    · have hlb : b ≠ l := fun heq => hfresh (heq ▸ hdone.live l hlmem)
      have hla : a ≠ l := fun heq => hnot (heq ▸ hlmem)
      exact
        { cell := (Heap.get_put_of_ne hla).trans ha'
          held := hlink _ _ Heap.get_put_self (fun k _ hk => Heap.get_put_of_ne hk)
            ⟨(Heap.get_put_of_ne hlb).trans Heap.get_put_self, trivial, trivial⟩
          nodup := List.nodup_singleton b
          fresh := fun k hk => List.mem_singleton.1 hk ▸ hfresh
          frame := fun k _ hkd hk => by
            have hkl : k ≠ l := fun heq => hkd (heq ▸ hlmem)
            rw [Heap.get_put_of_ne hkl, Heap.get_put_of_ne (List.mem_singleton.not.1 hk)] }

/-- How a recursion ends below `a` that makes the forest `made`, or does not end. -/
def GrowsTo (g : Grower ρ ν τ) (s : Store ν τ) (a : ℕ) (v : ν) (q : Ptr)
    (done : Forest (ℕ × ν)) (made : Option (Forest ν)) (r : Except Halt Unit × Store ν τ) : Prop :=
  match made with
  | none => r.1 = .error .hang
  | some t => ∃ x h', x.map Prod.snd = t ∧ r = (.ok (), ⟨h', g.notes x s.vars⟩) ∧
      Grown s.heap h' a v q done x

/-- One call of the recursion, over the rows that are left. -/
theorem growLoop_run {rec : ℕ → Act (Store ν τ) Unit} {below : ν → Option (Forest ν)}
    (hrec : ∀ (h : Heap ν) vars b w, h.get b = some ⟨w, none, none⟩ →
      GrowsTo g ⟨h, vars⟩ b w none .nil (below w) ((rec b).run ⟨h, vars⟩))
    (rows : List ρ) {done : Forest (ℕ × ν)} (ha : h.get a = some ⟨v, done.ptr, q⟩)
    (hdone : Held h done) (hnodup : done.addrs.Nodup) (hnot : a ∉ done.addrs) :
    GrowsTo g ⟨h, vars⟩ a v q done
      (Forest.growAll below ((rows.filter fun r => g.isChild r v).map g.toNode))
      ((growLoop A g rec a rows done.last).run ⟨h, vars⟩) := by
  -- on the rows, with the children there are and the heap they are in as they grow
  induction rows generalizing h vars done with
  | nil =>
    exact ⟨.nil, h, rfl, rfl, ⟨by rwa [Forest.append_nil], by rwa [Forest.append_nil],
      List.nodup_nil, by simp, fun _ _ _ _ => rfl⟩⟩
  | cons r rows ih =>
    rw [growLoop, Act.bind_run_ok (deref_run ha)]
    cases hr : g.isChild r v with
    | false =>
      rw [List.filter_cons_of_neg (by simp [hr]), if_neg (by decide)]
      exact ih ha hdone hnodup hnot
    | true =>
      rw [List.filter_cons_of_pos (by simpa using hr), if_pos rfl, List.map_cons]
      obtain ⟨b, h₁, hrun, hgrown⟩ := newChild_run (A := A) (g.toNode r) ha hdone hnodup hnot
      rw [Act.bind_run_ok hrun]
      have hb := hrec h₁ vars b (g.toNode r) hgrown.held.right.1
      cases hbelow : below (g.toNode r) with
      | none =>
        -- the recursion below the child does not end
        rw [hbelow] at hb
        rcases hrun' : (rec b).run ⟨h₁, vars⟩ with ⟨e, s⟩
        obtain rfl : e = .error .hang := by
          have := congrArg Prod.fst hrun'
          exact this.symm.trans hb
        simp only [Forest.growAll, hbelow, Option.bind_eq_bind, Option.bind_none, GrowsTo]
        rw [Act.bind_run_error hrun']
      | some t =>
        rw [hbelow] at hb
        obtain ⟨x, h₂, rfl, hrun', hx⟩ := hb
        rw [Act.bind_run_ok hrun', Act.bind_run_ok (setVars_run _ _)]
        have hchild := Grown.below hdone (Heap.mem_live_of_get ha) hgrown hx
        -- the rows that are left, with this child behind the others
        have hnodup' : (done.append (.node (b, g.toNode r) x .nil)).addrs.Nodup := by
          rw [Forest.addrs_append, List.nodup_append']
          exact ⟨hnodup, hchild.nodup, fun k hkd hk => hchild.fresh k hk (hdone.live k hkd)⟩
        have hnot' : a ∉ (done.append (.node (b, g.toNode r) x .nil)).addrs := by
          rw [Forest.addrs_append, List.mem_append, not_or]
          exact ⟨hnot, fun hk => hchild.fresh a hk (Heap.mem_live_of_get ha)⟩
        have hrows := @ih h₂ (g.note (b, g.toNode r) (g.notes x vars)) _ hchild.cell
          hchild.held hnodup' hnot'
        rw [Forest.last_append_single] at hrows
        simp only [Forest.growAll, hbelow, Option.bind_eq_bind, Option.bind_some]
        cases hsib : Forest.growAll below
            ((rows.filter fun r => g.isChild r v).map g.toNode) with
        | none =>
          rw [hsib] at hrows
          exact hrows
        | some u =>
          rw [hsib] at hrows
          obtain ⟨y, h₃, rfl, hrun'', hy⟩ := hrows
          exact ⟨.node (b, g.toNode r) x y, h₃, rfl, hrun'', hchild.trans hy⟩

/-- **The recursion** makes below a node without children the forest of the table of children,
and does not end if there is none. -/
theorem growBelow_run (fuel : ℕ) (ha : h.get a = some ⟨v, none, q⟩) :
    GrowsTo g ⟨h, vars⟩ a v q .nil (Forest.grow g.children fuel (g.children v))
      ((growBelow A g fuel a).run ⟨h, vars⟩) := by
  induction fuel generalizing h vars a v q with
  | zero => rfl
  | succ fuel ih =>
    exact growLoop_run (fun h vars b w hb => ih hb) g.rows ha trivial List.nodup_nil (by simp)

end Growing

end Store

end MtpSync

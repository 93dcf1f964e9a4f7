import Mathlib.Data.List.Chain
import Mathlib.Data.List.Nodup
import Mathlib.Data.List.Perm.Subperm
import Mathlib.Logic.Relation

/-!
# Forests linked by first child and next sibling

A forest is built from a table of children: every node gets a node for each of its children, down
to those without any.  The recursion has no bound of its own, so it is run on fuel;
`grow_isSome_iff` says that it ends exactly when no line of descent is longer than the fuel, and
`grow_complete` that fuel for all nodes there are is enough if any is.

- `Mem`: the nodes of a forest
- `Under`: a node and those below it
- `grow`: the forest of a table of children
- `Apart`: nodes none of which is below another
- `append`, `addUnder`: nodes are added behind the last sibling, at the top or below some nodes
- `nodes`, `childOf`: the nodes in preorder, and what is below one of them
- `map`, `expand`: other values, and more below every node
-/

namespace MtpSync

/-- A node, its first child and its next sibling. -/
inductive Forest (ν : Type) where
  | nil
  | node (v : ν) (child sibling : Forest ν)

namespace Forest

variable {ν : Type}

/-! ## §1 Nodes -/

/-- The nodes of a forest. -/
def Mem : Forest ν → ν → Prop
  | nil, _ => False
  | node v child sibling, n => n = v ∨ child.Mem n ∨ sibling.Mem n

/-- `n` is `a` or below `a`. -/
def Under : Forest ν → ν → ν → Prop
  | nil, _, _ => False
  | node v child sibling, a, n =>
    (a = v ∧ (n = v ∨ child.Mem n)) ∨ child.Under a n ∨ sibling.Under a n

@[simp] theorem not_mem_nil {n : ν} : ¬(nil : Forest ν).Mem n := id

@[simp] theorem mem_node {v n : ν} {c s : Forest ν} :
    (node v c s).Mem n ↔ n = v ∨ c.Mem n ∨ s.Mem n := Iff.rfl

@[simp] theorem not_under_nil {a n : ν} : ¬(nil : Forest ν).Under a n := id

@[simp] theorem under_node {v a n : ν} {c s : Forest ν} :
    (node v c s).Under a n ↔ (a = v ∧ (n = v ∨ c.Mem n)) ∨ c.Under a n ∨ s.Under a n := Iff.rfl

theorem Under.mem_right {t : Forest ν} {a n : ν} (h : t.Under a n) : t.Mem n := by
  induction t with
  | nil => exact h
  | node v c s ihc ihs =>
    rcases h with ⟨rfl, rfl | h⟩ | h | h
    · exact .inl rfl
    · exact .inr (.inl h)
    · exact .inr (.inl (ihc h))
    · exact .inr (.inr (ihs h))

/-! ## §2 Growing -/

/-- A node for each of `vs`, its children grown by `rec`. -/
def growAll (rec : ν → Option (Forest ν)) : List ν → Option (Forest ν)
  | [] => some nil
  | v :: vs => do
    let child ← rec v
    let sibling ← growAll rec vs
    some (node v child sibling)

/-- The forest with the top nodes `vs`, if it is no deeper than the fuel. -/
def grow (children : ν → List ν) : ℕ → List ν → Option (Forest ν)
  | 0, _ => none
  | fuel + 1, vs => growAll (fun v => grow children fuel (children v)) vs

/-- One step down. -/
abbrev Child (children : ν → List ν) (a b : ν) : Prop := b ∈ children a

/-- Any number of steps down. -/
abbrev Desc (children : ν → List ν) : ν → ν → Prop := Relation.ReflTransGen (Child children)

variable {children : ν → List ν}

/-- A descendant is the node itself or a descendant of a child. -/
theorem desc_iff {v n : ν} :
    Desc children v n ↔ n = v ∨ ∃ w ∈ children v, Desc children w n := by
  rw [Desc, Relation.ReflTransGen.cases_head_iff]
  exact or_congr_left eq_comm

private theorem growAll_cons {rec : ν → Option (Forest ν)} {v : ν} {vs : List ν}
    {t : Forest ν} (h : growAll rec (v :: vs) = some t) :
    ∃ c s, rec v = some c ∧ growAll rec vs = some s ∧ t = node v c s := by
  simp only [growAll, Option.bind_eq_bind, Option.bind_eq_some_iff, Option.some_inj] at h
  obtain ⟨c, hc, s, hs, rfl⟩ := h
  exact ⟨c, s, hc, hs, rfl⟩

/-- What holds of the forests below the top nodes decides what is in the forest. -/
private theorem mem_growAll {rec : ν → Option (Forest ν)} {P : ν → ν → Prop}
    (hrec : ∀ v c n, rec v = some c → (c.Mem n ↔ P v n)) {vs : List ν} {t : Forest ν} {n : ν}
    (h : growAll rec vs = some t) : t.Mem n ↔ ∃ v ∈ vs, n = v ∨ P v n := by
  induction vs generalizing t with
  | nil =>
    cases h
    simp
  | cons v vs ih =>
    obtain ⟨c, s, hc, hs, rfl⟩ := growAll_cons h
    rw [mem_node, hrec v c n hc, ih hs, ← or_assoc]
    simp

/-- **The nodes of a grown forest** are the descendants of its top nodes. -/
theorem mem_grow {fuel : ℕ} {vs : List ν} {t : Forest ν} (h : grow children fuel vs = some t)
    {n : ν} : t.Mem n ↔ ∃ v ∈ vs, Desc children v n := by
  induction fuel generalizing vs t n with
  | zero => cases h
  | succ fuel ih =>
    rw [mem_growAll (fun v c n hc => ih hc) h]
    exact exists_congr fun v => and_congr_right fun _ => desc_iff.symm

/-- **Below a node** of a grown forest are its descendants. -/
theorem under_grow {fuel : ℕ} {vs : List ν} {t : Forest ν} (h : grow children fuel vs = some t)
    {a n : ν} : t.Under a n ↔ t.Mem a ∧ Desc children a n := by
  -- on the fuel, and for each fuel on the list of roots
  induction fuel generalizing vs t with
  | zero => cases h
  | succ fuel ih =>
    rw [grow] at h
    induction vs generalizing t with
    | nil =>
      cases h
      simp
    | cons v vs ihs =>
      obtain ⟨c, s, hc, hs, rfl⟩ := growAll_cons h
      have hself : n = v ∨ c.Mem n ↔ Desc children v n := by
        rw [mem_grow hc]
        exact desc_iff.symm
      rw [under_node, hself, ih hc, ihs hs, mem_node]
      constructor
      · rintro (⟨rfl, hdesc⟩ | ⟨hmem, hdesc⟩ | ⟨hmem, hdesc⟩)
        · exact ⟨.inl rfl, hdesc⟩
        · exact ⟨.inr (.inl hmem), hdesc⟩
        · exact ⟨.inr (.inr hmem), hdesc⟩
      · rintro ⟨rfl | hmem | hmem, hdesc⟩
        · exact .inl ⟨rfl, hdesc⟩
        · exact .inr (.inl ⟨hmem, hdesc⟩)
        · exact .inr (.inr ⟨hmem, hdesc⟩)

/-! ## §3 When growing ends -/

/-- Whether all of `vs` can be grown. -/
private theorem growAll_isSome {rec : ν → Option (Forest ν)} {vs : List ν} :
    (growAll rec vs).isSome = true ↔ ∀ v ∈ vs, (rec v).isSome = true := by
  induction vs with
  | nil => simp [growAll]
  | cons v vs ih =>
    rw [List.forall_mem_cons, ← ih, growAll]
    cases rec v with
    | none => simp
    | some c => cases growAll rec vs <;> simp

/-- **Growing ends** exactly when every line of descent is short enough. -/
theorem grow_isSome_iff {fuel : ℕ} {vs : List ν} :
    (grow children (fuel + 1) vs).isSome = true ↔
      ∀ v ∈ vs, ∀ l, List.IsChain (Child children) (v :: l) → (v :: l).length ≤ fuel := by
  induction fuel generalizing vs with
  | zero =>
    rw [grow, growAll_isSome]
    constructor
    · intro h v hv
      exact absurd (h v hv) (by simp [grow])
    · intro h v hv
      exact absurd (h v hv [] (List.isChain_singleton v)) (by simp)
  -- a chain from v is v alone, or a child of v and a shorter chain
  | succ fuel ih =>
    rw [grow, growAll_isSome]
    refine forall_congr' fun v => imp_congr_right fun _ => ?_
    rw [ih]
    constructor
    · intro h l hl
      cases l with
      | nil => simp
      | cons w l =>
        rw [List.isChain_cons_cons] at hl
        have hle := h w hl.1 l hl.2
        simpa using hle
    · intro h w hw l hl
      have hle := h (w :: l) (List.isChain_cons_cons.2 ⟨hw, hl⟩)
      simpa using hle

/-- More fuel gives the same forest. -/
theorem grow_mono {fuel fuel' : ℕ} (hle : fuel ≤ fuel') {vs : List ν} {t : Forest ν}
    (h : grow children fuel vs = some t) : grow children fuel' vs = some t := by
  induction fuel generalizing fuel' vs t with
  | zero => cases h
  | succ fuel ih =>
    obtain ⟨fuel', rfl⟩ : ∃ n, fuel' = n + 1 := ⟨fuel' - 1, by omega⟩
    rw [grow] at h ⊢
    induction vs generalizing t with
    | nil => exact h
    | cons v vs ihs =>
      obtain ⟨c, s, hc, hs, rfl⟩ := growAll_cons h
      rw [growAll, ih (by omega) hc, ihs hs]
      rfl

/-- What was grown below a node took less fuel than the whole. -/
private theorem grow_of_mem {fuel : ℕ} {vs : List ν} {t : Forest ν} {n : ν}
    (h : grow children fuel vs = some t) (hn : t.Mem n) :
    ∃ fuel' < fuel, ∃ c, grow children fuel' (children n) = some c := by
  induction fuel generalizing vs t with
  | zero => cases h
  | succ fuel ih =>
    rw [grow] at h
    induction vs generalizing t with
    | nil =>
      cases h
      exact absurd hn not_mem_nil
    | cons v vs ihs =>
      obtain ⟨c, s, hc, hs, rfl⟩ := growAll_cons h
      rcases hn with rfl | hn | hn
      · exact ⟨fuel, Nat.lt_succ_self fuel, c, hc⟩
      · obtain ⟨fuel', hlt, hsome⟩ := ih hc hn
        exact ⟨fuel', Nat.lt_succ_of_lt hlt, hsome⟩
      · exact ihs hs hn

/-- **No node of a grown forest is below itself**: growing it would never end. -/
theorem acyclic_of_grow {fuel : ℕ} {vs : List ν} {t : Forest ν} {n : ν}
    (h : grow children fuel vs = some t) (hn : t.Mem n) :
    ¬Relation.TransGen (Child children) n n := by
  intro hcycle
  obtain ⟨w, hw, hdesc⟩ := Relation.TransGen.head'_iff.1 hcycle
  -- growing below `n` grows below `n` again, with less fuel
  induction fuel using Nat.strong_induction_on generalizing vs t with
  | _ fuel ih =>
    obtain ⟨fuel', hlt, c, hc⟩ := grow_of_mem h hn
    exact ih fuel' hlt hc ((mem_grow hc).2 ⟨w, hw, hdesc⟩)

/-- Every node of a line of descent is below its first. -/
private theorem desc_of_chain {v x : ν} {l : List ν}
    (hl : List.IsChain (Child children) (v :: l)) (hx : x ∈ v :: l) : Desc children v x := by
  have hpair := (hl.imp fun _ _ => Relation.TransGen.single).pairwise
  rcases List.mem_cons.1 hx with rfl | hx
  · exact .refl
  · exact (List.rel_of_pairwise_cons hpair hx).to_reflTransGen

/-- Where nothing below `v` is below itself, a line of descent names no node twice. -/
private theorem nodup_of_chain {v : ν} {l : List ν}
    (hacyclic : ∀ n, Desc children v n → ¬Relation.TransGen (Child children) n n)
    (hl : List.IsChain (Child children) (v :: l)) : (v :: l).Nodup := by
  have hpair := (hl.imp fun _ _ => Relation.TransGen.single).pairwise
  refine hpair.imp_of_mem fun {a b} ha _ hab hne => ?_
  subst hne
  exact hacyclic a (desc_of_chain hl ha) hab

section Universe

variable {univ : List ν} (huniv : ∀ a, ∀ b ∈ children a, b ∈ univ) {vs : List ν}
  (hvs : ∀ v ∈ vs, v ∈ univ)

include huniv

/-- Where the top nodes are among those there are, all below them are. -/
private theorem mem_of_desc {v n : ν} (hv : v ∈ univ) (h : Desc children v n) : n ∈ univ := by
  cases h with
  | refl => exact hv
  | tail _ hchild => exact huniv _ n hchild

/-- **Where every node has one parent**, a cycle below `v` goes through `v`. -/
theorem cycle_of_desc
    (hparent : ∀ a ∈ univ, ∀ a' ∈ univ, ∀ b, b ∈ children a → b ∈ children a' → a = a') {v n : ν}
    (hv : v ∈ univ) (hn : Desc children v n) (hcycle : Relation.TransGen (Child children) n n) :
    Relation.TransGen (Child children) v v := by
  -- a cycle goes round every node above it, up to the top
  induction hn with
  | refl => exact hcycle
  | @tail y n hy hchild ih =>
    obtain ⟨a, hdesc, hchild'⟩ := Relation.TransGen.tail'_iff.1 hcycle
    have hmem := mem_of_desc huniv hv hy
    obtain rfl := hparent a (mem_of_desc huniv (huniv y n hchild) hdesc) y hmem n hchild' hchild
    exact ih (Relation.TransGen.head' hchild hdesc)

/-- Where `v` has no parent, nothing below it is below itself. -/
theorem acyclic_of_parent
    (hparent : ∀ a ∈ univ, ∀ a' ∈ univ, ∀ b, b ∈ children a → b ∈ children a' → a = a') {v n : ν}
    (hv : v ∈ univ) (htop : ∀ a ∈ univ, v ∉ children a) (hn : Desc children v n) :
    ¬Relation.TransGen (Child children) n n := by
  intro hcycle
  obtain ⟨a, hdesc, hchild⟩ :=
    Relation.TransGen.tail'_iff.1 (cycle_of_desc huniv hparent hv hn hcycle)
  exact htop a (mem_of_desc huniv hv hdesc) hchild

/-- **Where every node has one parent**, a node is on a cycle if one of its children is. -/
theorem cycle_child_iff
    (hparent : ∀ a ∈ univ, ∀ a' ∈ univ, ∀ b, b ∈ children a → b ∈ children a' → a = a') {v : ν}
    (hv : v ∈ univ) :
    (∃ w ∈ children v, Relation.TransGen (Child children) w w) ↔
      Relation.TransGen (Child children) v v := by
  constructor
  · rintro ⟨w, hw, hcycle⟩
    obtain ⟨a, hdesc, hchild⟩ := Relation.TransGen.tail'_iff.1 hcycle
    obtain rfl := hparent a (mem_of_desc huniv (huniv v w hw) hdesc) v hv w hchild hw
    exact Relation.TransGen.head' hchild hdesc
  · intro hcycle
    obtain ⟨w, hw, hdesc⟩ := Relation.TransGen.head'_iff.1 hcycle
    exact ⟨w, hw, Relation.TransGen.tail' hdesc hw⟩

include hvs

/-- Where nothing is below itself, fuel for all nodes is enough. -/
theorem grow_isSome_of_acyclic
    (hacyclic : ∀ v ∈ vs, ∀ n, Desc children v n → ¬Relation.TransGen (Child children) n n) :
    (grow children (univ.length + 1) vs).isSome = true := by
  refine grow_isSome_iff.2 fun v hv l hl => ?_
  refine (List.subperm_of_subset (nodup_of_chain (hacyclic v hv) hl) fun x hx => ?_).length_le
  exact mem_of_desc huniv (hvs v hv) (desc_of_chain hl hx)

/-- **Fuel for all nodes is enough**, if any fuel is. -/
theorem grow_complete {fuel : ℕ} {t : Forest ν} (h : grow children fuel vs = some t) :
    grow children (univ.length + 1) vs = some t := by
  have hsome := grow_isSome_of_acyclic huniv hvs fun v hv n hn =>
    acyclic_of_grow h ((mem_grow h).2 ⟨v, hv, hn⟩)
  obtain ⟨t', ht'⟩ := Option.isSome_iff_exists.1 hsome
  rcases Nat.le_total fuel (univ.length + 1) with hle | hle
  · exact grow_mono hle h
  · rw [ht', ← grow_mono hle ht', h]

/-- **Where every node has one parent**, growing ends, with whatever fuel, if no top node is below
itself. -/
theorem exists_grow_isSome_iff
    (hparent : ∀ a ∈ univ, ∀ a' ∈ univ, ∀ b, b ∈ children a → b ∈ children a' → a = a') :
    (∃ fuel, (grow children fuel vs).isSome = true) ↔
      ∀ v ∈ vs, ¬Relation.TransGen (Child children) v v := by
  constructor
  · rintro ⟨fuel, h⟩ v hv
    obtain ⟨t, ht⟩ := Option.isSome_iff_exists.1 h
    exact acyclic_of_grow ht ((mem_grow ht).2 ⟨v, hv, .refl⟩)
  · intro h
    exact ⟨_, grow_isSome_of_acyclic huniv hvs fun v hv n hn hcycle =>
      h v hv (cycle_of_desc huniv hparent (hvs v hv) hn hcycle)⟩

/-- Fuel for all nodes is enough. -/
theorem grow_isSome_of_exists (h : ∃ fuel, (grow children fuel vs).isSome = true) :
    (grow children (univ.length + 1) vs).isSome = true := by
  obtain ⟨fuel, hsome⟩ := h
  obtain ⟨t, ht⟩ := Option.isSome_iff_exists.1 hsome
  rw [grow_complete huniv hvs ht]
  rfl

end Universe

/-! ## §4 Nodes apart from one another -/

/-- None of the nodes is below one of them. -/
def Apart (children : ν → List ν) (vs : List ν) : Prop :=
  ∀ v ∈ vs, ∀ w ∈ vs, ¬Relation.TransGen (Child children) v w

section OneParent

variable (hparent : ∀ a a' b, b ∈ children a → b ∈ children a' → a = a')

include hparent

/-- Whatever is above a node is its parent or above it. -/
private theorem desc_parent {v w a : ν} (h : Relation.TransGen (Child children) v w)
    (hw : w ∈ children a) : Desc children v a := by
  obtain ⟨b, hdesc, hchild⟩ := Relation.TransGen.tail'_iff.1 h
  rwa [hparent a b w hw hchild]

/-- Children of one node are apart, if none of them is below itself. -/
theorem apart_of_children {vs : List ν} {a : ν} (hvs : ∀ v ∈ vs, v ∈ children a)
    (hacyclic : ∀ v ∈ vs, ¬Relation.TransGen (Child children) v v) : Apart children vs :=
  fun v hv w hw h => hacyclic v hv (.tail' (desc_parent hparent h (hvs w hw)) (hvs v hv))

/-- The children of a node that is not below itself are apart. -/
theorem Apart.children_of_mem {vs : List ν} (h : Apart children vs) {v : ν} (hv : v ∈ vs) :
    Apart children (children v) :=
  fun _ ha _ hb hab => h v hv v hv (.head' ha (desc_parent hparent hab hb))

/-- Nothing is below two of them. -/
theorem Apart.eq_of_below {vs : List ν} (h : Apart children vs) {v w n : ν} (hv : v ∈ vs)
    (hw : w ∈ vs) (hvn : Relation.TransGen (Child children) v n)
    (hwn : Relation.TransGen (Child children) w n) : v = w := by
  have hunique : Relator.RightUnique (Function.swap (Child children)) :=
    fun _ _ _ hb hb' => hparent _ _ _ hb hb'
  -- one is above the other, and then they are the same
  rcases Relation.ReflTransGen.total_of_right_unique hunique
    (Relation.reflTransGen_swap.2 hvn.to_reflTransGen)
    (Relation.reflTransGen_swap.2 hwn.to_reflTransGen) with htotal | htotal
  · rcases Relation.reflTransGen_iff_eq_or_transGen.1 (Relation.reflTransGen_swap.1 htotal)
      with heq | hlt
    · exact heq
    · exact absurd hlt (h w hw v hv)
  · rcases Relation.reflTransGen_iff_eq_or_transGen.1 (Relation.reflTransGen_swap.1 htotal)
      with heq | hlt
    · exact heq.symm
    · exact absurd hlt (h v hv w hw)

end OneParent

/-! ## §5 Adding nodes -/

/-- Behind the last sibling. -/
def append : Forest ν → Forest ν → Forest ν
  | nil, x => x
  | node v child sibling, x => node v child (sibling.append x)

/-- Behind the last child of every node with `p`. -/
def addUnder (p : ν → Bool) (x : Forest ν) : Forest ν → Forest ν
  | nil => nil
  | node v child sibling =>
    node v (if p v then (addUnder p x child).append x else addUnder p x child)
      (addUnder p x sibling)

/-- Whether some node has `p`. -/
def any (p : ν → Bool) : Forest ν → Bool
  | nil => false
  | node v child sibling => p v || child.any p || sibling.any p

theorem any_iff {p : ν → Bool} {t : Forest ν} : t.any p = true ↔ ∃ n, t.Mem n ∧ p n = true := by
  induction t with
  | nil => simp [any]
  | node v c s ihc ihs =>
    simp only [any, Bool.or_eq_true, ihc, ihs, mem_node]
    constructor
    · rintro ((hv | ⟨n, hn, hp⟩) | ⟨n, hn, hp⟩)
      · exact ⟨v, .inl rfl, hv⟩
      · exact ⟨n, .inr (.inl hn), hp⟩
      · exact ⟨n, .inr (.inr hn), hp⟩
    · rintro ⟨n, rfl | hn | hn, hp⟩
      · exact .inl (.inl hp)
      · exact .inl (.inr ⟨n, hn, hp⟩)
      · exact .inr ⟨n, hn, hp⟩

@[simp] theorem mem_append {t x : Forest ν} {n : ν} : (t.append x).Mem n ↔ t.Mem n ∨ x.Mem n := by
  induction t with
  | nil => simp [append]
  | node v c s _ ihs => simp only [append, mem_node, ihs, or_assoc]

@[simp] theorem under_append {t x : Forest ν} {a n : ν} :
    (t.append x).Under a n ↔ t.Under a n ∨ x.Under a n := by
  induction t with
  | nil => simp [append]
  | node v c s _ ihs => simp only [append, under_node, ihs, or_assoc]

variable {p : ν → Bool} {x : Forest ν}

theorem mem_addUnder {t : Forest ν} {n : ν} :
    (addUnder p x t).Mem n ↔ t.Mem n ∨ (∃ m, t.Mem m ∧ p m = true) ∧ x.Mem n := by
  rw [← any_iff]
  induction t with
  | nil => simp [addUnder, any]
  | node v c s ihc ihs =>
    rw [addUnder, mem_node, mem_node, ihs, any]
    cases hv : p v with
    | true =>
      rw [if_pos rfl, mem_append, ihc]
      simp only [Bool.true_or, true_and]
      grind
    | false =>
      rw [if_neg (by decide), ihc]
      simp only [Bool.false_or, Bool.or_eq_true]
      grind

/-- **Below a node** after nodes were added: what was there, what is below a new node, and what
was added below a node of its own. -/
theorem under_addUnder {t : Forest ν} {a n : ν} :
    (addUnder p x t).Under a n ↔ t.Under a n ∨ (∃ m, t.Mem m ∧ p m = true) ∧ x.Under a n ∨
      (∃ m, t.Under a m ∧ p m = true) ∧ x.Mem n := by
  induction t with
  | nil => simp [addUnder]
  | node v c s ihc ihs =>
    rw [addUnder, under_node, under_node, ihs]
    have hmem : (∃ m, (node v c s).Mem m ∧ p m = true) ↔
        p v = true ∨ (∃ m, c.Mem m ∧ p m = true) ∨ ∃ m, s.Mem m ∧ p m = true := by
      simp only [mem_node, or_and_right, exists_or, exists_eq_left]
    have hunder : (∃ m, (node v c s).Under a m ∧ p m = true) ↔
        (a = v ∧ (p v = true ∨ ∃ m, c.Mem m ∧ p m = true)) ∨
          (∃ m, c.Under a m ∧ p m = true) ∨ ∃ m, s.Under a m ∧ p m = true := by
      simp only [under_node, or_and_right, exists_or, and_assoc, exists_and_left, exists_eq_left]
    rw [hmem, hunder]
    -- whether the new forest is hung below this node
    cases hv : p v with
    | true =>
      rw [if_pos rfl, mem_append, under_append, mem_addUnder, ihc]
      grind
    | false =>
      rw [if_neg (by decide), mem_addUnder, ihc]
      grind

/-! ## §6 Preorder -/

/-- The nodes, every one before those below it. -/
def nodes : Forest ν → List ν
  | nil => []
  | node v child sibling => v :: (child.nodes ++ sibling.nodes)

/-- The forest below the first node with `p`. -/
def childOf (p : ν → Bool) : Forest ν → Forest ν
  | nil => nil
  | node v child sibling =>
    if p v then child else if child.any p then childOf p child else childOf p sibling

theorem mem_nodes {t : Forest ν} {n : ν} : n ∈ t.nodes ↔ t.Mem n := by
  induction t with
  | nil => simp [nodes]
  | node v c s ihc ihs => rw [nodes, List.mem_cons, List.mem_append, ihc, ihs, mem_node]

@[simp] theorem nodes_append {t x : Forest ν} : (t.append x).nodes = t.nodes ++ x.nodes := by
  induction t with
  | nil => rfl
  | node v c s _ ihs => simp only [append, nodes, ihs, List.cons_append, List.append_assoc]

/-- Where no node has `p`, nothing is added. -/
theorem addUnder_of_forall {t : Forest ν} (h : ∀ n ∈ t.nodes, p n = false) :
    addUnder p x t = t := by
  induction t with
  | nil => rfl
  | node v c s ihc ihs =>
    simp only [nodes, List.forall_mem_cons, List.forall_mem_append] at h
    rw [addUnder, ihc h.2.1, ihs h.2.2, h.1, if_neg (by decide)]

variable [DecidableEq ν]

/-- **Below one node** whatever is added is added once. -/
theorem nodes_addUnder_perm {t : Forest ν} {v : ν} (hnodup : t.nodes.Nodup) (hv : v ∈ t.nodes) :
    (addUnder (· == v) x t).nodes.Perm (t.nodes ++ x.nodes) := by
  have hother : ∀ {u : Forest ν}, v ∉ u.nodes → addUnder (· == v) x u = u := fun hu =>
    addUnder_of_forall fun n hn => beq_false_of_ne fun heq => hu (heq ▸ hn)
  induction t with
  | nil => cases hv
  | node w c s ihc ihs =>
    rw [nodes, List.nodup_cons, List.mem_append, not_or, List.nodup_append'] at hnodup
    obtain ⟨⟨hwc, hws⟩, hc, hs, hdisj⟩ := hnodup
    rw [addUnder]
    rw [nodes, List.mem_cons, List.mem_append] at hv
    -- the node itself, or one below it, or one behind it
    rcases hv with rfl | hv | hv
    · rw [hother hwc, hother hws, if_pos (beq_self_eq_true v), nodes, nodes_append, nodes,
        List.cons_append, List.append_assoc, List.append_assoc]
      exact (List.perm_append_comm.append_left c.nodes).cons v
    · have hne : (w == v) = false := beq_false_of_ne fun heq => hwc (heq ▸ hv)
      rw [hother fun hv' => hdisj hv hv', hne, if_neg (by decide), nodes, nodes,
        List.cons_append, List.append_assoc]
      refine .cons w (((ihc hc hv).append_right s.nodes).trans ?_)
      rw [List.append_assoc]
      exact List.perm_append_comm.append_left c.nodes
    · have hne : (w == v) = false := beq_false_of_ne fun heq => hws (heq ▸ hv)
      rw [hother fun hv' => hdisj hv' hv, hne, if_neg (by decide), nodes, nodes,
        List.cons_append, List.append_assoc]
      exact .cons w ((ihs hs hv).append_left c.nodes)

/-- A node and what is below it, in the order of the whole. -/
theorem nodes_childOf_sublist {t : Forest ν} {v : ν} (hv : v ∈ t.nodes) :
    (v :: (childOf (· == v) t).nodes).Sublist t.nodes := by
  induction t with
  | nil => cases hv
  | node w c s ihc ihs =>
    rw [childOf, nodes]
    by_cases hw : w = v
    · subst hw
      rw [if_pos (beq_self_eq_true w)]
      exact (List.sublist_append_left c.nodes s.nodes).cons_cons w
    · have hany : c.any (· == v) = true ↔ v ∈ c.nodes := by
        simp only [any_iff, mem_nodes, beq_iff_eq, exists_eq_right]
      rw [if_neg (by simpa using hw)]
      split
      next h => exact ((ihc (hany.1 h)).trans (List.sublist_append_left c.nodes s.nodes)).cons w
      next h =>
        rw [nodes, List.mem_cons, List.mem_append] at hv
        have hs : v ∈ s.nodes := (hv.resolve_left (Ne.symm hw)).resolve_left (mt hany.2 h)
        exact ((ihs hs).trans (List.sublist_append_right c.nodes s.nodes)).cons w

end Forest

/-! ## §7 Other values, other shapes -/

namespace Forest

variable {ν μ : Type}

@[simp] theorem append_nil {t : Forest ν} : t.append nil = t := by
  induction t with
  | nil => rfl
  | node m d s _ ihs => rw [append, ihs]

theorem append_assoc {t x y : Forest ν} : (t.append x).append y = t.append (x.append y) := by
  induction t with
  | nil => rfl
  | node m d s _ ihs => simp only [append, ihs]

/-- The same forest with other values. -/
def map (f : ν → μ) : Forest ν → Forest μ
  | nil => nil
  | node v child sibling => node (f v) (child.map f) (sibling.map f)

theorem nodes_map {f : ν → μ} {t : Forest ν} : (t.map f).nodes = t.nodes.map f := by
  induction t with
  | nil => rfl
  | node v c s ihc ihs => simp only [map, nodes, ihc, ihs, List.map_cons, List.map_append]

theorem map_append {f : ν → μ} {t x : Forest ν} :
    (t.append x).map f = (t.map f).append (x.map f) := by
  induction t with
  | nil => rfl
  | node v c s _ ihs => simp only [append, map, ihs]

theorem any_map {f : ν → μ} {q : μ → Bool} {t : Forest ν} :
    (t.map f).any q = t.any fun v => q (f v) := by
  induction t with
  | nil => rfl
  | node v c s ihc ihs => simp only [any, map, ihc, ihs]

/-- Values and what is added below them, where the same nodes are meant before and after. -/
theorem map_addUnder {f : ν → μ} {p : ν → Bool} {q : μ → Bool} {t x : Forest ν}
    (h : ∀ v ∈ t.nodes, p v = q (f v)) :
    (addUnder p x t).map f = addUnder q (x.map f) (t.map f) := by
  induction t with
  | nil => rfl
  | node v c s ihc ihs =>
    simp only [nodes, List.forall_mem_cons, List.forall_mem_append] at h
    simp only [addUnder, map, ihs h.2.2, h.1]
    split
    · rw [map_append, ihc h.2.1]
    · rw [ihc h.2.1]

theorem map_childOf {f : ν → μ} {q : μ → Bool} {t : Forest ν} :
    (childOf (fun v => q (f v)) t).map f = childOf q (t.map f) := by
  induction t with
  | nil => rfl
  | node v c s ihc ihs =>
    simp only [childOf, map, any_map]
    split
    · rfl
    · split
      · exact ihc
      · exact ihs

/-- Growing with other values: the same table of children, as far as it is used. -/
theorem map_grow {f : ν → μ} {children : ν → List ν} {children' : μ → List μ} {P : ν → Prop}
    (hclosed : ∀ v, P v → ∀ w ∈ children v, P w)
    (hchildren : ∀ v, P v → children' (f v) = (children v).map f) {fuel : ℕ} {vs : List ν}
    (hvs : ∀ v ∈ vs, P v) :
    grow children' fuel (vs.map f) = (grow children fuel vs).map (map f) := by
  induction fuel generalizing vs with
  | zero => rfl
  | succ fuel ih =>
    rw [grow, grow]
    induction vs with
    | nil => rfl
    | cons v vs ihs =>
      rw [List.forall_mem_cons] at hvs
      rw [List.map_cons, growAll, growAll, hchildren v hvs.1, ih (hclosed v hvs.1), ihs hvs.2]
      cases grow children fuel (children v) with
      | none => rfl
      | some c => cases growAll (fun v => grow children fuel (children v)) vs <;> rfl

/-- **No node twice**: the children of a node are different, and so are the top nodes, none of
which is below one of them; and no node has two parents. -/
theorem nodes_grow_nodup {children : ν → List ν}
    (hparent : ∀ a a' b, b ∈ children a → b ∈ children a' → a = a')
    (hchildren : ∀ v, (children v).Nodup) {fuel : ℕ} {vs : List ν} {t : Forest ν}
    (h : grow children fuel vs = some t) (hnodup : vs.Nodup) (hapart : Apart children vs) :
    t.nodes.Nodup := by
  induction fuel generalizing vs t with
  | zero => cases h
  | succ fuel ih =>
    induction vs generalizing t with
    | nil =>
      cases h
      exact List.nodup_nil
    | cons v vs ihs =>
      rw [grow, growAll] at h
      simp only [Option.bind_eq_bind, Option.bind_eq_some_iff, Option.some_inj] at h
      obtain ⟨c, hc, s, hs, rfl⟩ := h
      have hs' : grow children (fuel + 1) vs = some s := hs
      rw [List.nodup_cons] at hnodup
      have hv : v ∈ v :: vs := .head vs
      have hvs : ∀ w ∈ vs, w ∈ v :: vs := fun w hw => .tail v hw
      have hbelow : ∀ n, n ∈ c.nodes → Relation.TransGen (Child children) v n := fun n hn => by
        obtain ⟨w, hw, hdesc⟩ := (mem_grow hc).1 (mem_nodes.1 hn)
        exact .head' hw hdesc
      have hbehind : ∀ n, n ∈ s.nodes → ∃ w ∈ vs, Desc children w n := fun n hn =>
        (mem_grow hs').1 (mem_nodes.1 hn)
      rw [nodes, List.nodup_cons, List.mem_append, not_or, List.nodup_append']
      refine ⟨⟨fun hn => hapart v hv v hv (hbelow v hn), fun hn => ?_⟩,
        ih hc (hchildren v) (hapart.children_of_mem hparent hv),
        ihs hs' hnodup.2 fun a ha b hb => hapart a (hvs a ha) b (hvs b hb), fun n hnc hns => ?_⟩
      · obtain ⟨w, hw, hdesc⟩ := hbehind v hn
        rcases Relation.reflTransGen_iff_eq_or_transGen.1 hdesc with rfl | hlt
        · exact hnodup.1 hw
        · exact hapart w (hvs w hw) v hv hlt
      · obtain ⟨w, hw, hdesc⟩ := hbehind n hns
        rcases Relation.reflTransGen_iff_eq_or_transGen.1 hdesc with rfl | hlt
        · exact hapart v hv n (hvs n hw) (hbelow n hnc)
        · have heq := hapart.eq_of_below hparent hv (hvs w hw) (hbelow n hnc) hlt
          exact hnodup.1 (heq ▸ hw)

/-- Other values, and behind the last child of every node a forest of its own. -/
def expand (g : ν → μ) (f : ν → Forest μ) : Forest ν → Forest μ
  | nil => nil
  | node v child sibling => node (g v) ((expand g f child).append (f v)) (expand g f sibling)

section Expand

variable {g : ν → μ} {f f' : ν → Forest μ} {t x : Forest ν} {p : ν → Bool}

theorem expand_append : (t.append x).expand g f = (t.expand g f).append (x.expand g f) := by
  induction t with
  | nil => rfl
  | node v c s _ ihs => simp only [append, expand, ihs]

/-- Nothing is added where the forests are empty. -/
theorem expand_eq_map (h : ∀ v ∈ t.nodes, f v = nil) : t.expand g f = t.map g := by
  induction t with
  | nil => rfl
  | node v c s ihc ihs =>
    simp only [nodes, List.forall_mem_cons, List.forall_mem_append] at h
    rw [expand, map, h.1, append_nil, ihc h.2.1, ihs h.2.2]

theorem expand_congr (h : ∀ v ∈ t.nodes, f v = f' v) : t.expand g f = t.expand g f' := by
  induction t with
  | nil => rfl
  | node v c s ihc ihs =>
    simp only [nodes, List.forall_mem_cons, List.forall_mem_append] at h
    rw [expand, expand, h.1, ihc h.2.1, ihs h.2.2]

/-- A forest that was to be added below some nodes, added there. -/
theorem expand_addUnder_self (hp : ∀ v ∈ t.nodes, p v = true → f' v = nil ∧ f v = x.expand g f')
    (hnot : ∀ v ∈ t.nodes, p v = false → f' v = f v) :
    (addUnder p x t).expand g f' = t.expand g f := by
  induction t with
  | nil => rfl
  | node v c s ihc ihs =>
    simp only [nodes, List.forall_mem_cons, List.forall_mem_append] at hp hnot
    rw [addUnder, expand, expand, ihs hp.2.2 hnot.2.2]
    cases hv : p v with
    | true =>
      obtain ⟨hnil, hx⟩ := hp.1 hv
      rw [if_pos rfl, expand_append, ihc hp.2.1 hnot.2.1, hnil, append_nil, hx]
    | false => rw [if_neg (by decide), ihc hp.2.1 hnot.2.1, hnot.1 hv]

theorem any_append {y : Forest ν} : (t.append y).any p = (t.any p || y.any p) := by
  induction t with
  | nil => rfl
  | node v c s _ ihs => simp only [append, any, ihs, Bool.or_assoc]

/-- What is added has no node that is looked for. -/
theorem any_expand {q : μ → Bool} (hf : ∀ v ∈ t.nodes, (f v).any q = false) :
    (t.expand g f).any q = t.any fun v => q (g v) := by
  induction t with
  | nil => rfl
  | node v c s ihc ihs =>
    simp only [nodes, List.forall_mem_cons, List.forall_mem_append] at hf
    rw [expand, any, any, any_append, hf.1, Bool.or_false, ihc hf.2.1, ihs hf.2.2]

theorem addUnder_append {y : Forest ν} :
    addUnder p x (t.append y) = (addUnder p x t).append (addUnder p x y) := by
  induction t with
  | nil => rfl
  | node v c s _ ihs => simp only [append, addUnder, ihs]

/-- Adding below nodes to which nothing else is added. -/
theorem expand_addUnder {q : μ → Bool} (hpq : ∀ v ∈ t.nodes, p v = q (g v))
    (hp : ∀ v ∈ t.nodes, p v = true → f v = nil)
    (hf : ∀ v ∈ t.nodes, ∀ m ∈ (f v).nodes, q m = false) :
    (addUnder p x t).expand g f = addUnder q (x.expand g f) (t.expand g f) := by
  induction t with
  | nil => rfl
  | node v c s ihc ihs =>
    simp only [nodes, List.forall_mem_cons, List.forall_mem_append] at hpq hp hf
    rw [addUnder, expand, expand, addUnder, addUnder_append, addUnder_of_forall hf.1,
      ihs hpq.2.2 hp.2.2 hf.2.2, ← hpq.1]
    cases hv : p v with
    | true =>
      rw [if_pos rfl, if_pos rfl, expand_append, ihc hpq.2.1 hp.2.1 hf.2.1, hp.1 hv, append_nil,
        append_nil]
    | false =>
      rw [if_neg (by decide), if_neg (by decide), ihc hpq.2.1 hp.2.1 hf.2.1]

end Expand

end Forest

end MtpSync

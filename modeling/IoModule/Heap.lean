import Mathlib.Data.List.Nodup

/-!
# Blocks of memory

A heap of blocks under addresses, with `new` and `delete`. An address is
never given out twice, and deleting what is not there is undefined: a program
that runs to its end on this heap has freed nothing twice and has read no
block after it was freed.

What a program must show for that is who owns which block. `Owned h ps` says
that the live addresses are the list `ps`, each of them once, in any order. It
is the one invariant a user carries:
- `Owned.new`: a new block joins what is owned.
- `Owned.delete`: a block that is owned can be deleted; it leaves the list,
  and the others keep their contents.
- `read_new_of_live`: a new block changes no other one.
-/

namespace IoModule

/-- The blocks that are live, and the address the next one gets. -/
structure Heap (α : Type) where
  blocks : List (Nat × α)
  fresh : Nat
  below : ∀ b ∈ blocks, b.1 < fresh
  distinct : (blocks.map Prod.fst).Nodup

namespace Heap

variable {α : Type}

/-- No block yet. -/
def empty : Heap α := ⟨[], 0, fun _ h => absurd h List.not_mem_nil, List.nodup_nil⟩

/-- The addresses of the live blocks. -/
def live (h : Heap α) : List Nat := h.blocks.map Prod.fst

theorem lt_fresh_of_live {h : Heap α} {p : Nat} (hp : p ∈ h.live) : p < h.fresh := by
  obtain ⟨b, hb, rfl⟩ := List.mem_map.mp hp
  exact h.below b hb

theorem fresh_not_live (h : Heap α) : h.fresh ∉ h.live :=
  fun hmem => absurd (lt_fresh_of_live hmem) (Nat.lt_irrefl _)

/-- A new block: its address, and the heap with it. -/
def new (h : Heap α) (x : α) : Nat × Heap α :=
  (h.fresh,
    { blocks := (h.fresh, x) :: h.blocks
      fresh := h.fresh + 1
      below := List.forall_mem_cons.mpr
        ⟨Nat.lt_succ_self _, fun b hb => Nat.lt_succ_of_lt (h.below b hb)⟩
      distinct := List.nodup_cons.mpr ⟨h.fresh_not_live, h.distinct⟩ })

/-- The contents of a block, if it is live. -/
def read (h : Heap α) (p : Nat) : Option α := h.blocks.lookup p

/-- The heap without a block; undefined if it is not live. -/
def delete (h : Heap α) (p : Nat) : Option (Heap α) :=
  if p ∈ h.live then some
    { blocks := h.blocks.filter fun b => b.1 != p
      fresh := h.fresh
      below := fun b hb => h.below b (List.mem_filter.mp hb).1
      distinct := h.distinct.sublist (List.filter_sublist.map Prod.fst) }
  else none

@[simp] theorem live_empty : (empty : Heap α).live = [] := rfl

@[simp] theorem live_new (h : Heap α) (x : α) : (h.new x).2.live = (h.new x).1 :: h.live := rfl

@[simp] theorem read_new (h : Heap α) (x : α) : (h.new x).2.read (h.new x).1 = some x := by
  simp [new, read]

/-- A new block changes no other one. -/
theorem read_new_of_live {h : Heap α} {p : Nat} (hp : p ∈ h.live) (x : α) :
    (h.new x).2.read p = h.read p := by
  have hne : p ≠ h.fresh := Nat.ne_of_lt (lt_fresh_of_live hp)
  show List.lookup p ((h.fresh, x) :: h.blocks) = h.blocks.lookup p
  rw [List.lookup_cons, beq_false_of_ne hne]

/-- What is read is live. -/
theorem live_of_read {h : Heap α} {p : Nat} {x : α} (hread : h.read p = some x) : p ∈ h.live := by
  obtain ⟨before, after, hblocks, -⟩ := List.lookup_eq_some_iff.mp hread
  unfold live
  rw [hblocks, List.map_append]
  exact List.mem_append_right _ (List.mem_cons_self ..)

/-- A lookup does not mind the removal of another key. -/
theorem lookup_filter_ne {p q : Nat} (hne : q ≠ p) : ∀ bs : List (Nat × α),
    (bs.filter fun b => b.1 != p).lookup q = bs.lookup q := by
  intro bs
  induction bs with
  | nil => rfl
  | cons b bs ih =>
    obtain ⟨r, y⟩ := b
    by_cases hrp : r = p
    · subst hrp
      rw [List.filter_cons_of_neg (by simp), ih, List.lookup_cons, beq_false_of_ne hne]
    · rw [List.filter_cons_of_pos (by simpa using hrp), List.lookup_cons, List.lookup_cons, ih]

/-! ## Ownership -/

/-- The live blocks are those of `ps`, each of them once. -/
def Owned (h : Heap α) (ps : List Nat) : Prop := h.live.Perm ps

theorem owned_empty : (empty : Heap α).Owned [] := .refl _

namespace Owned

variable {h : Heap α} {p : Nat} {ps qs : List Nat}

/-- No block is owned twice. -/
theorem nodup (howned : h.Owned ps) : ps.Nodup := howned.nodup_iff.mp h.distinct

theorem mem_live (howned : h.Owned ps) (hp : p ∈ ps) : p ∈ h.live := howned.mem_iff.mpr hp

/-- The order in which blocks are owned does not matter. -/
theorem perm (howned : h.Owned ps) (hperm : ps.Perm qs) : h.Owned qs := howned.trans hperm

/-- A new block joins what is owned. -/
theorem new (howned : h.Owned ps) (x : α) : (h.new x).2.Owned ((h.new x).1 :: ps) :=
  List.Perm.cons _ howned

/-- **An owned block can be deleted.** It is no longer owned, and the others
keep their contents. -/
theorem delete (howned : h.Owned (p :: ps)) :
    ∃ h', h.delete p = some h' ∧ h'.Owned ps ∧ ∀ q ∈ ps, h'.read q = h.read q := by
  have hlive : p ∈ h.live := howned.mem_live (List.mem_cons_self ..)
  have habsent : p ∉ ps := (List.nodup_cons.mp howned.nodup).1
  refine ⟨_, if_pos hlive, ?_, fun q hq => ?_⟩
  · show ((h.blocks.filter fun b => b.1 != p).map Prod.fst).Perm ps
    have hfilter : (h.blocks.filter fun b => b.1 != p).map Prod.fst = h.live.filter (· != p) := by
      unfold live
      rw [List.filter_map]
      rfl
    rw [hfilter, ← (show h.live.Nodup from h.distinct).erase_eq_filter p]
    have herased := List.Perm.erase p howned
    rwa [List.erase_cons_head] at herased
  · have hne : q ≠ p := fun heq => habsent (heq ▸ hq)
    exact lookup_filter_ne hne h.blocks

end Owned

end Heap

end IoModule

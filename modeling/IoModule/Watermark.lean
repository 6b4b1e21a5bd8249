import Mathlib.Logic.Relation
import Mathlib.Order.Lattice

/-!
# Reading from behind a mark

A consumer of a growing collection of items that remembers only a mark: it
asks for the items whose key is above the mark, takes some of what it gets,
and moves the mark up. Keys need not be unique and items need not be posted
in key order.

What such a consumer can promise depends on two things a step may do:

- `Advances`: what is taken was above the old mark, and the mark has caught
  up with it. Then what the mark has passed is settled: an item it passed by
  is never taken (`Advances.passedBy`), and if no step takes an item twice,
  no run does (`run_nodup`).
- `Covers`: what the mark moves past has been taken, and what is posted is
  above the mark. Then nothing is missed: every item below the mark has been
  taken (`run_taken`).

`Covers` is the demanding one: it asks of the items that none is posted at or
below the mark, ties included.
-/

namespace IoModule

/-- What has been posted, how far the consumer has read, and what it has
taken, oldest first. -/
structure Consumer (μ τ : Type) where
  posted : List μ
  mark : τ
  taken : List μ

namespace Consumer

variable {μ τ : Type} [LinearOrder τ] {key : μ → τ} {relevant : μ → Prop}

/-! ## Taking from above the mark -/

/-- A step that takes `new` from above the mark and moves the mark up to
it. -/
structure Advances (key : μ → τ) (c c' : Consumer μ τ) (new : List μ) : Prop where
  mark_le : c.mark ≤ c'.mark
  taken_eq : c'.taken = c.taken ++ new
  above : ∀ x ∈ new, c.mark < key x
  caught_up : ∀ x ∈ new, key x ≤ c'.mark

/-- A step that neither takes nor moves the mark. -/
theorem Advances.idle {c c' : Consumer μ τ} (hmark : c'.mark = c.mark)
    (htaken : c'.taken = c.taken) : Advances key c c' [] where
  mark_le := le_of_eq hmark.symm
  taken_eq := by rw [htaken, List.append_nil]
  above _ h := absurd h List.not_mem_nil
  caught_up _ h := absurd h List.not_mem_nil

/-- Everything taken lies at or below the mark. -/
def Settled (key : μ → τ) (c : Consumer μ τ) : Prop := ∀ x ∈ c.taken, key x ≤ c.mark

theorem Advances.settled {c c' : Consumer μ τ} {new : List μ} (h : Advances key c c' new)
    (hc : Settled key c) : Settled key c' := by
  intro x hx
  rw [h.taken_eq] at hx
  rcases List.mem_append.mp hx with hold | hnew
  · exact le_trans (hc x hold) h.mark_le
  · exact h.caught_up x hnew

/-- New items are above the mark, taken ones are not, so none is new twice. -/
theorem Advances.nodup {c c' : Consumer μ τ} {new : List μ} (h : Advances key c c' new)
    (hnew : new.Nodup) (hc : Settled key c) (htaken : c.taken.Nodup) : c'.taken.Nodup := by
  rw [h.taken_eq, List.nodup_append]
  refine ⟨htaken, hnew, fun x hx y hy hxy => ?_⟩
  subst hxy
  exact absurd (hc x hx) (not_le.mpr (h.above x hy))

/-- **At most once.** A run that takes no item twice in one step takes none
twice at all. -/
theorem run_nodup {c c' : Consumer μ τ}
    (h : Relation.ReflTransGen (fun a b => ∃ new, Advances key a b new ∧ new.Nodup) c c')
    (hc : Settled key c) (htaken : c.taken.Nodup) : c'.taken.Nodup := by
  have hboth : Settled key c' ∧ c'.taken.Nodup := by
    induction h with
    | refl => exact ⟨hc, htaken⟩
    | tail _ hstep ih =>
      obtain ⟨new, hadv, hnew⟩ := hstep
      exact ⟨hadv.settled ih.1, hadv.nodup hnew ih.1 ih.2⟩
  exact hboth.2

/-- An item at or below the mark that has not been taken. -/
def PassedBy (key : μ → τ) (c : Consumer μ τ) (x : μ) : Prop := key x ≤ c.mark ∧ x ∉ c.taken

/-- **What the mark has passed stays behind.** -/
theorem Advances.passedBy {c c' : Consumer μ τ} {new : List μ} (h : Advances key c c' new) {x : μ}
    (hx : PassedBy key c x) : PassedBy key c' x := by
  refine ⟨le_trans hx.1 h.mark_le, ?_⟩
  rw [h.taken_eq, List.mem_append]
  intro hor
  rcases hor with hold | hnew
  · exact hx.2 hold
  · exact absurd hx.1 (not_le.mpr (h.above x hnew))

/-! ## Taking everything the mark passes -/

/-- A step that keeps what it has taken, takes every relevant item its mark
moves past, and posts only above the mark it leaves. -/
structure Covers (key : μ → τ) (relevant : μ → Prop) (c c' : Consumer μ τ) : Prop where
  kept : ∀ x ∈ c.taken, x ∈ c'.taken
  covered : ∀ x ∈ c.posted, relevant x → c.mark < key x → key x ≤ c'.mark → x ∈ c'.taken
  posted_above : ∀ x ∈ c'.posted, relevant x → x ∈ c.posted ∨ c'.mark < key x

/-- A step that changes nothing the consumer sees. -/
theorem Covers.idle {c c' : Consumer μ τ} (h : c' = c) : Covers key relevant c c' where
  kept _ hx := h ▸ hx
  covered _ _ _ hlt hle := absurd (h ▸ hle) (not_le.mpr hlt)
  posted_above _ hx _ := Or.inl (h ▸ hx)

/-- Posting an item, above the mark if it is relevant. -/
theorem Covers.post {c : Consumer μ τ} {y : μ} (hy : relevant y → c.mark < key y) :
    Covers key relevant c { c with posted := c.posted ++ [y] } where
  kept _ hx := hx
  covered _ _ _ hlt hle := absurd hle (not_le.mpr hlt)
  posted_above x hx hrel := by
    rcases List.mem_append.mp hx with hold | hnew
    · exact Or.inl hold
    · rw [List.mem_singleton.mp hnew] at hrel ⊢
      exact Or.inr (hy hrel)

/-- Every relevant item at or below the mark has been taken. -/
def NothingMissed (key : μ → τ) (relevant : μ → Prop) (c : Consumer μ τ) : Prop :=
  ∀ x ∈ c.posted, relevant x → key x ≤ c.mark → x ∈ c.taken

theorem Covers.nothingMissed {c c' : Consumer μ τ} (h : Covers key relevant c c')
    (hc : NothingMissed key relevant c) : NothingMissed key relevant c' := by
  intro x hx hrel hkey
  have hposted : x ∈ c.posted :=
    (h.posted_above x hx hrel).resolve_right (not_lt.mpr hkey)
  -- the old mark had passed it, or this step's mark has
  rcases le_or_gt (key x) c.mark with hle | hlt
  · exact h.kept x (hc x hposted hrel hle)
  · exact h.covered x hposted hrel hlt hkey

/-- **At least once.** In a run of covering steps, every relevant item the
mark has passed has been taken. -/
theorem run_taken {c c' : Consumer μ τ} (h : Relation.ReflTransGen (Covers key relevant) c c')
    (hc : NothingMissed key relevant c) : NothingMissed key relevant c' := by
  induction h with
  | refl => exact hc
  | tail _ hstep ih => exact hstep.nothingMissed ih

end Consumer

end IoModule

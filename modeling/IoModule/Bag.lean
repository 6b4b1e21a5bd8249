import Mathlib.Data.Multiset.Count

/-!
# A bag and its history

A bag of items changes one item at a time: one is added, or one that is there
is removed (`Changes`). Its history is the list of these changes, and the two
determine each other up to order: a bag that started empty holds every item as
often as it was added and not removed (`Balanced`, kept by every change:
`Balanced.snoc`).

A program that keeps a bag as a list, and removes by erasing the first entry
that a scan finds, makes such changes (`changes_append`, `changes_split`);
`erase_first` says where the scan has stopped.
-/

namespace IoModule

variable {α : Type}

/-- What an operation does to a bag. -/
inductive BagChange (α : Type) where
  | none
  | added (x : α)
  | removed (x : α)
deriving DecidableEq, Repr

/-- A change takes a bag to another. Only what is there can be removed. -/
inductive Changes : BagChange α → Multiset α → Multiset α → Prop where
  | none (bag : Multiset α) : Changes .none bag bag
  | added (x : α) (bag : Multiset α) : Changes (.added x) bag (x ::ₘ bag)
  | removed (x : α) (bag : Multiset α) : Changes (.removed x) (x ::ₘ bag) bag

variable [DecidableEq α]

/-- A bag holds every item as often as its history added it and did not
remove it. -/
def Balanced (history : List (BagChange α)) (bag : Multiset α) : Prop :=
  ∀ x, bag.count x + history.count (.removed x) = history.count (.added x)

theorem balanced_nil : Balanced ([] : List (BagChange α)) 0 := by
  intro x
  rw [Multiset.count_zero, List.count_nil, List.count_nil]

/-- What one change does to the number of an item. -/
theorem Changes.count_eq {bag bag' : Multiset α} {change : BagChange α}
    (h : Changes change bag bag') (x : α) :
    bag'.count x + [change].count (.removed x) = bag.count x + [change].count (.added x) := by
  cases h with
  | none => rfl
  | added y =>
    by_cases hxy : x = y
    · subst hxy
      rw [Multiset.count_cons_self]
      simp
    · have hyx : ¬ y = x := fun heq => hxy heq.symm
      rw [Multiset.count_cons_of_ne hxy]
      simp [hyx]
  | removed y =>
    by_cases hxy : x = y
    · subst hxy
      rw [Multiset.count_cons_self]
      simp
    · have hyx : ¬ y = x := fun heq => hxy heq.symm
      rw [Multiset.count_cons_of_ne hxy]
      simp [hyx]

/-- **One more change keeps the balance.** -/
theorem Balanced.snoc {history : List (BagChange α)} {bag bag' : Multiset α}
    {change : BagChange α} (h : Balanced history bag) (hchange : Changes change bag bag') :
    Balanced (history ++ [change]) bag' := by
  intro x
  have hx := h x
  have hchanged := hchange.count_eq x
  rw [List.count_append, List.count_append]
  omega

/-! ## Bags kept as lists -/

omit [DecidableEq α]

/-- Appending an item adds it. -/
theorem changes_append (xs : List α) (x : α) : Changes (.added x) (xs : Multiset α) ↑(xs ++ [x]) := by
  have hperm : (↑(xs ++ [x]) : Multiset α) = x ::ₘ ↑xs :=
    Multiset.coe_eq_coe.mpr List.perm_append_comm
  rw [hperm]
  exact .added x _

/-- Erasing an entry removes it. -/
theorem changes_split (before : List α) (x : α) (after : List α) :
    Changes (.removed x) (↑(before ++ x :: after) : Multiset α) ↑(before ++ after) := by
  have hperm : (↑(before ++ x :: after) : Multiset α) = x ::ₘ ↑(before ++ after) :=
    Multiset.coe_eq_coe.mpr List.perm_middle
  rw [hperm]
  exact .removed x _

/-- A scan that finds an entry stops at the first one. -/
theorem erase_first {p : α → Bool} : ∀ (xs : List α) {i : Nat}, xs.findIdx? p = some i →
    ∃ before x after, xs = before ++ x :: after ∧ p x = true ∧ (∀ y ∈ before, p y = false)
      ∧ xs.eraseIdx i = before ++ after := by
  intro xs
  induction xs with
  | nil =>
    intro i h
    cases h
  | cons x xs ih =>
    intro i h
    rw [List.findIdx?_cons] at h
    by_cases hx : p x = true
    · rw [if_pos hx] at h
      cases h
      exact ⟨[], x, xs, rfl, hx, fun _ hy => absurd hy List.not_mem_nil, rfl⟩
    · rw [if_neg hx, Option.map_eq_some_iff] at h
      obtain ⟨j, hj, rfl⟩ := h
      obtain ⟨before, y, after, rfl, hy, hbefore, herase⟩ := ih hj
      refine ⟨x :: before, y, after, rfl, hy, ?_, congrArg _ herase⟩
      exact List.forall_mem_cons.mpr ⟨Bool.eq_false_iff.mpr hx, hbefore⟩

end IoModule

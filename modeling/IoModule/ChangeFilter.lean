import Mathlib.Algebra.GroupWithZero.Nat
import Mathlib.Data.List.Destutter

/-!
# Forwarding only what changed

A filter compares every value it is offered with the value it holds and
forwards it only when it has `changed`. The caller may replace the held value
after a suppressed offer too (`store`), and need not hold the value itself:
`keep held new` is what is held after `new`, typically a normal form of it.

When does such a filter lose nothing? Fix an observation `obs` of a value
and a `weight`. It is enough that, on valid values,

* `keep` preserves the observation, and
* a value that has not changed is observed like the held one and weighs
  nothing.

Then, after every offer, the last value forwarded is observed like the last
value received (`run_observed`), and the total weight forwarded is the total
weight received (`run_weight`). The proof is one invariant, `Faithful`,
preserved by one offer (`offer_faithful`).

And when does it forward nothing in vain? If the comparison is one of what is
observed, `R`, then what is forwarded is what is received with the repetitions
taken out: the list of Mathlib's `destutter` for `R` (`run_destutter`).
-/

namespace IoModule

variable {α β : Type}

/-- A filter at work: the held value, and everything received and forwarded
so far, oldest first. -/
structure ChangeFilter (α : Type) where
  held : α
  received : List α
  forwarded : List α

namespace ChangeFilter

/-- The first value goes through and is held. -/
def start (x : α) : ChangeFilter α := ⟨x, [x], [x]⟩

/-- Offer one value. -/
def offer (changed : α → α → Bool) (keep : α → α → α) (store : Bool) (f : ChangeFilter α) (x : α) :
    ChangeFilter α :=
  if changed f.held x then ⟨keep f.held x, f.received ++ [x], f.forwarded ++ [x]⟩
  else ⟨if store then keep f.held x else f.held, f.received ++ [x], f.forwarded⟩

/-- Offer a list of values after the first. -/
def run (changed : α → α → Bool) (keep : α → α → α) (store : Bool) (first : α) (rest : List α) :
    ChangeFilter α :=
  rest.foldl (offer changed keep store) (start first)

/-- The total weight of a list of values. -/
def total (weight : α → Nat) (xs : List α) : Nat := (xs.map weight).sum

@[simp] theorem total_append (weight : α → Nat) (xs ys : List α) :
    total weight (xs ++ ys) = total weight xs + total weight ys := by
  unfold total
  rw [List.map_append, List.sum_append]

@[simp] theorem total_singleton (weight : α → Nat) (x : α) : total weight [x] = weight x := by
  simp [total]

/-- The invariant: the held value is valid, it is observed like the last
value received and like the last value forwarded, and no weight is
missing. -/
structure Faithful (valid : α → Prop) (obs : α → β) (weight : α → Nat) (f : ChangeFilter α) :
    Prop where
  held_valid : valid f.held
  received_obs : f.received.getLast?.map obs = some (obs f.held)
  forwarded_obs : f.forwarded.getLast?.map obs = some (obs f.held)
  weight_eq : total weight f.forwarded = total weight f.received

variable {changed : α → α → Bool} {keep : α → α → α} {store : Bool} {valid : α → Prop}
  {obs : α → β} {weight : α → Nat}

theorem start_faithful {x : α} (hx : valid x) : Faithful valid obs weight (start x) :=
  ⟨hx, rfl, rfl, rfl⟩

/-- One offer keeps the filter faithful: a forwarded value is the last on
both sides, a suppressed one is observed like what was last on both sides. -/
theorem offer_faithful
    (hkeep : ∀ c x, valid c → valid x → valid (keep c x) ∧ obs (keep c x) = obs x)
    (hsame : ∀ c x, valid c → valid x → changed c x = false → obs x = obs c ∧ weight x = 0)
    {f : ChangeFilter α} (hf : Faithful valid obs weight f) {x : α} (hx : valid x) :
    Faithful valid obs weight (offer changed keep store f x) := by
  obtain ⟨hvalid, hobs⟩ := hkeep f.held x hf.held_valid hx
  unfold offer
  split
  next =>
    refine ⟨hvalid, ?_, ?_, ?_⟩
    · simp [hobs]
    · simp [hobs]
    · simp [hf.weight_eq]
  -- suppressed: what is held may be replaced, but is observed as before
  next hch =>
    obtain ⟨hxobs, hxweight⟩ :=
      hsame f.held x hf.held_valid hx (Bool.eq_false_iff.mpr hch)
    have hheld : obs (if store then keep f.held x else f.held) = obs f.held := by
      split
      · rw [hobs, hxobs]
      · rfl
    refine ⟨?_, ?_, ?_, ?_⟩
    · show valid (if store then keep f.held x else f.held)
      split
      · exact hvalid
      · exact hf.held_valid
    · simp [hheld, hxobs]
    · show f.forwarded.getLast?.map obs = some (obs (if store then keep f.held x else f.held))
      rw [hheld]
      exact hf.forwarded_obs
    · simp [hf.weight_eq, hxweight]

/-- Every run over valid values is faithful. -/
theorem run_faithful
    (hkeep : ∀ c x, valid c → valid x → valid (keep c x) ∧ obs (keep c x) = obs x)
    (hsame : ∀ c x, valid c → valid x → changed c x = false → obs x = obs c ∧ weight x = 0)
    {first : α} {rest : List α} (hvalid : ∀ x ∈ first :: rest, valid x) :
    Faithful valid obs weight (run changed keep store first rest) := by
  have hfold : ∀ (xs : List α) (f : ChangeFilter α), (∀ x ∈ xs, valid x) →
      Faithful valid obs weight f →
      Faithful valid obs weight (xs.foldl (offer changed keep store) f) := by
    intro xs
    induction xs with
    | nil => exact fun _ _ hf => hf
    | cons x xs ih =>
      intro f hxs hf
      rw [List.foldl_cons]
      exact ih _ (fun y hy => hxs y (List.mem_cons_of_mem _ hy))
        (offer_faithful hkeep hsame hf (hxs x (List.mem_cons_self ..)))
  exact hfold rest _ (fun x hx => hvalid x (List.mem_cons_of_mem _ hx))
    (start_faithful (hvalid first (List.mem_cons_self ..)))

/-- A run receives exactly what it is offered. -/
theorem run_received (first : α) (rest : List α) :
    (run changed keep store first rest).received = first :: rest := by
  have hfold : ∀ (xs : List α) (f : ChangeFilter α),
      (xs.foldl (offer changed keep store) f).received = f.received ++ xs := by
    intro xs
    induction xs with
    | nil => exact fun f => (List.append_nil f.received).symm
    | cons x xs ih =>
      intro f
      have hoffer : (offer changed keep store f x).received = f.received ++ [x] := by
        unfold offer
        split <;> rfl
      rw [List.foldl_cons, ih, hoffer, List.append_assoc]
      rfl
  exact hfold rest (start first)

/-- **Nothing observable is lost**: the last value forwarded is observed like
the last value received. -/
theorem run_observed
    (hkeep : ∀ c x, valid c → valid x → valid (keep c x) ∧ obs (keep c x) = obs x)
    (hsame : ∀ c x, valid c → valid x → changed c x = false → obs x = obs c ∧ weight x = 0)
    {first : α} {rest : List α} (hvalid : ∀ x ∈ first :: rest, valid x) :
    (run changed keep store first rest).forwarded.getLast?.map obs
      = (first :: rest).getLast?.map obs := by
  have hf : Faithful valid obs weight (run changed keep store first rest) :=
    run_faithful hkeep hsame hvalid
  rw [hf.forwarded_obs, ← hf.received_obs, run_received]

/-- **No weight is lost**: what was forwarded weighs as much as what was
received. -/
theorem run_weight
    (hkeep : ∀ c x, valid c → valid x → valid (keep c x) ∧ obs (keep c x) = obs x)
    (hsame : ∀ c x, valid c → valid x → changed c x = false → obs x = obs c ∧ weight x = 0)
    {first : α} {rest : List α} (hvalid : ∀ x ∈ first :: rest, valid x) :
    total weight (run changed keep store first rest).forwarded = total weight (first :: rest) := by
  have hf : Faithful valid obs weight (run changed keep store first rest) :=
    run_faithful hkeep hsame hvalid
  rw [hf.weight_eq, run_received]

/-- **What is forwarded is destuttered.** When the comparison is `R` on what is
observed, and what has not changed is observed alike, the observations forwarded
are those received, without the ones that `R` does not tell from the one
forwarded before. -/
theorem run_destutter (R : β → β → Prop) [DecidableRel R]
    (hkeep : ∀ c x, valid c → valid x → valid (keep c x) ∧ obs (keep c x) = obs x)
    (hchanged : ∀ c x, valid c → valid x → (changed c x = true ↔ R (obs c) (obs x)))
    (hsame : ∀ c x, valid c → valid x → changed c x = false → obs x = obs c)
    {first : α} {rest : List α} (hvalid : ∀ x ∈ first :: rest, valid x) :
    (run changed keep store first rest).forwarded.map obs
      = ((first :: rest).map obs).destutter R := by
  -- the last observation forwarded is that of the held value
  have hfold : ∀ (xs : List α) (f : ChangeFilter α) (before : List β), (∀ x ∈ xs, valid x) →
      valid f.held → f.forwarded.map obs = before ++ [obs f.held] →
      (xs.foldl (offer changed keep store) f).forwarded.map obs
        = before ++ (xs.map obs).destutter' R (obs f.held) := by
    intro xs
    induction xs with
    | nil =>
      intro f before _ _ hf
      exact hf
    | cons x xs ih =>
      intro f before hxs hheld hf
      have hx : valid x := hxs x (List.mem_cons_self ..)
      have hrest : ∀ y ∈ xs, valid y := fun y hy => hxs y (List.mem_cons_of_mem _ hy)
      obtain ⟨hkeptValid, hkeptObs⟩ := hkeep f.held x hheld hx
      rw [List.foldl_cons, List.map_cons]
      by_cases hch : changed f.held x = true
      · have hoffer : offer changed keep store f x
            = ⟨keep f.held x, f.received ++ [x], f.forwarded ++ [x]⟩ := if_pos hch
        rw [hoffer, List.destutter'_cons_pos _ ((hchanged _ _ hheld hx).mp hch)]
        have hnext := ih ⟨keep f.held x, f.received ++ [x], f.forwarded ++ [x]⟩
          (before ++ [obs f.held]) hrest hkeptValid (by simp [hf, hkeptObs])
        rw [hnext, hkeptObs, List.append_assoc]
        rfl
      · have hoffer : offer changed keep store f x
            = ⟨if store then keep f.held x else f.held, f.received ++ [x], f.forwarded⟩ := if_neg hch
        rw [hoffer,
          List.destutter'_cons_neg _ fun hR => hch ((hchanged _ _ hheld hx).mpr hR)]
        have hobs := hsame f.held x hheld hx (Bool.eq_false_iff.mpr hch)
        have hkept : valid (if store then keep f.held x else f.held)
            ∧ obs (if store then keep f.held x else f.held) = obs f.held := by
          split
          · exact ⟨hkeptValid, hkeptObs.trans hobs⟩
          · exact ⟨hheld, rfl⟩
        have hnext := ih ⟨if store then keep f.held x else f.held, f.received ++ [x], f.forwarded⟩
          before hrest hkept.1 (by rw [hkept.2]; exact hf)
        rw [hnext, hkept.2]
  have hstart := hfold rest (start first) []
    (fun x hx => hvalid x (List.mem_cons_of_mem _ hx)) (hvalid first (List.mem_cons_self ..)) rfl
  rw [List.nil_append] at hstart
  exact hstart

end ChangeFilter

end IoModule

import Mathlib.Data.List.Nodup
import IoModule.ForLoop

/-!
# Settings read from key/value pairs

A function that reads its settings declares a variable for each, walks the
pairs it is given and compares the key of each with the keys it knows, in an
`if`/`else if` chain. A branch of the chain checks the value, returns if the
check fails, and stores it otherwise. Keys nobody knows are skipped.

`dispatch` is a round of that loop, for a list of branches, and
`forEach (dispatch bs)` the loop. A variable is a `Slot`: one branch assigns
it and no other branch touches it. If no key is listed twice, the variable of
a listed key has the listed value in the end, which was checked
(`Slot.filled`). Nothing is known of the variable of a key that is not listed.
-/

namespace IoModule

variable {κ ν σ β : Type}

/-- A branch of the chain: the key it compares with, the check of the value,
and the assignment. -/
structure Branch (κ ν σ : Type) where
  key : κ
  accepts : ν → Bool
  store : ν → σ → σ

section Rounds

variable [DecidableEq κ]

/-- A round of the loop: the branch of the key, if there is one. `some ()` is
the return out of the loop. -/
def dispatch : List (Branch κ ν σ) → κ × ν → σ → Option Unit × σ
  | [], _, s => (none, s)
  | b :: bs, entry, s =>
    if entry.1 = b.key then
      if b.accepts entry.2 then (none, b.store entry.2 s) else (some (), s)
    else dispatch bs entry s

/-- A key nobody knows is skipped. -/
theorem dispatch_unknown {k : κ} (v : ν) (s : σ) :
    ∀ {bs : List (Branch κ ν σ)}, k ∉ bs.map Branch.key → dispatch bs (k, v) s = (none, s) := by
  intro bs
  induction bs with
  | nil => exact fun _ => rfl
  | cons b bs ih =>
    intro h
    rw [List.map_cons, List.mem_cons, not_or] at h
    rw [dispatch, if_neg h.1]
    exact ih h.2

/-- A known key gets its branch. -/
theorem dispatch_known (v : ν) (s : σ) {b : Branch κ ν σ} :
    ∀ {bs : List (Branch κ ν σ)}, (bs.map Branch.key).Nodup → b ∈ bs →
      dispatch bs (b.key, v) s
        = if b.accepts v then (none, b.store v s) else (some (), s) := by
  intro bs
  induction bs with
  | nil => exact fun _ h => absurd h List.not_mem_nil
  | cons c bs ih =>
    intro hnodup hmem
    rw [List.map_cons, List.nodup_cons] at hnodup
    rcases List.mem_cons.mp hmem with rfl | hmem
    · rw [dispatch, if_pos rfl]
    · have hother : b.key ≠ c.key := by
        intro heq
        exact hnodup.1 (heq ▸ List.mem_map_of_mem hmem)
      rw [dispatch, if_neg hother]
      exact ih hnodup.2 hmem

variable {bs : List (Branch κ ν σ)}

/-- Some branch refuses the value of an entry. -/
def Refused (bs : List (Branch κ ν σ)) (entry : κ × ν) : Prop :=
  ∃ b ∈ bs, b.key = entry.1 ∧ b.accepts entry.2 = false

/-- **What a round can do**: return on a refused value, store an accepted one,
or skip. -/
theorem dispatch_cases (hnodup : (bs.map Branch.key).Nodup) (entry : κ × ν) (s : σ) :
    (Refused bs entry ∧ dispatch bs entry s = (some (), s))
      ∨ (∃ b ∈ bs, b.key = entry.1 ∧ b.accepts entry.2 = true ∧ ¬ Refused bs entry
        ∧ dispatch bs entry s = (none, b.store entry.2 s))
      ∨ (entry.1 ∉ bs.map Branch.key ∧ ¬ Refused bs entry
        ∧ dispatch bs entry s = (none, s)) := by
  obtain ⟨k, v⟩ := entry
  by_cases hk : k ∈ bs.map Branch.key
  · obtain ⟨b, hb, rfl⟩ := List.mem_map.mp hk
    have hround := dispatch_known v s hnodup hb
    by_cases hv : b.accepts v = true
    · rw [if_pos hv] at hround
      refine Or.inr (Or.inl ⟨b, hb, rfl, hv, ?_, hround⟩)
      intro hrefused
      obtain ⟨c, hc, hkey, hno⟩ := hrefused
      rw [List.inj_on_of_nodup_map hnodup hc hb hkey, hv] at hno
      cases hno
    · rw [if_neg hv] at hround
      exact Or.inl ⟨⟨b, hb, rfl, Bool.eq_false_iff.mpr hv⟩, hround⟩
  · refine Or.inr (Or.inr ⟨hk, ?_, dispatch_unknown v s hk⟩)
    intro hrefused
    obtain ⟨b, hb, rfl, -⟩ := hrefused
    exact hk (List.mem_map_of_mem hb)

/-- **The loop goes through exactly if no value is refused.** -/
theorem forEach_dispatch_ends_iff (hnodup : (bs.map Branch.key).Nodup) :
    ∀ (entries : List (κ × ν)) (s : σ),
      (∃ s', forEach (dispatch bs) entries s = (none, s'))
        ↔ ∀ entry ∈ entries, ¬ Refused bs entry := by
  intro entries
  induction entries with
  | nil => exact fun s => iff_of_true ⟨s, rfl⟩ fun _ h => absurd h List.not_mem_nil
  | cons entry entries ih =>
    intro s
    rw [List.forall_mem_cons]
    rcases dispatch_cases hnodup entry s with
      ⟨hrefused, hround⟩ | ⟨b, -, -, -, haccepted, hround⟩ | ⟨-, haccepted, hround⟩
    · rw [forEach_cons_stop hround]
      exact iff_of_false (fun ⟨_, h⟩ => nomatch h) fun h => h.1 hrefused
    · rw [forEach_cons_next hround, ih, and_iff_right haccepted]
    · rw [forEach_cons_next hround, ih, and_iff_right haccepted]

end Rounds

/-! ## Variables -/

/-- The variable `get` is assigned by the branch `b`, which makes `value v` of
a value `v`, and by no other. -/
structure Slot (bs : List (Branch κ ν σ)) (b : Branch κ ν σ) (get : σ → β) (value : ν → β) :
    Prop where
  mem : b ∈ bs
  stores : ∀ v s, get (b.store v s) = value v
  keeps : ∀ c ∈ bs, c.key ≠ b.key → ∀ v s, get (c.store v s) = get s

namespace Slot

variable [DecidableEq κ] {bs : List (Branch κ ν σ)} {b : Branch κ ν σ} {get : σ → β}
  {value : ν → β}

/-- A round with another key leaves the variable alone. -/
theorem kept (h : Slot bs b get value) (hnodup : (bs.map Branch.key).Nodup) {entry : κ × ν}
    (hother : entry.1 ≠ b.key) {s s' : σ} (hround : dispatch bs entry s = (none, s')) :
    get s' = get s := by
  rcases dispatch_cases hnodup entry s with
    ⟨-, hstop⟩ | ⟨c, hc, hkey, -, -, hnext⟩ | ⟨-, -, hnext⟩
  · cases hstop.symm.trans hround
  · cases hnext.symm.trans hround
    exact h.keeps c hc (hkey ▸ hother) _ _
  · cases hnext.symm.trans hround
    rfl

/-- So does a loop that does not list the key. -/
theorem kept_run (h : Slot bs b get value) (hnodup : (bs.map Branch.key).Nodup) :
    ∀ (entries : List (κ × ν)) {s s' : σ}, b.key ∉ entries.map Prod.fst →
      forEach (dispatch bs) entries s = (none, s') → get s' = get s := by
  intro entries
  induction entries with
  | nil =>
    intro s s' _ hrun
    cases hrun
    rfl
  | cons entry entries ih =>
    intro s s' habsent hrun
    rw [List.map_cons, List.mem_cons, not_or] at habsent
    rcases hround : dispatch bs entry s with ⟨_ | e, t⟩
    · rw [forEach_cons_next hround] at hrun
      rw [ih habsent.2 hrun, h.kept hnodup (Ne.symm habsent.1) hround]
    · rw [forEach_cons_stop hround] at hrun
      cases hrun

/-- **The variable of a listed key has the listed value.** -/
theorem filled (h : Slot bs b get value) (hnodup : (bs.map Branch.key).Nodup) :
    ∀ (entries : List (κ × ν)) {v : ν} {s s' : σ}, (entries.map Prod.fst).Nodup →
      (b.key, v) ∈ entries → forEach (dispatch bs) entries s = (none, s') →
      b.accepts v = true ∧ get s' = value v := by
  intro entries
  induction entries with
  | nil => exact fun _ hmem => absurd hmem List.not_mem_nil
  | cons entry entries ih =>
    intro v s s' hkeys hmem hrun
    rw [List.map_cons, List.nodup_cons] at hkeys
    rcases hround : dispatch bs entry s with ⟨_ | e, t⟩
    · rw [forEach_cons_next hround] at hrun
      rcases List.mem_cons.mp hmem with rfl | hmem
      · -- the key's own round; none of the rest has it
        rw [dispatch_known v s hnodup h.mem] at hround
        by_cases hv : b.accepts v = true
        · rw [if_pos hv] at hround
          cases hround
          exact ⟨hv, (h.kept_run hnodup entries hkeys.1 hrun).trans (h.stores v s)⟩
        · rw [if_neg hv] at hround
          cases hround
      · exact ih hkeys.2 hmem hrun
    · rw [forEach_cons_stop hround] at hrun
      cases hrun

end Slot

end IoModule

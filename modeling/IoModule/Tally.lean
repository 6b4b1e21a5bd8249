import Mathlib.Algebra.BigOperators.Group.List.Basic
import Mathlib.Data.List.Induction

/-!
# A tally that fills up

A tally adds up the values it is given, in any additive monoid, until its sum is
`full`; from then on it keeps what it has and every further value is lost. Before
the first value there is no sum, not even zero.

- `run_split`: the values of a run split into those that were counted and those
  that were lost, and no sum on the way to the counted ones was full.
- `run_simulates`: a machine whose steps are steps of a tally, or do nothing, is
  the tally of the values that got through.
-/

namespace IoModule

namespace Tally

variable {M : Type} [AddMonoid M] {full : M → Prop}

/-- One more value. -/
def add (full : M → Prop) [DecidablePred full] : Option M → M → Option M
  | none, v => some v
  | some sum, v => if full sum then some sum else some (sum + v)

/-- The sum of some values; nothing when there are none. -/
def sum? (values : List M) : Option M :=
  match values with
  | [] => none
  | _ => some values.sum

theorem sum?_of_ne_nil {values : List M} (h : values ≠ []) : sum? values = some values.sum := by
  cases values with
  | nil => exact absurd rfl h
  | cons v vs => rfl

/-- What was counted so far, and what was lost because the tally was full. -/
structure Split (full : M → Prop) (values counted lost : List M) : Prop where
  append_eq : values = counted ++ lost
  full_of_lost : lost ≠ [] → counted ≠ [] ∧ full counted.sum
  room : ∀ front, front ≠ [] → front <+: counted → front ≠ counted → ¬ full front.sum

/-- A value that is lost. -/
theorem Split.lose {values counted lost : List M} (h : Split full values counted lost)
    (hne : counted ≠ []) (hfull : full counted.sum) (v : M) :
    Split full (values ++ [v]) counted (lost ++ [v]) where
  append_eq := by rw [h.append_eq, List.append_assoc]
  full_of_lost _ := ⟨hne, hfull⟩
  room := h.room

/-- A value that is counted. -/
theorem Split.count {values counted : List M} (h : Split full values counted [])
    (hroom : counted ≠ [] → ¬ full counted.sum) (v : M) :
    Split full (values ++ [v]) (counted ++ [v]) [] where
  append_eq := by rw [h.append_eq, List.append_nil, List.append_nil]
  full_of_lost hlost := absurd rfl hlost
  room front hfront hprefix hne := by
    rcases List.prefix_concat_iff.mp hprefix with heq | hbefore
    · exact absurd heq hne
    · by_cases hall : front = counted
      · rw [hall]
        exact hroom (hall ▸ hfront)
      · exact h.room front hfront hbefore hall

variable [DecidablePred full]

variable (full) in
/-- **A run splits its values**: the first ones are counted, and the others
come after a full sum. -/
theorem run_split (values : List M) : ∃ counted lost, Split full values counted lost
    ∧ values.foldl (add full) none = sum? counted := by
  induction values using List.reverseRecOn with
  | nil => exact ⟨[], [], ⟨rfl, fun h => absurd rfl h, fun _ hne h =>
      absurd (List.prefix_nil.mp h) hne⟩, rfl⟩
  | append_singleton values v ih =>
    obtain ⟨counted, lost, hsplit, hrun⟩ := ih
    rw [List.foldl_append, List.foldl_cons, List.foldl_nil, hrun]
    by_cases hnone : counted = []
    · -- the first value is counted whatever it is
      have hlost : lost = [] := by
        by_contra hne
        exact (hsplit.full_of_lost hne).1 hnone
      subst hnone hlost
      exact ⟨[v], [], hsplit.count (fun h => absurd rfl h) v, by simp [sum?, add]⟩
    · by_cases hfull : full counted.sum
      · refine ⟨counted, lost ++ [v], hsplit.lose hnone hfull v, ?_⟩
        simp [sum?, add, hfull]
      · have hlost : lost = [] := by
          by_contra hne
          exact hfull (hsplit.full_of_lost hne).2
        subst hlost
        exact ⟨counted ++ [v], [], hsplit.count (fun _ => hfull) v, by
          simp [sum?, add, hnone, hfull]⟩

/-- **A machine that tallies.** Its states show a tally (`shows`); a call that
gets through adds its value, and any other leaves the state as it is. -/
theorem run_simulates {σ ι : Type} {step : σ → ι → σ} {shows : Option M → σ} {through : ι → Bool}
    {value : ι → M}
    (hthrough : ∀ t i, through i = true → step (shows t) i = shows (add full t (value i)))
    (hother : ∀ t i, through i = false → step (shows t) i = shows t) (calls : List ι) :
    ∀ t, calls.foldl step (shows t)
      = shows (((calls.filter through).map value).foldl (add full) t) := by
  induction calls with
  | nil =>
    intro t
    rfl
  | cons i calls ih =>
    intro t
    rw [List.foldl_cons]
    cases hi : through i with
    | true =>
      rw [List.filter_cons_of_pos hi, List.map_cons, List.foldl_cons, hthrough t i hi]
      exact ih _
    | false =>
      rw [List.filter_cons_of_neg (by simp [hi]), hother t i hi]
      exact ih t

end Tally

end IoModule

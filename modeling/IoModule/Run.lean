import Mathlib.Logic.Relation

/-!
# Runs of a machine in its environment

A machine is a function from a state and an event to the next state, or to
nothing when the event makes no sense there. Which events may happen in a
state is the environment's business: a predicate `allows`. A `Run` is any
number of allowed events, applied one after the other.

- `Run.inv`: what every step keeps, every run keeps.
- `play`: a list of events as a program, which checks that each is allowed.
  Where it succeeds there is a run (`run_of_play`), so that a concrete run is
  a computation.
-/

namespace IoModule

variable {σ ε : Type}

/-- One step: an event the environment allows, applied. -/
def Step (apply : σ → ε → Option σ) (allows : σ → ε → Prop) (s s' : σ) : Prop :=
  ∃ e, allows s e ∧ apply s e = some s'

/-- Any number of steps. -/
abbrev Run (apply : σ → ε → Option σ) (allows : σ → ε → Prop) : σ → σ → Prop :=
  Relation.ReflTransGen (Step apply allows)

variable {apply : σ → ε → Option σ} {allows : σ → ε → Prop}

/-- **Invariant rule.** -/
theorem Run.inv {P : σ → Prop} (hstep : ∀ s s', Step apply allows s s' → P s → P s') {s s' : σ}
    (h : Run apply allows s s') (hs : P s) : P s' := by
  induction h with
  | refl => exact hs
  | tail _ hlast ih => exact hstep _ _ hlast ih

/-- Apply events one after the other, as long as they are allowed. -/
def play (apply : σ → ε → Option σ) (allows : σ → ε → Prop) [∀ s e, Decidable (allows s e)] :
    List ε → σ → Option σ
  | [], s => some s
  | e :: es, s =>
    if allows s e then
      match apply s e with
      | some s' => play apply allows es s'
      | none => none
    else none

variable [∀ s e, Decidable (allows s e)]

/-- Events that can be played are a run. -/
theorem run_of_play : ∀ {es : List ε} {s s' : σ},
    play apply allows es s = some s' → Run apply allows s s'
  | [], s, s', h => by
    cases h
    exact .refl
  | e :: es, s, s', h => by
    unfold play at h
    split at h
    next hallowed =>
      split at h
      next t happly => exact .head ⟨e, hallowed, happly⟩ (run_of_play h)
      next => cases h
    next => cases h

/-- A state found by playing events. -/
theorem exists_run_of_play {es : List ε} {s : σ} {found : σ → Bool}
    (h : (play apply allows es s).any found = true) :
    ∃ s', Run apply allows s s' ∧ found s' = true := by
  cases hplay : play apply allows es s with
  | none => rw [hplay] at h; cases h
  | some s' =>
    rw [hplay] at h
    exact ⟨s', run_of_play hplay, h⟩

end IoModule

/-!
# What one part of a machine's events sees of the others

A machine answers each event, or has no answer and stops. Its `transcript` is
the events with their answers. Some of the events are one client's own, and
`view` is the part of the state that client can observe. When is the client
alone with the machine, as far as it can tell?

It is enough to look at single steps (`Unwinds`): events that are not its own
leave its view as it is, and its own events do the same in any two states with
the same view. Then leaving all other events out changes neither its answers
nor its view (`Unwinds.run`). If the other events always have an answer, the run
with them goes through whenever the one without them does (`Unwinds.run_defined`).

What can be left out may also depend on the answers: an event that was answered
in a way that leaves the state as it is. `transcript_erase` leaves out all of
these, or any of them.
-/

namespace IoModule

variable {σ ε ρ ν : Type}

/-- The answers to events, and the state behind them. -/
def transcript (step : σ → ε → Option (ρ × σ)) : List ε → σ → Option (List (ε × ρ) × σ)
  | [], s => some ([], s)
  | e :: es, s =>
    match step s e with
    | none => none
    | some (r, s') =>
      match transcript step es s' with
      | none => none
      | some (log, s'') => some ((e, r) :: log, s'')

variable {step : σ → ε → Option (ρ × σ)} {own : ε → Bool} {view : σ → ν}

/-- A transcript of one event more. -/
theorem transcript_cons {e : ε} {es : List ε} {s s'' : σ} {log : List (ε × ρ)} :
    transcript step (e :: es) s = some (log, s'')
      ↔ ∃ r s' rest, step s e = some (r, s') ∧ transcript step es s' = some (rest, s'')
        ∧ log = (e, r) :: rest := by
  rw [transcript]
  constructor
  · intro h
    split at h
    next => cases h
    next r s' hstep =>
      split at h
      next => cases h
      next rest t hrest =>
        cases h
        exact ⟨r, s', rest, hstep, hrest, rfl⟩
  · intro hex
    obtain ⟨r, s', rest, hstep, hrest, rfl⟩ := hex
    simp only [hstep, hrest]

/-- **Erasing.** Leave out events whose answers say that nothing has happened:
the others are answered as before, and the state behind them is the same. -/
theorem transcript_erase {heeded : ε × ρ → Bool}
    (hidle : ∀ {s s' e r}, step s e = some (r, s') → heeded (e, r) = false → s' = s) :
    ∀ {es : List ε} {s s' : σ} {log : List (ε × ρ)}, transcript step es s = some (log, s') →
      transcript step ((log.filter heeded).map Prod.fst) s = some (log.filter heeded, s')
  | [], s, s', log, hrun => by
    cases hrun
    rfl
  | e :: es, s, s', log, hrun => by
    obtain ⟨r, s₁, rest, hstep, hrest, rfl⟩ := transcript_cons.mp hrun
    have ih := transcript_erase hidle hrest
    cases hheeded : heeded (e, r) with
    | false =>
      obtain rfl := hidle hstep hheeded
      rw [List.filter_cons_of_neg (by simp [hheeded])]
      exact ih
    | true =>
      rw [List.filter_cons_of_pos hheeded, List.map_cons]
      exact transcript_cons.mpr ⟨r, s₁, _, hstep, ih, rfl⟩

/-- The client of some events sees nothing of the others, step by step. -/
structure Unwinds (step : σ → ε → Option (ρ × σ)) (own : ε → Bool) (view : σ → ν) : Prop where
  respects : ∀ {s s' e r}, own e = false → step s e = some (r, s') → view s' = view s
  consistent : ∀ {s t s' e r}, own e = true → view s = view t → step s e = some (r, s') →
    ∃ t', step t e = some (r, t') ∧ view s' = view t'

/-- **Unwinding.** Leave out every event that is not the client's own: its
answers and its view are the same. -/
theorem Unwinds.run (h : Unwinds step own view) : ∀ {es : List ε} {s t s' : σ} {log : List (ε × ρ)},
    view s = view t → transcript step es s = some (log, s') →
      ∃ t', transcript step (es.filter own) t = some (log.filter fun p => own p.1, t')
        ∧ view s' = view t'
  | [], s, t, s', log, hview, hrun => by
    cases hrun
    exact ⟨t, rfl, hview⟩
  | e :: es, s, t, s', log, hview, hrun => by
    obtain ⟨r, s₁, rest, hstep, hrest, rfl⟩ := transcript_cons.mp hrun
    cases hown : own e with
    | false =>
      -- the other side stays where it is
      obtain ⟨t', ht', hview'⟩ := h.run ((h.respects hown hstep).trans hview) hrest
      refine ⟨t', ?_, hview'⟩
      rw [List.filter_cons_of_neg (by simp [hown]), List.filter_cons_of_neg (by simp [hown])]
      exact ht'
    | true =>
      obtain ⟨t₁, ht₁, hview₁⟩ := h.consistent hown hview hstep
      obtain ⟨t', ht', hview'⟩ := h.run hview₁ hrest
      refine ⟨t', ?_, hview'⟩
      rw [List.filter_cons_of_pos hown, List.filter_cons_of_pos (by simp [hown])]
      exact transcript_cons.mpr ⟨r, t₁, _, ht₁, ht', rfl⟩

/-- Events of others that always have an answer do not stop a run. -/
theorem Unwinds.run_defined (h : Unwinds step own view)
    (htotal : ∀ s e, own e = false → ∃ r s', step s e = some (r, s')) :
    ∀ {es : List ε} {s t t' : σ} {log : List (ε × ρ)}, view s = view t →
      transcript step (es.filter own) t = some (log, t') →
      ∃ full s', transcript step es s = some (full, s')
  | [], s, t, t', log, _, _ => ⟨[], s, rfl⟩
  | e :: es, s, t, t', log, hview, hrun => by
    cases hown : own e with
    | false =>
      rw [List.filter_cons_of_neg (by simp [hown])] at hrun
      obtain ⟨r, s₁, hstep⟩ := htotal s e hown
      obtain ⟨full, s', hfull⟩ := h.run_defined htotal ((h.respects hown hstep).trans hview) hrun
      exact ⟨_, s', transcript_cons.mpr ⟨r, s₁, full, hstep, hfull, rfl⟩⟩
    | true =>
      rw [List.filter_cons_of_pos hown] at hrun
      obtain ⟨r, t₁, rest, hstep, hrest, rfl⟩ := transcript_cons.mp hrun
      obtain ⟨s₁, hs₁, hview₁⟩ := h.consistent hown hview.symm hstep
      obtain ⟨full, s', hfull⟩ := h.run_defined htotal hview₁.symm hrest
      exact ⟨_, s', transcript_cons.mpr ⟨r, s₁, full, hs₁, hfull, rfl⟩⟩

end IoModule

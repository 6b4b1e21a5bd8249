import IoModule.Devices.FirstCommand

/-!
# What a command does to an output

`DeviceStatus.execute` runs through the actions of a command. Seen from one
output it is a function of that output's state alone: `DeviceCommand.effect`,
the outcomes of the actions that carry its number, one after the other
(`execute_state`). Nothing else of a status changes: not the errors of the
outputs, not the inputs, not the presses (`execute_frame`).

So two commands may be executed in either order, on every device status, exactly
when their effects commute on every output the device has
(`execute_comm_iff`).
-/

namespace IoModule

/-- What a command makes of the state of the output numbered `k + 1`. -/
def DeviceCommand.effect (c : DeviceCommand) (k : Nat) (state : Bool) : Bool :=
  c.outputActionList.foldl
    (fun state a => if a.outputNumber.toNat = k + 1 then a.actionType.outcome state else state) state

namespace DeviceStatus

variable {I O : Nat}

/-- What no action changes. -/
theorem executeAction_frame (s : DeviceStatus I O) (a : OutputAction) :
    (s.executeAction a).inputStates = s.inputStates
      ∧ (s.executeAction a).buttonPresses = s.buttonPresses
      ∧ ∀ (k : Nat) (hk : k < O),
        (s.executeAction a).outputStates[k].outputError = s.outputStates[k].outputError := by
  unfold executeAction
  by_cases h : HasOutput O a.outputNumber
  · rw [dif_pos h]
    refine ⟨rfl, rfl, fun k hk => ?_⟩
    show (writeNumber s.outputStates _ _)[k].outputError = _
    rw [writeNumber_getElem _ _ _ hk]
    by_cases hnumber : a.outputNumber.toNat = k + 1
    · have hindex : a.outputNumber.toNat - 1 = k := by omega
      rw [if_pos hnumber]
      simp only [hindex]
    · rw [if_neg hnumber]
  · rw [dif_neg h]
    exact ⟨rfl, rfl, fun _ _ => rfl⟩

/-- What no command changes. -/
theorem execute_frame (c : DeviceCommand) (s : DeviceStatus I O) :
    (s.execute c).inputStates = s.inputStates
      ∧ (s.execute c).buttonPresses = s.buttonPresses
      ∧ ∀ (k : Nat) (hk : k < O),
        (s.execute c).outputStates[k].outputError = s.outputStates[k].outputError := by
  unfold execute
  induction c.outputActionList generalizing s with
  | nil => exact ⟨rfl, rfl, fun _ _ => rfl⟩
  | cons a as ih =>
    obtain ⟨hinputs, hpresses, herrors⟩ := s.executeAction_frame a
    obtain ⟨hinputs', hpresses', herrors'⟩ := ih (s.executeAction a)
    rw [List.foldl_cons]
    exact ⟨hinputs'.trans hinputs, hpresses'.trans hpresses,
      fun k hk => (herrors' k hk).trans (herrors k hk)⟩

/-- A command has its effect on each output. -/
theorem execute_state (c : DeviceCommand) (s : DeviceStatus I O) {k : Nat} (hk : k < O) :
    (s.execute c).outputStates[k].outputState = c.effect k s.outputStates[k].outputState := by
  unfold execute DeviceCommand.effect
  induction c.outputActionList generalizing s with
  | nil => rfl
  | cons a as ih => rw [List.foldl_cons, List.foldl_cons, ih, executeAction_state s a hk]

/-- Statuses that agree in everything, one cell after the other. -/
theorem ext_cells {s t : DeviceStatus I O} (hinputs : s.inputStates = t.inputStates)
    (hpresses : s.buttonPresses = t.buttonPresses)
    (herrors : ∀ (k : Nat) (hk : k < O),
      s.outputStates[k].outputError = t.outputStates[k].outputError)
    (hstates : ∀ (k : Nat) (hk : k < O),
      s.outputStates[k].outputState = t.outputStates[k].outputState) : s = t := by
  obtain ⟨inputs, outputs, presses⟩ := s
  obtain ⟨inputs', outputs', presses'⟩ := t
  obtain rfl : inputs = inputs' := hinputs
  obtain rfl : presses = presses' := hpresses
  have houtputs : outputs = outputs' := by
    ext k hk
    · exact herrors k hk
    · exact hstates k hk
  rw [houtputs]

/-- **When the order of two commands does not matter**: when their effects
commute on every output. -/
theorem execute_comm_iff (c c' : DeviceCommand) :
    (∀ s : DeviceStatus I O, (s.execute c).execute c' = (s.execute c').execute c)
      ↔ ∀ k < O, ∀ state, c'.effect k (c.effect k state) = c.effect k (c'.effect k state) := by
  constructor
  · intro h k hk state
    have hcell := congrArg (fun s : DeviceStatus I O => s.outputStates[k].outputState)
      (h ⟨Vector.replicate I false, Vector.replicate O ⟨false, state⟩, 0⟩)
    simpa only [execute_state _ _ hk, Vector.getElem_replicate] using hcell
  · intro h s
    obtain ⟨hinputs, hpresses, herrors⟩ := execute_frame c s
    obtain ⟨hinputs', hpresses', herrors'⟩ := execute_frame c' s
    obtain ⟨hinputs₁, hpresses₁, herrors₁⟩ := execute_frame c' (s.execute c)
    obtain ⟨hinputs₂, hpresses₂, herrors₂⟩ := execute_frame c (s.execute c')
    refine ext_cells ?_ ?_ (fun k hk => ?_) fun k hk => ?_
    · rw [hinputs₁, hinputs, hinputs₂, hinputs']
    · rw [hpresses₁, hpresses, hpresses₂, hpresses']
    · rw [herrors₁ k hk, herrors k hk, herrors₂ k hk, herrors' k hk]
    · rw [execute_state _ _ hk, execute_state _ _ hk, execute_state _ _ hk, execute_state _ _ hk]
      exact h k hk _

end DeviceStatus

end IoModule

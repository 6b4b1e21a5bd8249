import IoModule.Devices.ModuleManager

/-!
# The first command

`generate_first_command` is the command a device starts with: set the outputs
off. Its actions carry the enumerators of `OutputIndexes`, which count from 0,
while an output number counts from 1: number 0 is no output, and `OUTPUT_4` is
the third output.

`DeviceStatus.execute` is what a device does with a command, in the numbering
of `setOutputState`. An action sets off the output of its number and no other
(`execute_setOff`), so after the first command the outputs numbered 1 to 3 are
off and every other one is as it was (`firstCommand_resets_iff`): the command
resets a Button, which has no outputs, and no other device.
`firstCommand_leaves_on` is an Opta whose fourth output stays on.
-/

namespace IoModule

/-- What an action of a type makes of the state of its output. -/
def ActionType.outcome (type : ActionType) (state : Bool) : Bool :=
  if type = .setOff then false
  else if type = .setOn then true
  else if type = .toggle then !state
  else state

namespace DeviceStatus

variable {I O : Nat}

/-- The number names an output: `setOutputState` does not ignore it. -/
def HasOutput (O : Nat) (number : UInt8) : Prop := number.toNat ≤ O ∧ number.toNat ≠ 0

instance (O : Nat) (number : UInt8) : Decidable (HasOutput O number) :=
  inferInstanceAs (Decidable (_ ∧ _))

/-- An action executed: its output changes state and keeps its error. -/
def executeAction (s : DeviceStatus I O) (a : OutputAction) : DeviceStatus I O :=
  if h : HasOutput O a.outputNumber then
    have hindex : a.outputNumber.toNat - 1 < O := by unfold HasOutput at h; omega
    let output := s.outputStates[a.outputNumber.toNat - 1]
    s.setOutputState a.outputNumber output.outputError (a.actionType.outcome output.outputState)
  else s

/-- A command executed, action by action. -/
def execute (s : DeviceStatus I O) (c : DeviceCommand) : DeviceStatus I O :=
  c.outputActionList.foldl executeAction s

/-- Every output is off. -/
def AllOff (s : DeviceStatus I O) : Prop :=
  ∀ (k : Nat) (hk : k < O), s.outputStates[k].outputState = false

/-- The command resets the device: it names outputs of the device only, and
leaves every output off. -/
def ResetBy (s : DeviceStatus I O) (c : DeviceCommand) : Prop :=
  (s.execute c).AllOff ∧ ∀ a ∈ c.outputActionList, HasOutput O a.outputNumber

/-- An action changes the state of the output of its number. -/
theorem executeAction_state (s : DeviceStatus I O) (a : OutputAction) {k : Nat} (hk : k < O) :
    (s.executeAction a).outputStates[k].outputState
      = if a.outputNumber.toNat = k + 1 then a.actionType.outcome s.outputStates[k].outputState
        else s.outputStates[k].outputState := by
  unfold executeAction
  by_cases h : HasOutput O a.outputNumber
  · rw [dif_pos h]
    show (writeNumber s.outputStates _ _)[k].outputState = _
    rw [writeNumber_getElem _ _ _ hk]
    by_cases hnumber : a.outputNumber.toNat = k + 1
    · have hindex : a.outputNumber.toNat - 1 = k := by omega
      rw [if_pos hnumber, if_pos hnumber]
      simp only [hindex]
    · rw [if_neg hnumber, if_neg hnumber]
  · have hnumber : a.outputNumber.toNat ≠ k + 1 := by
      unfold HasOutput at h
      omega
    rw [dif_neg h, if_neg hnumber]

/-- After actions that set outputs off, an output is on only if it was on
and none of them carried its number. -/
theorem execute_setOff {k : Nat} (hk : k < O) :
    ∀ (as : List OutputAction) (s : DeviceStatus I O), (∀ a ∈ as, a.actionType = .setOff) →
      (as.foldl executeAction s).outputStates[k].outputState
        = (s.outputStates[k].outputState && !as.any fun a => a.outputNumber.toNat == k + 1) := by
  intro as
  induction as with
  | nil =>
    intro s _
    simp
  | cons a as ih =>
    intro s hoff
    have ha : a.actionType = .setOff := hoff a (List.mem_cons_self ..)
    rw [List.foldl_cons, ih _ fun x hx => hoff x (List.mem_cons_of_mem _ hx),
      executeAction_state s a hk, List.any_cons, ha]
    by_cases hnumber : a.outputNumber.toNat = k + 1
    · rw [if_pos hnumber]
      simp [ActionType.outcome, hnumber]
    · have hother : (a.outputNumber.toNat == k + 1) = false := beq_false_of_ne hnumber
      rw [if_neg hnumber, hother, Bool.false_or]

end DeviceStatus

/-! ## The command that is generated -/

/-- The action that sets off the output of an index. -/
def resetAction (index : Nat) : OutputAction := ⟨UInt8.ofNat index, .setOff⟩

/-- The command that sets off the outputs of some indexes. -/
def resetCommand (indexes : List Nat) : DeviceCommand := ⟨indexes.map resetAction⟩

/-- The indexes each device resets. -/
def firstIndexes (deviceType : UInt32) : List Nat :=
  switchDevice deviceType
    ([.output1, .output2, .output3, .output4].map OutputIndexes.value)
    (OutputIndexes.through .output1 .output4)
    (OutputIndexes.through .output1 .output4)
    [] []

variable {N : JsonText}

/-- The text `generate_first_command` writes. -/
theorem Device.generateFirstCommand_eq (granted : Bool) (indexes : List Nat) :
    Device.generateFirstCommand N granted indexes
      = .ok (allocate granted (N.dump (resetCommand indexes).commandDocument)) := by
  have hcommand : indexes.foldl (fun c i => c.addOutputAction (resetAction i)) DeviceCommand.fresh
      = resetCommand indexes := by
    rw [← List.foldl_map, DeviceCommand.foldl_addOutputAction]
    rfl
  unfold Device.generateFirstCommand
  rw [← hcommand]
  exact DeviceCommand.serializeToBuffer_eq N granted _

/-- A supported device resets its indexes. -/
theorem generateFirstCommand_eq {deviceType : UInt32}
    (h : isDeviceTypeSupported deviceType = .ok) (granted : Bool) :
    generateFirstCommand N granted deviceType
      = .ok (allocate granted (N.dump (resetCommand (firstIndexes deviceType)).commandDocument)) := by
  rw [← Device.generateFirstCommand_eq]
  rcases supported_cases h with rfl | rfl | rfl | rfl <;> rfl

/-- After the reset of some indexes, an output is off if its number is one
of them or if it was off before. -/
theorem execute_resetCommand {I O : Nat} (s : DeviceStatus I O) (indexes : List Nat) {k : Nat}
    (hk : k < O) :
    (s.execute (resetCommand indexes)).outputStates[k].outputState
      = (s.outputStates[k].outputState
        && !indexes.any fun i => (UInt8.ofNat i).toNat == k + 1) := by
  have hoff : ∀ a ∈ indexes.map resetAction, a.actionType = .setOff := by
    intro a ha
    obtain ⟨i, -, rfl⟩ := List.mem_map.mp ha
    rfl
  unfold DeviceStatus.execute resetCommand
  rw [DeviceStatus.execute_setOff hk _ s hoff, List.any_map]
  rfl

/-- As numbers, four indexes from 0 name the first three outputs. -/
theorem four_reach (k : Nat) :
    ([0, 1, 2, 3].any fun i => (UInt8.ofNat i).toNat == k + 1) = decide (k < 3) := by
  rw [Bool.eq_iff_iff, decide_eq_true_eq, List.any_eq_true]
  constructor
  · intro hex
    obtain ⟨i, hi, hik⟩ := hex
    have hnumber : (UInt8.ofNat i).toNat = k + 1 := eq_of_beq hik
    simp only [List.mem_cons, List.not_mem_nil, or_false] at hi
    rcases hi with rfl | rfl | rfl | rfl
    · exact absurd hnumber (Nat.succ_ne_zero k).symm
    · have : k + 1 = 1 := hnumber.symm
      omega
    · have : k + 1 = 2 := hnumber.symm
      omega
    · have : k + 1 = 3 := hnumber.symm
      omega
  · intro hk
    have hsmall : (UInt8.ofNat (k + 1)).toNat = k + 1 :=
      UInt8.toNat_ofNat_of_lt' (Nat.lt_trans (Nat.add_lt_add_right hk 1) (by decide))
    refine ⟨k + 1, by simp; omega, ?_⟩
    rw [hsmall, beq_self_eq_true]

/-- **Four indexes from 0** reach the outputs numbered 1 to 3. -/
theorem execute_four {I O : Nat} (s : DeviceStatus I O) :
    (s.execute (resetCommand [0, 1, 2, 3])).AllOff
      ↔ ∀ (k : Nat) (hk : k < O), 3 ≤ k → s.outputStates[k].outputState = false := by
  constructor
  · intro hall k hk hfour
    have hoff := hall k hk
    rw [execute_resetCommand s _ hk, four_reach k, decide_eq_false (by omega)] at hoff
    simpa using hoff
  · intro hrest k hk
    rw [execute_resetCommand s _ hk, four_reach k]
    by_cases hthree : k < 3
    · rw [decide_eq_true hthree, Bool.not_true, Bool.and_false]
    · rw [hrest k hk (by omega), Bool.false_and]

/-- Number 0 names no output, so a command with index 0 resets no device. -/
theorem not_resetBy_zero {I O : Nat} (s : DeviceStatus I O) {indexes : List Nat}
    (hzero : 0 ∈ indexes) : ¬ s.ResetBy (resetCommand indexes) := by
  intro h
  have hnumber : DeviceStatus.HasOutput O (resetAction 0).outputNumber :=
    h.2 _ (List.mem_map_of_mem hzero)
  exact hnumber.2 rfl

/-! ## What it does to a device -/

/-- The text that is generated reads back as the command. -/
theorem firstCommand_decoded (hN : N.Lossless) {deviceType : UInt32}
    (h : isDeviceTypeSupported deviceType = .ok) :
    ∃ text, generateFirstCommand N true deviceType = .ok (some text)
      ∧ DeviceCommand.fresh.deserializeFromBuffer N (.data text)
        = (.ok .ok, resetCommand (firstIndexes deviceType)) :=
  ⟨_, generateFirstCommand_eq h true, DeviceCommand.deserialize_dump N hN _⟩

/-- A valid status decodes to one of the sizes of its device. -/
theorem decodeStatus_of_valid {deviceType : UInt32} (h : isDeviceTypeSupported deviceType = .ok)
    {b : Buffer} (hvalid : statusDataValid N b deviceType = .ok .ok) :
    ∃ s, Device.decodeStatus N (inputsCount deviceType) (outputsCount deviceType) b = some s := by
  obtain ⟨changed, hacts⟩ := supported_actsAs (N := N) h
  exact (hacts.valid_iff b).mp hvalid

/-- A device with outputs resets four indexes from 0, a Button none. -/
theorem firstIndexes_cases {deviceType : UInt32} (h : isDeviceTypeSupported deviceType = .ok) :
    (deviceType ≠ buttonDeviceType ∧ firstIndexes deviceType = [0, 1, 2, 3])
      ∨ (deviceType = buttonDeviceType ∧ firstIndexes deviceType = []
        ∧ outputsCount deviceType = 0) := by
  rcases supported_cases h with rfl | rfl | rfl | rfl
  · exact Or.inl ⟨by decide, rfl⟩
  · exact Or.inl ⟨by decide, rfl⟩
  · exact Or.inl ⟨by decide, rfl⟩
  · exact Or.inr ⟨rfl, rfl, rfl⟩

/-- **Which devices the first command resets.** For a supported device and any
status of it, the first command is generated and decodes. It resets a Button
and no other device, since its first action names no output. Executed, it
leaves every output off exactly if those from the fourth on were off before. -/
theorem firstCommand_resets_iff (hN : N.Lossless) (deviceType : UInt32)
    (hsupported : isDeviceTypeSupported deviceType = .ok) (b : Buffer)
    (hvalid : statusDataValid N b deviceType = .ok .ok) :
    ∃ text command s, generateFirstCommand N true deviceType = .ok (some text)
      ∧ DeviceCommand.fresh.deserializeFromBuffer N (.data text) = (.ok .ok, command)
      ∧ Device.decodeStatus N (inputsCount deviceType) (outputsCount deviceType) b = some s
      ∧ (s.ResetBy command ↔ deviceType = buttonDeviceType)
      ∧ ((s.execute command).AllOff ↔ ∀ (k : Nat) (hk : k < outputsCount deviceType), 3 ≤ k →
        s.outputStates[k].outputState = false) := by
  obtain ⟨text, htext, hcommand⟩ := firstCommand_decoded hN hsupported
  obtain ⟨s, hs⟩ := decodeStatus_of_valid hsupported hvalid
  refine ⟨text, _, s, htext, hcommand, hs, ?_⟩
  rcases firstIndexes_cases hsupported with ⟨hother, hfour⟩ | ⟨hbutton, hnone, hempty⟩
  · rw [hfour]
    refine ⟨iff_of_false ?_ hother, execute_four s⟩
    exact not_resetBy_zero s (List.mem_cons_self ..)
  · -- no outputs: there is nothing to leave on, and no action to name it
    have hoff : (s.execute (resetCommand (firstIndexes deviceType))).AllOff :=
      fun k hk => absurd (hempty ▸ hk) (Nat.not_lt_zero k)
    have hvacuous : ∀ (k : Nat) (hk : k < outputsCount deviceType), 3 ≤ k →
        s.outputStates[k].outputState = false :=
      fun k hk _ => absurd (hempty ▸ hk) (Nat.not_lt_zero k)
    refine ⟨iff_of_true ⟨hoff, fun a ha => ?_⟩ hbutton, iff_of_true hoff hvacuous⟩
    rw [hnone] at ha
    exact absurd ha List.not_mem_nil

/-- An Opta at rest, whose outputs all were off: they stay off, and still the
command is no reset. -/
theorem firstCommand_resets_iff_opta :
    ∃ text command s, generateFirstCommand .compact true 1 = .ok (some text)
      ∧ DeviceCommand.fresh.deserializeFromBuffer .compact (.data text) = (.ok .ok, command)
      ∧ Device.decodeStatus .compact (inputsCount 1) (outputsCount 1)
        (Device.restingStatus .compact 6 4 0) = some s
      ∧ (s.ResetBy command ↔ (1 : UInt32) = buttonDeviceType)
      ∧ ((s.execute command).AllOff ↔ ∀ (k : Nat) (hk : k < outputsCount 1), 3 ≤ k →
        s.outputStates[k].outputState = false) :=
  firstCommand_resets_iff JsonText.compact_lossless 1 rfl _
    ((arduinoOpta_actsAs .compact).valid_restingStatus JsonText.compact_lossless 0)

/-- An Opta with all four outputs on. -/
def optaAllOn : DeviceStatus arduinoOptaInputsCount arduinoOptaOutputsCount :=
  ⟨Vector.replicate 6 false, Vector.replicate 4 ⟨false, true⟩, 0⟩

/-- **An output the first command leaves on.** On an Opta whose outputs are
all on it sets the outputs numbered 1 to 3 off, its fourth action names
output number 3, and its first one names none. -/
theorem firstCommand_leaves_on :
    ∃ text command s, generateFirstCommand .compact true 1 = .ok (some text)
      ∧ DeviceCommand.fresh.deserializeFromBuffer .compact (.data text) = (.ok .ok, command)
      ∧ statusDataValid .compact (.data (JsonText.compact.dump optaAllOn.statusDocument)) 1 = .ok .ok
      ∧ Device.decodeStatus .compact 6 4
        (.data (JsonText.compact.dump optaAllOn.statusDocument)) = some s
      ∧ (s.execute command).outputStates.toList.map OutputStatus.outputState
        = [false, false, false, true]
      ∧ command.outputActionList.map OutputAction.outputNumber = [0, 1, 2, 3]
      ∧ ¬ DeviceStatus.HasOutput 4 0 ∧ ¬ s.ResetBy command := by
  have hsupported : isDeviceTypeSupported arduinoOptaDeviceType = .ok := rfl
  obtain ⟨text, htext, hcommand⟩ := firstCommand_decoded JsonText.compact_lossless hsupported
  have hdecoded : Device.decodeStatus .compact arduinoOptaInputsCount arduinoOptaOutputsCount
      (.data (JsonText.compact.dump optaAllOn.statusDocument)) = some optaAllOn :=
    Device.decodeStatus_dump JsonText.compact_lossless (by decide) (by decide) optaAllOn
  refine ⟨text, _, _, htext, hcommand, ?_, hdecoded, ?_, ?_, ?_, ?_⟩
  · exact ((arduinoOpta_actsAs .compact).valid_iff _).mpr ⟨_, hdecoded⟩
  · decide +kernel
  · decide +kernel
  · decide
  · exact not_resetBy_zero optaAllOn (List.mem_cons_self ..)

end IoModule

import IoModule.Devices.Family

/-!
# The supported devices and `module_manager`

The four devices of `io_module.h`, each device's handlers under their own
names, and the dispatch of `module_manager.cpp` and `device_management.cpp`
by device type. Opta is the only device with a button of its own, so it
compares the presses between the outputs and the inputs; Button has no
outputs, compares the inputs only, and answers every error aggregation with a
count of zero.

`decodedStatus` is the meaning of a status buffer for a device type: the two
arrays and the presses, without the sizes in the type, so that one statement
covers all devices.
-/

namespace IoModule

/-! ## `io_module.h` -/

/-- Module identification number as described in Fleet protocol. -/
def ioModuleNumber : Int32 := 2

def arduinoOptaDeviceType : UInt32 := 1
def arduinoOptaInputsCount : Nat := 6
def arduinoOptaOutputsCount : Nat := 4

def arduinoMegaDeviceType : UInt32 := 2
def arduinoMegaInputsCount : Nat := 4
def arduinoMegaOutputsCount : Nat := 4

def arduinoUnoDeviceType : UInt32 := 3
def arduinoUnoInputsCount : Nat := 6
def arduinoUnoOutputsCount : Nat := 7

def buttonDeviceType : UInt32 := 4
def buttonInputsCount : Nat := 1
def buttonOutputsCount : Nat := 0

/-- Indexes of outputs. -/
inductive OutputIndexes where
  | output1
  | output2
  | output3
  | output4
  | output5
  | output6
  | output7
  | output8
  | output9
  | output10
  | output11
  | output12
  | output13
  | output14
  | output15
  | output16
deriving DecidableEq, Repr

/-- The value of an enumerator: they count from 0. -/
def OutputIndexes.value (i : OutputIndexes) : Nat := i.ctorIdx

/-- A `switch` over `device_type`. -/
def switchDevice {α : Type} (deviceType : UInt32) (opta mega uno button other : α) : α :=
  if deviceType = arduinoOptaDeviceType then opta
  else if deviceType = arduinoMegaDeviceType then mega
  else if deviceType = arduinoUnoDeviceType then uno
  else if deviceType = buttonDeviceType then button
  else other

/-- The inputs a device of a type has. -/
def inputsCount (deviceType : UInt32) : Nat :=
  switchDevice deviceType arduinoOptaInputsCount arduinoMegaInputsCount arduinoUnoInputsCount
    buttonInputsCount 0

/-- The outputs a device of a type has. -/
def outputsCount (deviceType : UInt32) : Nat :=
  switchDevice deviceType arduinoOptaOutputsCount arduinoMegaOutputsCount arduinoUnoOutputsCount
    buttonOutputsCount 0

/-- `get_module_number` -/
def getModuleNumber : Int32 := ioModuleNumber

/-- `is_device_type_supported` -/
def isDeviceTypeSupported (deviceType : UInt32) : ReturnCode :=
  switchDevice deviceType .ok .ok .ok .ok .notOk

/-! ## Comparisons -/

namespace Device

variable {I O : Nat}

/-- Opta: outputs, then the button, then inputs. A press in the new status
counts, and so does the first status without one. -/
def optaChanged (cStatus nStatus : DeviceStatus I O) : Bool :=
  outputsDiffer cStatus nStatus
    || (nStatus.buttonPresses > 0 || (cStatus.buttonPresses > 0 && nStatus.buttonPresses == 0))
    || inputsDiffer cStatus nStatus

/-- Mega and Uno: outputs, then inputs. -/
def plainChanged (cStatus nStatus : DeviceStatus I O) : Bool :=
  outputsDiffer cStatus nStatus || inputsDiffer cStatus nStatus

/-- Button: inputs only. -/
def buttonChanged (cStatus nStatus : DeviceStatus I O) : Bool :=
  inputsDiffer cStatus nStatus

end Device

/-! ## The handlers of each device -/

variable (N : JsonText)

def arduinoOptaSendStatusCondition : Buffer → Buffer → Except JsonError ReturnCode :=
  Device.sendStatusCondition N
    (Device.optaChanged (I := arduinoOptaInputsCount) (O := arduinoOptaOutputsCount))

def arduinoMegaSendStatusCondition : Buffer → Buffer → Except JsonError ReturnCode :=
  Device.sendStatusCondition N
    (Device.plainChanged (I := arduinoMegaInputsCount) (O := arduinoMegaOutputsCount))

def arduinoUnoSendStatusCondition : Buffer → Buffer → Except JsonError ReturnCode :=
  Device.sendStatusCondition N
    (Device.plainChanged (I := arduinoUnoInputsCount) (O := arduinoUnoOutputsCount))

def buttonSendStatusCondition : Buffer → Buffer → Except JsonError ReturnCode :=
  Device.sendStatusCondition N
    (Device.buttonChanged (I := buttonInputsCount) (O := buttonOutputsCount))

def arduinoOptaAggregateStatus : Bool → Buffer → Buffer → Written :=
  Device.aggregateStatus N arduinoOptaInputsCount arduinoOptaOutputsCount

def arduinoMegaAggregateStatus : Bool → Buffer → Buffer → Written :=
  Device.aggregateStatus N arduinoMegaInputsCount arduinoMegaOutputsCount

def arduinoUnoAggregateStatus : Bool → Buffer → Buffer → Written :=
  Device.aggregateStatus N arduinoUnoInputsCount arduinoUnoOutputsCount

def buttonAggregateStatus : Bool → Buffer → Buffer → Written :=
  Device.aggregateStatus N buttonInputsCount buttonOutputsCount

def arduinoOptaAggregateError : Bool → Buffer → Buffer → Written :=
  Device.aggregateError N arduinoOptaInputsCount arduinoOptaOutputsCount

def arduinoMegaAggregateError : Bool → Buffer → Buffer → Written :=
  Device.aggregateError N arduinoMegaInputsCount arduinoMegaOutputsCount

def arduinoUnoAggregateError : Bool → Buffer → Buffer → Written :=
  Device.aggregateError N arduinoUnoInputsCount arduinoUnoOutputsCount

/-- Button looks at neither the current message nor the status. -/
def buttonAggregateError (granted : Bool) (_currentErrorMessage _status : Buffer) : Written :=
  serializeError N granted 0

def arduinoOptaStatusDataValid : Buffer → Except JsonError ReturnCode :=
  Device.statusDataValid N arduinoOptaInputsCount arduinoOptaOutputsCount

def arduinoMegaStatusDataValid : Buffer → Except JsonError ReturnCode :=
  Device.statusDataValid N arduinoMegaInputsCount arduinoMegaOutputsCount

def arduinoUnoStatusDataValid : Buffer → Except JsonError ReturnCode :=
  Device.statusDataValid N arduinoUnoInputsCount arduinoUnoOutputsCount

def buttonStatusDataValid : Buffer → Except JsonError ReturnCode :=
  Device.statusDataValid N buttonInputsCount buttonOutputsCount

def arduinoOptaGenerateFirstCommand (granted : Bool) : Written :=
  Device.generateFirstCommand N granted
    ([.output1, .output2, .output3, .output4].map OutputIndexes.value)

/-- The indexes of a loop from one enumerator up to and including another. -/
def OutputIndexes.through (first last : OutputIndexes) : List Nat :=
  List.range' first.value (last.value + 1 - first.value)

def arduinoMegaGenerateFirstCommand (granted : Bool) : Written :=
  Device.generateFirstCommand N granted (OutputIndexes.through .output1 .output4)

def arduinoUnoGenerateFirstCommand (granted : Bool) : Written :=
  Device.generateFirstCommand N granted (OutputIndexes.through .output1 .output4)

/-- Button has no output to set. -/
def buttonGenerateFirstCommand (granted : Bool) : Written :=
  Device.generateFirstCommand N granted []

def arduinoOptaGenerateCommand : Bool → Buffer → Buffer → Buffer → Option Bytes :=
  Device.generateCommand

def arduinoMegaGenerateCommand : Bool → Buffer → Buffer → Buffer → Option Bytes :=
  Device.generateCommand

def arduinoUnoGenerateCommand : Bool → Buffer → Buffer → Buffer → Option Bytes :=
  Device.generateCommand

def buttonGenerateCommand : Bool → Buffer → Buffer → Buffer → Option Bytes :=
  Device.generateCommand

def arduinoOptaCommandDataValid : Buffer → Except JsonError ReturnCode :=
  Device.commandDataValid N

def arduinoMegaCommandDataValid : Buffer → Except JsonError ReturnCode :=
  Device.commandDataValid N

def arduinoUnoCommandDataValid : Buffer → Except JsonError ReturnCode :=
  Device.commandDataValid N

def buttonCommandDataValid : Buffer → Except JsonError ReturnCode :=
  Device.commandDataValid N

/-! ## `module_manager.cpp` -/

/-- `send_status_condition` -/
def sendStatusCondition (currentStatus newStatus : Buffer) (deviceType : UInt32) :
    Except JsonError ReturnCode :=
  switchDevice deviceType
    (arduinoOptaSendStatusCondition N currentStatus newStatus)
    (arduinoMegaSendStatusCondition N currentStatus newStatus)
    (arduinoUnoSendStatusCondition N currentStatus newStatus)
    (buttonSendStatusCondition N currentStatus newStatus)
    (.ok .notOk)

/-- `aggregate_status` -/
def aggregateStatus (granted : Bool) (currentStatus newStatus : Buffer) (deviceType : UInt32) :
    Written :=
  switchDevice deviceType
    (arduinoOptaAggregateStatus N granted currentStatus newStatus)
    (arduinoMegaAggregateStatus N granted currentStatus newStatus)
    (arduinoUnoAggregateStatus N granted currentStatus newStatus)
    (buttonAggregateStatus N granted currentStatus newStatus)
    (.ok none)

/-- `aggregate_error` -/
def aggregateError (granted : Bool) (currentErrorMessage status : Buffer) (deviceType : UInt32) :
    Written :=
  switchDevice deviceType
    (arduinoOptaAggregateError N granted currentErrorMessage status)
    (arduinoMegaAggregateError N granted currentErrorMessage status)
    (arduinoUnoAggregateError N granted currentErrorMessage status)
    (buttonAggregateError N granted currentErrorMessage status)
    (.ok none)

/-- `status_data_valid` -/
def statusDataValid (status : Buffer) (deviceType : UInt32) : Except JsonError ReturnCode :=
  switchDevice deviceType
    (arduinoOptaStatusDataValid N status)
    (arduinoMegaStatusDataValid N status)
    (arduinoUnoStatusDataValid N status)
    (buttonStatusDataValid N status)
    (.ok .notOk)

/-- `generate_first_command` -/
def generateFirstCommand (granted : Bool) (deviceType : UInt32) : Written :=
  switchDevice deviceType
    (arduinoOptaGenerateFirstCommand N granted)
    (arduinoMegaGenerateFirstCommand N granted)
    (arduinoUnoGenerateFirstCommand N granted)
    (buttonGenerateFirstCommand N granted)
    (.ok none)

/-- `generate_command` -/
def generateCommand (granted : Bool) (newStatus currentStatus currentCommand : Buffer)
    (deviceType : UInt32) : Option Bytes :=
  switchDevice deviceType
    (arduinoOptaGenerateCommand granted newStatus currentStatus currentCommand)
    (arduinoMegaGenerateCommand granted newStatus currentStatus currentCommand)
    (arduinoUnoGenerateCommand granted newStatus currentStatus currentCommand)
    (buttonGenerateCommand granted newStatus currentStatus currentCommand)
    none

/-- `command_data_valid` -/
def commandDataValid (command : Buffer) (deviceType : UInt32) : Except JsonError ReturnCode :=
  switchDevice deviceType
    (arduinoOptaCommandDataValid N command)
    (arduinoMegaCommandDataValid N command)
    (arduinoUnoCommandDataValid N command)
    (buttonCommandDataValid N command)
    (.ok .notOk)

/-! ## The meaning of a status buffer -/

/-- A decoded status without its sizes. -/
structure StatusView where
  inputs : List Bool
  outputs : List OutputStatus
  presses : UInt32
deriving DecidableEq, Repr

/-- A status, seen from outside. -/
def DeviceStatus.view {I O : Nat} (s : DeviceStatus I O) : StatusView :=
  ⟨s.inputStates.toList, s.outputStates.toList, s.buttonPresses⟩

/-- Two statuses show the same if their arrays and their presses agree. -/
theorem DeviceStatus.view_inj {I O : Nat} {cs ns : DeviceStatus I O} :
    cs.view = ns.view ↔ (ns.inputStates = cs.inputStates ∧ ns.outputStates = cs.outputStates)
      ∧ cs.buttonPresses = ns.buttonPresses := by
  unfold view
  rw [StatusView.mk.injEq, Vector.toList_inj, Vector.toList_inj, and_assoc,
    eq_comm (a := ns.inputStates), eq_comm (a := ns.outputStates)]

/-- What a buffer means as a status of a device of the given type: nothing
when it is not accepted. -/
def decodedStatus (status : Buffer) (deviceType : UInt32) : Option StatusView :=
  switchDevice deviceType
    ((Device.decodeStatus N arduinoOptaInputsCount arduinoOptaOutputsCount status).map
      DeviceStatus.view)
    ((Device.decodeStatus N arduinoMegaInputsCount arduinoMegaOutputsCount status).map
      DeviceStatus.view)
    ((Device.decodeStatus N arduinoUnoInputsCount arduinoUnoOutputsCount status).map
      DeviceStatus.view)
    ((Device.decodeStatus N buttonInputsCount buttonOutputsCount status).map DeviceStatus.view)
    none

/-- The presses a status buffer counts. -/
def decodedPresses (deviceType : UInt32) (status : Buffer) : Nat :=
  ((decodedStatus N status deviceType).map fun v => v.presses.toNat).getD 0

/-- The presses a sequence of statuses counts altogether. -/
def totalPresses (deviceType : UInt32) (statuses : List Buffer) : Nat :=
  (statuses.map (decodedPresses N deviceType)).sum

@[simp] theorem totalPresses_cons (deviceType : UInt32) (b : Buffer) (bs : List Buffer) :
    totalPresses N deviceType (b :: bs)
      = decodedPresses N deviceType b + totalPresses N deviceType bs := List.sum_cons

/-! ## Dispatch -/

/-- A device type is handled as a device of `I` inputs and `O` outputs that
compares by `changed`. -/
structure ActsAs (deviceType : UInt32) {I O : Nat}
    (changed : DeviceStatus I O → DeviceStatus I O → Bool) : Prop where
  inputs_le : I ≤ 255
  outputs_le : O ≤ 255
  send_eq : ∀ c n, sendStatusCondition N c n deviceType = Device.sendStatusCondition N changed c n
  aggregate_eq : ∀ granted c n,
    aggregateStatus N granted c n deviceType = Device.aggregateStatus N I O granted c n
  valid_eq : ∀ b, statusDataValid N b deviceType = Device.statusDataValid N I O b
  decoded_eq : ∀ b,
    decodedStatus N b deviceType = (Device.decodeStatus N I O b).map DeviceStatus.view

theorem arduinoOpta_actsAs : ActsAs N arduinoOptaDeviceType
    (Device.optaChanged (I := arduinoOptaInputsCount) (O := arduinoOptaOutputsCount)) :=
  ⟨by decide, by decide, fun _ _ => rfl, fun _ _ _ => rfl, fun _ => rfl, fun _ => rfl⟩

theorem arduinoMega_actsAs : ActsAs N arduinoMegaDeviceType
    (Device.plainChanged (I := arduinoMegaInputsCount) (O := arduinoMegaOutputsCount)) :=
  ⟨by decide, by decide, fun _ _ => rfl, fun _ _ _ => rfl, fun _ => rfl, fun _ => rfl⟩

theorem arduinoUno_actsAs : ActsAs N arduinoUnoDeviceType
    (Device.plainChanged (I := arduinoUnoInputsCount) (O := arduinoUnoOutputsCount)) :=
  ⟨by decide, by decide, fun _ _ => rfl, fun _ _ _ => rfl, fun _ => rfl, fun _ => rfl⟩

theorem button_actsAs : ActsAs N buttonDeviceType
    (Device.buttonChanged (I := buttonInputsCount) (O := buttonOutputsCount)) :=
  ⟨by decide, by decide, fun _ _ => rfl, fun _ _ _ => rfl, fun _ => rfl, fun _ => rfl⟩

variable {N}

/-- A status is valid for its device type exactly when it decodes. -/
theorem ActsAs.valid_iff {deviceType : UInt32} {I O : Nat}
    {changed : DeviceStatus I O → DeviceStatus I O → Bool} (h : ActsAs N deviceType changed)
    (b : Buffer) :
    statusDataValid N b deviceType = .ok .ok ↔ ∃ s, Device.decodeStatus N I O b = some s := by
  rw [h.valid_eq, Device.statusDataValid_ok_iff]

theorem ActsAs.valid_restingStatus (hN : N.Lossless) {deviceType : UInt32} {I O : Nat}
    {changed : DeviceStatus I O → DeviceStatus I O → Bool} (h : ActsAs N deviceType changed)
    (presses : UInt32) :
    statusDataValid N (Device.restingStatus N I O presses) deviceType = .ok .ok :=
  (h.valid_iff _).mpr ⟨_, Device.decodeStatus_restingStatus hN h.inputs_le h.outputs_le presses⟩

/-- The supported device types are the four of the header. -/
theorem supported_cases {deviceType : UInt32} (h : isDeviceTypeSupported deviceType = .ok) :
    deviceType = arduinoOptaDeviceType ∨ deviceType = arduinoMegaDeviceType
      ∨ deviceType = arduinoUnoDeviceType ∨ deviceType = buttonDeviceType := by
  unfold isDeviceTypeSupported switchDevice at h
  split at h
  next h1 => exact Or.inl h1
  next =>
    split at h
    next h2 => exact Or.inr (Or.inl h2)
    next =>
      split at h
      next h3 => exact Or.inr (Or.inr (Or.inl h3))
      next =>
        split at h
        next h4 => exact Or.inr (Or.inr (Or.inr h4))
        next => cases h

/-- Each of them is handled as a device of its size. -/
theorem supported_actsAs {deviceType : UInt32} (h : isDeviceTypeSupported deviceType = .ok) :
    ∃ changed : DeviceStatus (inputsCount deviceType) (outputsCount deviceType)
        → DeviceStatus (inputsCount deviceType) (outputsCount deviceType) → Bool,
      ActsAs N deviceType changed := by
  rcases supported_cases h with rfl | rfl | rfl | rfl
  · exact ⟨_, arduinoOpta_actsAs N⟩
  · exact ⟨_, arduinoMega_actsAs N⟩
  · exact ⟨_, arduinoUno_actsAs N⟩
  · exact ⟨_, button_actsAs N⟩

/-- A command is decoded in the same way for each of them. -/
theorem supported_commandDataValid {deviceType : UInt32}
    (h : isDeviceTypeSupported deviceType = .ok) (b : Buffer) :
    commandDataValid N b deviceType = Device.commandDataValid N b := by
  rcases supported_cases h with rfl | rfl | rfl | rfl <;> rfl

/-- A command is handed on unchanged by each of them. -/
theorem supported_generateCommand {deviceType : UInt32}
    (h : isDeviceTypeSupported deviceType = .ok) (granted : Bool)
    (newStatus currentStatus currentCommand : Buffer) :
    generateCommand granted newStatus currentStatus currentCommand deviceType
      = allocate granted currentCommand.bytes := by
  rcases supported_cases h with rfl | rfl | rfl | rfl <;> rfl

/-- A device type that is not supported is none of the four. -/
theorem switchDevice_unsupported {α : Type} {deviceType : UInt32}
    (h : isDeviceTypeSupported deviceType ≠ .ok) (opta mega uno button other : α) :
    switchDevice deviceType opta mega uno button other = other := by
  unfold isDeviceTypeSupported at h
  unfold switchDevice at h ⊢
  split
  next => simp_all
  next =>
    split
    next => simp_all
    next =>
      split
      next => simp_all
      next =>
        split
        next => simp_all
        next => rfl

end IoModule

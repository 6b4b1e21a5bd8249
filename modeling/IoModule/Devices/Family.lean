import IoModule.Utils.DeviceStatus
import IoModule.Utils.DeviceCommand

/-!
# What the device modules share

Each supported device has its own file of handlers, and the files differ in
three things only: how many inputs and outputs the device has, what counts
as a change worth forwarding, and (Button) that there is no press to count.
The handlers are therefore written once here, over the sizes `I` and `O`
and the comparison `changed`; `ModuleManager` instantiates them per device.

The comparisons are the loops of `send_status_condition`: any output that
differs in error or state (`outputsDiffer`), any input that differs
(`inputsDiffer`).

All handlers read a status into a fresh object (`readStatus`). On a buffer
that reads (`decodeStatus`), each of them has a closed form, stated at the
end: `sendStatusCondition_eq`, `aggregateStatus_eq`, `aggregateError_null`,
`aggregateError_data`.
-/

namespace IoModule

namespace Device

variable (N : JsonText) (I O : Nat)

/-- A fresh object reading a buffer: the return code and the object. -/
def readStatus (b : Buffer) : Except JsonError (ReturnCode × DeviceStatus I O) :=
  match (DeviceStatus.fresh : DeviceStatus I O).deserializeFromBuffer N b with
  | (.ok rc, s) => .ok (rc, s)
  | (.error e, _) => .error e

variable {I O}

/-- Some output differs in its error or its state. -/
def outputsDiffer (cStatus nStatus : DeviceStatus I O) : Bool :=
  (List.finRange O).any fun i =>
    cStatus.outputStates[i].outputError != nStatus.outputStates[i].outputError
      || cStatus.outputStates[i].outputState != nStatus.outputStates[i].outputState

/-- Some input differs. -/
def inputsDiffer (cStatus nStatus : DeviceStatus I O) : Bool :=
  (List.finRange I).any fun i => cStatus.inputStates[i] != nStatus.inputStates[i]

/-- `send_status_condition`, for a device that compares by `changed`. -/
def sendStatusCondition (changed : DeviceStatus I O → DeviceStatus I O → Bool)
    (currentStatus newStatus : Buffer) : Except JsonError ReturnCode := do
  let (rc1, cStatus) ← readStatus N I O currentStatus
  let (rc2, nStatus) ← readStatus N I O newStatus
  if rc1 = .notOk ∨ rc2 = .notOk then return .notOk
  if changed cStatus nStatus then return .ok
  return .conditionNotMet

variable (I O)

/-- `aggregate_status`: the new status, read and written again. -/
def aggregateStatus (granted : Bool) (_currentStatus newStatus : Buffer) : Written := do
  let (rc, status) ← readStatus N I O newStatus
  if rc = .notOk then return none
  status.serializeToBuffer N granted

/-- `aggregate_error` of the devices that count presses. Without a current
message the count starts at the presses of the status; otherwise they are
added to the stored count, as `uint32_t`, and stored as `int`. -/
def aggregateError (granted : Bool) (currentErrorMessage status : Buffer) : Written :=
  match currentErrorMessage with
  -- there is no current error message: creating the default error
  | .null => do
    let (rc, statusObject) ← readStatus N I O status
    if rc = .notOk then return none
    serializeError N granted statusObject.buttonPresses.toInt32
  | .data message => do
    let aggregatedButtonPresses ← deserializeError N message
    let (rc, statusObject) ← readStatus N I O status
    -- a negative count is the sentinel of `deserialize_error`, or has wrapped
    if aggregatedButtonPresses < 0 ∨ rc = .notOk then return none
    serializeError N granted
      (aggregatedButtonPresses.toUInt32 + statusObject.buttonPresses).toInt32

/-- `status_data_valid` -/
def statusDataValid (status : Buffer) : Except JsonError ReturnCode := do
  let (rc, _) ← readStatus N I O status
  return rc

/-- `generate_first_command`: one action for each index, which sets the output
of that number off. -/
def generateFirstCommand (granted : Bool) (indexes : List Nat) : Written :=
  let command := indexes.foldl
    (fun c i => c.addOutputAction ⟨UInt8.ofNat i, .setOff⟩) DeviceCommand.fresh
  command.serializeToBuffer N granted

/-- `generate_command`: the current command is copied. The two statuses are
not looked at. -/
def generateCommand (granted : Bool) (_newStatus _currentStatus currentCommand : Buffer) :
    Option Bytes :=
  allocate granted currentCommand.bytes

/-- `command_data_valid` -/
def commandDataValid (command : Buffer) : Except JsonError ReturnCode :=
  (DeviceCommand.fresh.deserializeFromBuffer N command).1

/-- The status a buffer holds, when it is accepted. -/
def decodeStatus (b : Buffer) : Option (DeviceStatus I O) :=
  match readStatus N I O b with
  | .ok (.ok, s) => some s
  | _ => none

/-! ## On a status that reads -/

variable {N I O}

theorem readStatus_of_decode {b : Buffer} {s : DeviceStatus I O}
    (h : decodeStatus N I O b = some s) : readStatus N I O b = .ok (.ok, s) := by
  unfold decodeStatus at h
  split at h
  next heq => rw [heq, Option.some.inj h]
  next => cases h

theorem decode_of_readStatus {b : Buffer} {s : DeviceStatus I O}
    (h : readStatus N I O b = .ok (.ok, s)) : decodeStatus N I O b = some s := by
  unfold decodeStatus
  rw [h]

/-- A status that is read without an exception is accepted or rejected. -/
theorem readStatus_cases {b : Buffer} {rc : ReturnCode} {s : DeviceStatus I O}
    (h : readStatus N I O b = .ok (rc, s)) :
    (rc = .ok ∧ decodeStatus N I O b = some s) ∨ (rc = .notOk ∧ decodeStatus N I O b = none) := by
  rcases hread : (DeviceStatus.fresh : DeviceStatus I O).deserializeFromBuffer N b with ⟨e | rc', s'⟩
  · simp only [readStatus, hread] at h
    cases h
  · have heq : rc' = rc ∧ s' = s := by
      simp only [readStatus, hread, Except.ok.injEq, Prod.mk.injEq] at h
      exact h
    obtain ⟨rfl, rfl⟩ := heq
    rcases DeviceStatus.deserialize_code hread with rfl | rfl
    · exact Or.inl ⟨rfl, decode_of_readStatus h⟩
    · refine Or.inr ⟨rfl, ?_⟩
      unfold decodeStatus
      rw [h]

/-- The validator accepts exactly the buffers that decode. -/
theorem statusDataValid_ok_iff (b : Buffer) :
    statusDataValid N I O b = .ok .ok ↔ ∃ s, decodeStatus N I O b = some s := by
  unfold statusDataValid decodeStatus
  cases readStatus N I O b with
  | error e => simp [bind, Except.bind]
  | ok p =>
    obtain ⟨rc, s⟩ := p
    cases rc <;> simp [bind, Except.bind, pure, Except.pure]

/-- A written status decodes to itself. -/
theorem decodeStatus_dump (hN : N.Lossless) (hI : I ≤ 255) (hO : O ≤ 255) (s : DeviceStatus I O) :
    decodeStatus N I O (.data (N.dump s.statusDocument)) = some s := by
  unfold decodeStatus readStatus
  rw [DeviceStatus.deserialize_dump N hN hI hO]

variable (N I O) in
/-- The written status of a device at rest that counted some presses. -/
def restingStatus (presses : UInt32) : Buffer :=
  .data (N.dump ({ (DeviceStatus.fresh : DeviceStatus I O) with
    buttonPresses := presses }).statusDocument)

theorem decodeStatus_restingStatus (hN : N.Lossless) (hI : I ≤ 255) (hO : O ≤ 255)
    (presses : UInt32) :
    decodeStatus N I O (restingStatus N I O presses)
      = some { (DeviceStatus.fresh : DeviceStatus I O) with buttonPresses := presses } :=
  decodeStatus_dump hN hI hO _

theorem sendStatusCondition_eq {changed : DeviceStatus I O → DeviceStatus I O → Bool}
    {c n : Buffer} {cs ns : DeviceStatus I O} (hc : decodeStatus N I O c = some cs)
    (hn : decodeStatus N I O n = some ns) :
    sendStatusCondition N changed c n
      = .ok (if changed cs ns then .ok else .conditionNotMet) := by
  simp only [sendStatusCondition, readStatus_of_decode hc, readStatus_of_decode hn, bind,
    Except.bind]
  cases changed cs ns <;> rfl

/-- `send_status_condition`, whenever it answers: `NOT_OK` with a status that
does not decode, else what the comparison says. -/
theorem sendStatusCondition_cases {changed : DeviceStatus I O → DeviceStatus I O → Bool}
    {c n : Buffer} {rc : ReturnCode} (h : sendStatusCondition N changed c n = .ok rc) :
    (rc = .notOk ∧ (decodeStatus N I O c = none ∨ decodeStatus N I O n = none))
    ∨ ∃ cs ns, decodeStatus N I O c = some cs ∧ decodeStatus N I O n = some ns
      ∧ rc = if changed cs ns then .ok else .conditionNotMet := by
  unfold sendStatusCondition at h
  obtain ⟨⟨rc1, cs⟩, hc, h⟩ := bind_ok_iff.mp h
  obtain ⟨⟨rc2, ns⟩, hn, h⟩ := bind_ok_iff.mp h
  rcases readStatus_cases hc with ⟨rfl, hcs⟩ | ⟨rfl, hcs⟩
  · rcases readStatus_cases hn with ⟨rfl, hns⟩ | ⟨rfl, hns⟩
    · have heq : sendStatusCondition N changed c n = _ := sendStatusCondition_eq hcs hns
      unfold sendStatusCondition at heq
      rw [hc, hn] at heq
      exact Or.inr ⟨cs, ns, hcs, hns, (Except.ok.inj (heq.symm.trans h)).symm⟩
    · cases h
      exact Or.inl ⟨rfl, Or.inr hns⟩
  · cases h
    exact Or.inl ⟨rfl, Or.inl hcs⟩

/-- A comparison that does not mind the order makes the whole function not
mind it: both statuses are read before either is looked at. -/
theorem sendStatusCondition_swap {changed : DeviceStatus I O → DeviceStatus I O → Bool}
    (hsymm : ∀ cs ns, changed cs ns = changed ns cs) {c n : Buffer} {rc : ReturnCode}
    (h : sendStatusCondition N changed c n = .ok rc) :
    sendStatusCondition N changed n c = .ok rc := by
  unfold sendStatusCondition at h ⊢
  obtain ⟨⟨rc1, cs⟩, hc, h⟩ := bind_ok_iff.mp h
  obtain ⟨⟨rc2, ns⟩, hn, h⟩ := bind_ok_iff.mp h
  refine bind_ok_iff.mpr ⟨(rc2, ns), hn, bind_ok_iff.mpr ⟨(rc1, cs), hc, ?_⟩⟩
  dsimp only at h ⊢
  by_cases hcode : rc1 = .notOk ∨ rc2 = .notOk
  · rw [if_pos hcode] at h
    rw [if_pos hcode.symm]
    exact h
  · rw [if_neg hcode] at h
    rw [if_neg (fun hswap => hcode hswap.symm), hsymm ns cs]
    exact h

theorem aggregateStatus_eq {granted : Bool} {c n : Buffer} {ns : DeviceStatus I O}
    (hn : decodeStatus N I O n = some ns) :
    aggregateStatus N I O granted c n = .ok (allocate granted (N.dump ns.statusDocument)) := by
  unfold aggregateStatus
  rw [readStatus_of_decode hn]
  exact DeviceStatus.serializeToBuffer_eq N granted ns

theorem aggregateError_null {granted : Bool} {b : Buffer} {s : DeviceStatus I O}
    (hb : decodeStatus N I O b = some s) :
    aggregateError N I O granted .null b
      = .ok (allocate granted (N.dump (errorDocument s.buttonPresses.toInt32))) := by
  unfold aggregateError
  rw [readStatus_of_decode hb]
  exact serializeError_eq N granted s.buttonPresses.toInt32

/-- On a stored count: rejected when it reads negative, else the presses are
added to it. -/
theorem aggregateError_data (hN : N.Lossless) {granted : Bool} {b : Buffer}
    {s : DeviceStatus I O} (hb : decodeStatus N I O b = some s) (count : Int32) :
    aggregateError N I O granted (.data (N.dump (errorDocument count))) b
      = .ok (if count < 0 then none
        else allocate granted (N.dump (errorDocument (count.toUInt32 + s.buttonPresses).toInt32))) := by
  simp only [aggregateError, deserializeError_dump N hN, readStatus_of_decode hb, bind,
    Except.bind]
  by_cases hneg : count < 0
  · rw [if_pos (Or.inl hneg), if_pos hneg]
    rfl
  · rw [if_neg (by simp [hneg]), if_neg hneg]
    exact serializeError_eq N granted (count.toUInt32 + s.buttonPresses).toInt32

end Device

end IoModule

import IoModule.Devices.ModuleManager
import IoModule.Json.Number

/-!
# What the handlers let out

Every handler that is given a status or a command reads it first, and the
reading has two handlers of its own: `parse_error` around the parser and
`json::exception` around the extraction. Whatever shape the document has, what
the extraction throws is caught. What the parser throws is caught only if it is
a `parse_error`.

So the handlers answer with a code on every text the parser has no other
exception for (`JsonText.Handled`), and on no other (`malformed_reported_iff`).
A number literal too large for a `double` is the other kind
(`exception_escapes`).
-/

namespace IoModule

variable {N : JsonText}

/-! ## Reading -/

namespace Device

/-- Reading a status answers exactly if the parser's exception is handled. -/
theorem readStatus_answers_iff (I O : Nat) (b : Buffer) :
    (∃ p, readStatus N I O b = .ok p) ↔ N.Handled b.bytes := by
  unfold readStatus DeviceStatus.deserializeFromBuffer JsonText.Handled
  cases N.parse b.bytes with
  | error e => cases e <;> simp
  | ok doc =>
    simp only [reduceCtorEq, false_implies, implies_true, iff_true]
    -- what the extraction throws is caught, of whatever class it is
    rcases (DeviceStatus.fresh : DeviceStatus I O).extract doc with ⟨_ | e, s⟩
    · exact ⟨_, rfl⟩
    · exact ⟨_, rfl⟩

/-- Reading a command likewise. -/
theorem commandDataValid_handled_iff (b : Buffer) :
    (∃ rc, commandDataValid N b = .ok rc) ↔ N.Handled b.bytes := by
  unfold commandDataValid DeviceCommand.deserializeFromBuffer JsonText.Handled
  cases N.parse b.bytes with
  | error e => cases e <;> simp
  | ok doc =>
    simp only [reduceCtorEq, false_implies, implies_true, iff_true]
    rcases DeviceCommand.fresh.extract doc with ⟨_ | e, c⟩
    · exact ⟨_, rfl⟩
    · exact ⟨_, rfl⟩

/-! ## The handlers of a device -/

/-- A handler answers with one of its codes. -/
def Answers (codes : List ReturnCode) (result : Except JsonError ReturnCode) : Prop :=
  ∃ rc ∈ codes, result = .ok rc

/-- A handler that has no other codes answers with one of them if it answers. -/
theorem answers_iff {codes : List ReturnCode} {result : Except JsonError ReturnCode}
    (h : ∀ rc, result = .ok rc → rc ∈ codes) : Answers codes result ↔ ∃ rc, result = .ok rc := by
  constructor
  · intro hex
    obtain ⟨rc, -, hrc⟩ := hex
    exact ⟨rc, hrc⟩
  · intro hex
    obtain ⟨rc, hrc⟩ := hex
    exact ⟨rc, h rc hrc, hrc⟩

variable {I O : Nat}

theorem statusDataValid_answers_iff (b : Buffer) :
    Answers [.ok, .notOk] (statusDataValid N I O b) ↔ N.Handled b.bytes := by
  rw [answers_iff, ← readStatus_answers_iff I O b]
  · exact bind_total_iff fun p => ⟨p.1, rfl⟩
  · intro rc h
    obtain ⟨⟨rc', s⟩, hread, hrc⟩ := bind_ok_iff.mp h
    cases hrc
    rcases readStatus_cases hread with ⟨rfl, -⟩ | ⟨rfl, -⟩
    · exact List.mem_cons_self ..
    · exact List.mem_cons_of_mem _ (List.mem_cons_self ..)

theorem commandDataValid_answers_iff (b : Buffer) :
    Answers [.ok, .notOk] (commandDataValid N b) ↔ N.Handled b.bytes := by
  rw [answers_iff, commandDataValid_handled_iff]
  intro rc h
  rcases DeviceCommand.deserialize_code (Prod.ext h rfl) with rfl | rfl
  · exact List.mem_cons_self ..
  · exact List.mem_cons_of_mem _ (List.mem_cons_self ..)

/-- What `aggregate_status` does after reading never throws. -/
theorem aggregateStatus_answers_iff (granted : Bool) (current b : Buffer) :
    (∃ written, aggregateStatus N I O granted current b = .ok written) ↔ N.Handled b.bytes := by
  rw [← readStatus_answers_iff I O b]
  refine bind_total_iff fun ⟨rc, s⟩ => ?_
  by_cases hrc : rc = .notOk
  · exact ⟨none, if_pos hrc⟩
  · exact ⟨_, (if_neg hrc).trans (DeviceStatus.serializeToBuffer_eq N granted s)⟩

/-- `send_status_condition` reads both statuses before it looks at either. -/
theorem sendStatusCondition_handled_iff {changed : DeviceStatus I O → DeviceStatus I O → Bool}
    (current b : Buffer) :
    (∃ rc, sendStatusCondition N changed current b = .ok rc)
      ↔ N.Handled current.bytes ∧ N.Handled b.bytes := by
  rw [← readStatus_answers_iff I O current, ← readStatus_answers_iff I O b]
  unfold sendStatusCondition
  constructor
  · intro hex
    obtain ⟨rc, h⟩ := hex
    obtain ⟨p, hc, h⟩ := bind_ok_iff.mp h
    obtain ⟨q, hn, -⟩ := bind_ok_iff.mp h
    exact ⟨⟨p, hc⟩, q, hn⟩
  · intro hex
    obtain ⟨⟨⟨rc1, cs⟩, hc⟩, hn⟩ := hex
    rw [hc]
    show ∃ rc, (readStatus N I O b >>= _) = .ok rc
    refine (bind_total_iff fun ⟨rc2, ns⟩ => ?_).mpr hn
    by_cases hcode : rc1 = .notOk ∨ rc2 = .notOk
    · exact ⟨_, if_pos hcode⟩
    · by_cases hchanged : changed cs ns = true
      · exact ⟨_, (if_neg hcode).trans (if_pos hchanged)⟩
      · exact ⟨_, (if_neg hcode).trans (if_neg hchanged)⟩

theorem sendStatusCondition_answers_iff {changed : DeviceStatus I O → DeviceStatus I O → Bool}
    (current b : Buffer) :
    Answers [.ok, .notOk, .conditionNotMet] (sendStatusCondition N changed current b)
      ↔ N.Handled current.bytes ∧ N.Handled b.bytes := by
  rw [answers_iff, sendStatusCondition_handled_iff]
  intro rc h
  rcases sendStatusCondition_cases h with ⟨rfl, -⟩ | ⟨cs, ns, -, -, rfl⟩
  · decide
  · cases changed cs ns <;> decide

end Device

/-! ## The handlers of the module -/

/-- The handlers that take a status answer exactly if what they read is
handled. -/
theorem ActsAs.answers_iff {deviceType : UInt32} {I O : Nat}
    {changed : DeviceStatus I O → DeviceStatus I O → Bool} (h : ActsAs N deviceType changed)
    (granted : Bool) (current b : Buffer) :
    (Device.Answers [.ok, .notOk] (statusDataValid N b deviceType) ↔ N.Handled b.bytes)
    ∧ ((∃ written, aggregateStatus N granted current b deviceType = .ok written)
      ↔ N.Handled b.bytes)
    ∧ (Device.Answers [.ok, .notOk, .conditionNotMet] (sendStatusCondition N current b deviceType)
      ↔ N.Handled current.bytes ∧ N.Handled b.bytes) := by
  rw [h.valid_eq, h.aggregate_eq, h.send_eq]
  exact ⟨Device.statusDataValid_answers_iff b, Device.aggregateStatus_answers_iff granted current b,
    Device.sendStatusCondition_answers_iff current b⟩

/-- **When a malformed status or command is reported by a code.** For every
device type and every buffer, `status_data_valid`, `command_data_valid`,
`aggregate_status` and `send_status_condition` answer with one of their codes
exactly if the type is not supported or the parser throws nothing but
`parse_error` on what they read. -/
theorem malformed_reported_iff (N : JsonText) (deviceType : UInt32) (granted : Bool)
    (current b : Buffer) :
    (Device.Answers [.ok, .notOk] (statusDataValid N b deviceType)
      ↔ (isDeviceTypeSupported deviceType = .ok → N.Handled b.bytes))
    ∧ (Device.Answers [.ok, .notOk] (commandDataValid N b deviceType)
      ↔ (isDeviceTypeSupported deviceType = .ok → N.Handled b.bytes))
    ∧ ((∃ written, aggregateStatus N granted current b deviceType = .ok written)
      ↔ (isDeviceTypeSupported deviceType = .ok → N.Handled b.bytes))
    ∧ (Device.Answers [.ok, .notOk, .conditionNotMet] (sendStatusCondition N current b deviceType)
      ↔ (isDeviceTypeSupported deviceType = .ok →
        N.Handled current.bytes ∧ N.Handled b.bytes)) := by
  by_cases hsupported : isDeviceTypeSupported deviceType = .ok
  · obtain ⟨changed, hacts⟩ := supported_actsAs (N := N) hsupported
    obtain ⟨hvalid, haggregate, hsend⟩ := hacts.answers_iff granted current b
    simp only [hsupported, true_implies]
    refine ⟨hvalid, ?_, haggregate, hsend⟩
    rw [supported_commandDataValid hsupported]
    exact Device.commandDataValid_answers_iff b
  · -- every handler answers `NOT_OK` before it has read anything
    have hnotOk : ∀ {codes : List ReturnCode}, .notOk ∈ codes →
        Device.Answers codes (.ok .notOk) := fun hmem => ⟨.notOk, hmem, rfl⟩
    simp only [hsupported, false_implies, iff_true]
    unfold statusDataValid commandDataValid aggregateStatus sendStatusCondition
    simp only [switchDevice_unsupported hsupported]
    exact ⟨hnotOk (by decide), hnotOk (by decide), ⟨none, rfl⟩, hnotOk (by decide)⟩

/-- **An exception that escapes.** The text of one number, which is JSON but
larger than any `double`, makes every handler let `out_of_range` out, with a
parser that reads back whatever an encoder writes. -/
theorem exception_escapes :
    JsonText.ranged.Lossless
      ∧ statusDataValid .ranged (.data (Json.ascii "1e400")) 1 = .error .outOfRange
      ∧ commandDataValid .ranged (.data (Json.ascii "1e400")) 1 = .error .outOfRange
      ∧ aggregateStatus .ranged true .null (.data (Json.ascii "1e400")) 1 = .error .outOfRange
      ∧ sendStatusCondition .ranged (.data (Json.ascii "1e400")) (.data (Json.ascii "1e400")) 1
        = .error .outOfRange := by
  refine ⟨JsonText.ranged_lossless, ?_, ?_, ?_, ?_⟩
  · decide +kernel
  · decide +kernel
  · decide +kernel
  · decide +kernel

end IoModule

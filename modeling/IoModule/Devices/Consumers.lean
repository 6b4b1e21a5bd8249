import IoModule.Devices.ErrorAggregation
import IoModule.Devices.Exceptions

/-!
# Do the consumers of a status agree with the validator?

`send_status_condition`, `aggregate_status` and `aggregate_error` are handed a
status and each decide for themselves whether it is acceptable, by decoding it
as `status_data_valid` does. `ConsumersAgree` says that all three answer
`NOT_OK` exactly if the validator does not answer `OK`.

Three of the four devices decode the status in every handler. Button's
`aggregate_error` does not look at it: `consumers_agree_iff` says that the
consumers agree on everything except a Button's status that is not valid.
-/

namespace IoModule

variable {N : JsonText}

/-! ## A status that is rejected -/

namespace Device

variable {I O : Nat}

/-- What does not decode and lets no exception out is `NOT_OK`. -/
theorem readStatus_of_rejected {b : Buffer} (hhandled : N.Handled b.bytes)
    (h : decodeStatus N I O b = none) : ∃ s, readStatus N I O b = .ok (.notOk, s) := by
  obtain ⟨⟨rc, s⟩, hread⟩ := (readStatus_answers_iff I O b).mpr hhandled
  rcases readStatus_cases hread with ⟨-, hs⟩ | ⟨rfl, -⟩
  · cases h.symm.trans hs
  · exact ⟨s, hread⟩

/-- The three handlers that decode it answer `NOT_OK`. -/
theorem sendStatusCondition_rejected {changed : DeviceStatus I O → DeviceStatus I O → Bool}
    {c b : Buffer} {cs : DeviceStatus I O} (hc : decodeStatus N I O c = some cs)
    (hhandled : N.Handled b.bytes) (h : decodeStatus N I O b = none) :
    sendStatusCondition N changed c b = .ok .notOk := by
  obtain ⟨s, hs⟩ := readStatus_of_rejected hhandled h
  simp only [sendStatusCondition, readStatus_of_decode hc, hs, ok_bind, or_true, if_true]
  rfl

theorem aggregateStatus_rejected {granted : Bool} {c b : Buffer} (hhandled : N.Handled b.bytes)
    (h : decodeStatus N I O b = none) : aggregateStatus N I O granted c b = .ok none := by
  obtain ⟨s, hs⟩ := readStatus_of_rejected hhandled h
  unfold aggregateStatus
  rw [hs, ok_bind]
  rfl

theorem aggregateError_rejected (hN : N.Lossless) {granted : Bool} {message b : Buffer}
    (hmessage : message = .null ∨ ∃ count, message = .data (N.dump (errorDocument count)))
    (hhandled : N.Handled b.bytes) (h : decodeStatus N I O b = none) :
    aggregateError N I O granted message b = .ok none := by
  obtain ⟨s, hs⟩ := readStatus_of_rejected hhandled h
  unfold aggregateError
  rcases hmessage with rfl | ⟨count, rfl⟩
  · simp only [hs, ok_bind]
    rfl
  · simp only [deserializeError_dump N hN, hs, ok_bind, or_true, if_true]
    rfl

/-- And accept one that is valid. -/
theorem aggregateError_accepted (hN : N.Lossless) {message b : Buffer} {s : DeviceStatus I O}
    (hmessage : message = .null
      ∨ ∃ count : Int32, 0 ≤ count ∧ message = .data (N.dump (errorDocument count)))
    (hs : decodeStatus N I O b = some s) :
    ∃ text, aggregateError N I O true message b = .ok (some text) := by
  rcases hmessage with rfl | ⟨count, hcount, rfl⟩
  · exact ⟨_, aggregateError_null hs⟩
  · refine ⟨N.dump (errorDocument (count.toUInt32 + s.buttonPresses).toInt32), ?_⟩
    rw [aggregateError_data hN hs count, if_neg (Int32.not_lt.mpr hcount)]
    rfl

end Device

/-! ## All handlers together -/

/-- The consumers of a status answer `NOT_OK` exactly if it is not valid. -/
structure ConsumersAgree (N : JsonText) (deviceType : UInt32) (current message b : Buffer) :
    Prop where
  send : sendStatusCondition N current b deviceType = .ok .notOk
    ↔ statusDataValid N b deviceType ≠ .ok .ok
  aggregate : aggregateStatus N true current b deviceType = .ok none
    ↔ statusDataValid N b deviceType ≠ .ok .ok
  error : aggregateError N true message b deviceType = .ok none
    ↔ statusDataValid N b deviceType ≠ .ok .ok

/-- A validator that answers has read its status without an exception. -/
theorem ActsAs.handled {deviceType : UInt32} {I O : Nat}
    {changed : DeviceStatus I O → DeviceStatus I O → Bool} (h : ActsAs N deviceType changed)
    {b : Buffer} {rc : ReturnCode} (hrc : statusDataValid N b deviceType = .ok rc) :
    N.Handled b.bytes := by
  rw [h.valid_eq] at hrc
  obtain ⟨p, hread, -⟩ := bind_ok_iff.mp hrc
  exact (Device.readStatus_answers_iff I O b).mp ⟨p, hread⟩

/-- The two that take a current status agree on every supported device. -/
theorem ActsAs.agree {deviceType : UInt32} {I O : Nat}
    {changed : DeviceStatus I O → DeviceStatus I O → Bool} (h : ActsAs N deviceType changed)
    {current b : Buffer} (hcurrent : statusDataValid N current deviceType = .ok .ok)
    (hhandled : N.Handled b.bytes) :
    (sendStatusCondition N current b deviceType = .ok .notOk
        ↔ statusDataValid N b deviceType ≠ .ok .ok)
      ∧ (aggregateStatus N true current b deviceType = .ok none
        ↔ statusDataValid N b deviceType ≠ .ok .ok) := by
  obtain ⟨cs, hcs⟩ := (h.valid_iff current).mp hcurrent
  rw [ne_eq, h.valid_iff b, h.send_eq, h.aggregate_eq]
  cases hb : Device.decodeStatus N I O b with
  | none =>
    rw [Device.sendStatusCondition_rejected hcs hhandled hb,
      Device.aggregateStatus_rejected hhandled hb]
    simp
  | some s =>
    rw [Device.sendStatusCondition_eq hcs hb, Device.aggregateStatus_eq hb]
    cases changed cs s <;> simp [allocate]

/-- A message of the error aggregator: none yet, or one that `serialize_error`
wrote for a count. -/
def IsErrorMessage (N : JsonText) (message : Buffer) : Prop :=
  message = .null ∨ ∃ (count : Int32) (text : Bytes), 0 ≤ count
    ∧ serializeError N true count = .ok (some text) ∧ message = .data text

/-- Such a message was written for a count that is not negative. -/
theorem IsErrorMessage.cases {message : Buffer} (h : IsErrorMessage N message) :
    message = .null
      ∨ ∃ count : Int32, 0 ≤ count ∧ message = .data (N.dump (errorDocument count)) := by
  rcases h with rfl | ⟨count, text, hcount, htext, rfl⟩
  · exact Or.inl rfl
  · rw [serializeError_eq] at htext
    exact Or.inr ⟨count, hcount, by rw [eq_of_allocate (Except.ok.inj htext)]⟩

/-! ## Device by device -/

section Devices

variable {deviceType : UInt32} {current message b : Buffer} {rc : ReturnCode}

/-- A counting device decodes the status in all three. -/
theorem consumersAgree_of_counts (hN : N.Lossless) (ht : CountsPresses deviceType)
    (hrc : statusDataValid N b deviceType = .ok rc)
    (hcurrent : statusDataValid N current deviceType = .ok .ok)
    (hmessage : IsErrorMessage N message) : ConsumersAgree N deviceType current message b := by
  obtain ⟨I, O, changed, hacts, herr⟩ := ht.actsAs (N := N)
  have hhandled : N.Handled b.bytes := hacts.handled hrc
  obtain ⟨hsend, haggregate⟩ := hacts.agree hcurrent hhandled
  refine ⟨hsend, haggregate, ?_⟩
  rw [ne_eq, hacts.valid_iff b, herr]
  cases hb : Device.decodeStatus N I O b with
  | none =>
    have hany : message = .null ∨ ∃ count, message = .data (N.dump (errorDocument count)) :=
      hmessage.cases.imp_right fun ⟨count, _, h⟩ => ⟨count, h⟩
    rw [Device.aggregateError_rejected hN hany hhandled hb]
    simp
  | some s =>
    obtain ⟨text, htext⟩ := Device.aggregateError_accepted hN hmessage.cases hb
    rw [htext]
    simp

/-- A Button's error has a count of zero, whatever the status is. -/
theorem aggregateError_button : aggregateError N true message b buttonDeviceType ≠ .ok none := by
  show serializeError N true 0 ≠ .ok none
  rw [serializeError_eq]
  simp [allocate]

/-- So its handlers agree on the valid statuses only. -/
theorem consumersAgree_button_iff (hrc : statusDataValid N b buttonDeviceType = .ok rc)
    (hcurrent : statusDataValid N current buttonDeviceType = .ok .ok) :
    ConsumersAgree N buttonDeviceType current message b
      ↔ statusDataValid N b buttonDeviceType = .ok .ok := by
  obtain ⟨hsend, haggregate⟩ := (button_actsAs N).agree hcurrent ((button_actsAs N).handled hrc)
  constructor
  · intro h
    exact not_not.mp (mt h.error.mpr aggregateError_button)
  · intro hvalid
    exact ⟨hsend, haggregate, iff_of_false aggregateError_button (not_not.mpr hvalid)⟩

/-- A device that is not supported gets `NOT_OK` from every handler. -/
theorem consumersAgree_of_unsupported (h : isDeviceTypeSupported deviceType ≠ .ok) :
    ConsumersAgree N deviceType current message b := by
  constructor
  all_goals
    simp only [sendStatusCondition, aggregateStatus, aggregateError, statusDataValid,
      switchDevice_unsupported h]
    simp

end Devices

/-- **When the consumers agree with the validator.** For every device type,
every status that lets no exception out, a valid current status and a message
of the error aggregator: they agree exactly if the device is no Button or the
status is valid. -/
theorem consumers_agree_iff (hN : N.Lossless) (deviceType : UInt32) (current message b : Buffer)
    (hescapes : ∃ rc, statusDataValid N b deviceType = .ok rc)
    (hcurrent : isDeviceTypeSupported deviceType = .ok →
      statusDataValid N current deviceType = .ok .ok)
    (hmessage : IsErrorMessage N message) :
    ConsumersAgree N deviceType current message b
      ↔ (deviceType = buttonDeviceType → statusDataValid N b deviceType = .ok .ok) := by
  obtain ⟨rc, hrc⟩ := hescapes
  by_cases hsupported : isDeviceTypeSupported deviceType = .ok
  · rcases countsPresses_or_button hsupported with hcounts | rfl
    · have hother : deviceType ≠ buttonDeviceType := by
        rcases hcounts with rfl | rfl | rfl <;> decide
      exact iff_of_true (consumersAgree_of_counts hN hcounts hrc (hcurrent hsupported) hmessage)
        fun h => absurd h hother
    · rw [consumersAgree_button_iff hrc (hcurrent hsupported)]
      exact ⟨fun h _ => h, fun h => h rfl⟩
  · have hother : deviceType ≠ buttonDeviceType := by
      intro h
      subst h
      exact hsupported rfl
    exact iff_of_true (consumersAgree_of_unsupported hsupported) fun h => absurd h hother

/-- All of an Opta's handlers reject an empty array, with five presses
counted. -/
theorem consumers_agree_iff_opta :
    ConsumersAgree .compact 1 (Device.restingStatus .compact 6 4 0)
        (.data (Json.ascii "\x7b\"aggregatedButtonPresses\":5\x7d")) (.data (Json.ascii "[]"))
      ↔ (1 = buttonDeviceType →
        statusDataValid .compact (.data (Json.ascii "[]")) 1 = .ok .ok) := by
  have hcurrent : statusDataValid .compact (Device.restingStatus .compact 6 4 0) 1 = .ok .ok :=
    (arduinoOpta_actsAs .compact).valid_restingStatus JsonText.compact_lossless 0
  have hmessage : IsErrorMessage .compact
      (.data (Json.ascii "\x7b\"aggregatedButtonPresses\":5\x7d")) :=
    Or.inr ⟨5, _, by decide, by decide +kernel, rfl⟩
  exact consumers_agree_iff JsonText.compact_lossless 1 _ _ _ ⟨.notOk, by decide +kernel⟩
    (fun _ => hcurrent) hmessage

/-- **A Button's error is made from any text.** The validator rejects an empty
array and `aggregate_error` answers with an error for it. -/
theorem button_error_from_garbage :
    statusDataValid .compact (Device.restingStatus .compact 1 0 0) 4 = .ok .ok
      ∧ statusDataValid .compact (.data (Json.ascii "[]")) 4 = .ok .notOk
      ∧ aggregateError .compact true .null (.data (Json.ascii "[]")) 4
        = .ok (some (Json.ascii "\x7b\"aggregatedButtonPresses\":0\x7d"))
      ∧ ¬ ConsumersAgree .compact 4 (Device.restingStatus .compact 1 0 0) .null
        (.data (Json.ascii "[]")) := by
  have hvalid : statusDataValid .compact (.data (Json.ascii "[]")) 4 = .ok .notOk := by
    decide +kernel
  have herr : aggregateError .compact true .null (.data (Json.ascii "[]")) 4
      = .ok (some (Json.ascii "\x7b\"aggregatedButtonPresses\":0\x7d")) := by
    decide +kernel
  refine ⟨by decide +kernel, hvalid, herr, fun h => ?_⟩
  have hnone := h.error.mpr (by rw [hvalid]; decide)
  rw [herr] at hnone
  cases hnone

end IoModule

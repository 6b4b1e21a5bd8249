import IoModule.Devices.ErrorAggregation
import IoModule.Devices.ForwardingRule

/-!
# `aggregate_status` as a normaliser

A device may list the entries of a status in any order, repeat a number, use
another kind of number or add entries nobody asks for; the object that reads
it is always the same few fields. `aggregate_status` writes those fields
again, so its output is a normal form: one text for each status there is.

Nothing that reads a status can tell the two texts apart. Every handler starts
from the object a buffer decodes to (`decodeStatus`), and the normal form
decodes to the same object (`decodeStatus_normalForm`); `supported_readers`
is that argument for the handlers that take a status.
`aggregateStatus_normalises` puts it together for every supported device.
-/

namespace IoModule

variable {N : JsonText}

/-- The normal form of a status. -/
def normalForm (N : JsonText) {I O : Nat} (s : DeviceStatus I O) : Bytes := N.dump s.statusDocument

namespace ActsAs

variable {deviceType : UInt32} {I O : Nat} {changed : DeviceStatus I O → DeviceStatus I O → Bool}

/-- `aggregate_status` writes the normal form of the new status. -/
theorem aggregateStatus_eq (h : ActsAs N deviceType changed) (current : Buffer) {new : Buffer}
    {s : DeviceStatus I O} (hnew : Device.decodeStatus N I O new = some s) :
    aggregateStatus N true current new deviceType = .ok (some (normalForm N s)) := by
  rw [h.aggregate_eq, Device.aggregateStatus_eq hnew]
  rfl

/-- The normal form decodes to the status it was made from. -/
theorem decodeStatus_normalForm (hN : N.Lossless) (h : ActsAs N deviceType changed)
    (s : DeviceStatus I O) : Device.decodeStatus N I O (.data (normalForm N s)) = some s :=
  Device.decodeStatus_dump hN h.inputs_le h.outputs_le s

/-- A status decodes to nothing but what it shows. -/
theorem decodeStatus_of_decoded (h : ActsAs N deviceType changed) {b b' : Buffer}
    (hsame : decodedStatus N b' deviceType = decodedStatus N b deviceType) :
    Device.decodeStatus N I O b' = Device.decodeStatus N I O b := by
  rw [h.decoded_eq, h.decoded_eq] at hsame
  refine Option.map_injective (fun s t hview => ?_) hsame
  obtain ⟨⟨hinputs, houtputs⟩, hpresses⟩ := DeviceStatus.view_inj.mp hview
  obtain ⟨inputs, outputs, presses⟩ := s
  obtain ⟨inputs', outputs', presses'⟩ := t
  obtain rfl : inputs' = inputs := hinputs
  obtain rfl : outputs' = outputs := houtputs
  obtain rfl : presses = presses' := hpresses
  rfl

/-- `send_status_condition` looks at what its buffers decode to. -/
theorem sendStatusCondition_congr (h : ActsAs N deviceType changed) {c c' n n' : Buffer}
    {cs ns : DeviceStatus I O} (hc : Device.decodeStatus N I O c = some cs)
    (hc' : Device.decodeStatus N I O c' = some cs) (hn : Device.decodeStatus N I O n = some ns)
    (hn' : Device.decodeStatus N I O n' = some ns) :
    sendStatusCondition N c' n' deviceType = sendStatusCondition N c n deviceType := by
  rw [h.send_eq, h.send_eq, Device.sendStatusCondition_eq hc hn,
    Device.sendStatusCondition_eq hc' hn']

end ActsAs

/-- So does the error aggregation of a counting device. -/
theorem Device.aggregateError_congr {I O : Nat} {b b' : Buffer} {s : DeviceStatus I O}
    (hb : decodeStatus N I O b = some s) (hb' : decodeStatus N I O b' = some s) (granted : Bool)
    (message : Buffer) :
    aggregateError N I O granted message b' = aggregateError N I O granted message b := by
  unfold aggregateError
  rw [readStatus_of_decode hb, readStatus_of_decode hb']

/-- **Readers of a status** look at what it decodes to, on every supported
device. -/
theorem supported_readers (N : JsonText) {deviceType : UInt32}
    (h : isDeviceTypeSupported deviceType = .ok) :
    ∃ (I O : Nat) (changed : DeviceStatus I O → DeviceStatus I O → Bool),
      ActsAs N deviceType changed
        ∧ ∀ {b b' : Buffer} {s : DeviceStatus I O}, Device.decodeStatus N I O b = some s →
          Device.decodeStatus N I O b' = some s → ∀ granted message,
          aggregateError N granted message b' deviceType
            = aggregateError N granted message b deviceType := by
  rcases countsPresses_or_button h with hcounts | rfl
  · obtain ⟨I, O, changed, hacts, herr⟩ := hcounts.actsAs (N := N)
    refine ⟨I, O, changed, hacts, fun hb hb' granted message => ?_⟩
    rw [herr, herr]
    exact Device.aggregateError_congr hb hb' granted message
  · -- Button does not look at the status at all
    exact ⟨_, _, _, button_actsAs N, fun _ _ _ _ => rfl⟩

/-- **Aggregation normalises.** On a valid status of a supported device
`aggregate_status` answers `OK` and writes a text that is valid, decodes to
the same status and does not depend on the current one: it is the text of every
status that decodes to the same. Aggregated again, the text stays as it is. Put in the place of the status, it changes neither an
error aggregation nor, with the current status replaced likewise, the answer
of `send_status_condition`. -/
theorem aggregateStatus_normalises (hN : N.Lossless) (deviceType : UInt32)
    (hsupported : isDeviceTypeSupported deviceType = .ok) (current new : Buffer)
    (hvalid : statusDataValid N new deviceType = .ok .ok) :
    ∃ a, aggregateStatus N true current new deviceType = .ok (some a)
      ∧ statusDataValid N (.data a) deviceType = .ok .ok
      ∧ decodedStatus N (.data a) deviceType = decodedStatus N new deviceType
      ∧ (∀ current', aggregateStatus N true current' new deviceType = .ok (some a))
      ∧ (∀ current' new', decodedStatus N new' deviceType = decodedStatus N new deviceType →
        aggregateStatus N true current' new' deviceType = .ok (some a))
      ∧ (∀ current', aggregateStatus N true current' (.data a) deviceType = .ok (some a))
      ∧ (∀ granted message, aggregateError N granted message (.data a) deviceType
        = aggregateError N granted message new deviceType)
      ∧ ∀ c current' ca, statusDataValid N c deviceType = .ok .ok →
        aggregateStatus N true current' c deviceType = .ok (some ca) →
        sendStatusCondition N (.data ca) (.data a) deviceType
          = sendStatusCondition N c new deviceType := by
  obtain ⟨I, O, changed, hacts, hreaders⟩ := supported_readers N hsupported
  obtain ⟨s, hs⟩ := (hacts.valid_iff new).mp hvalid
  have hnormal : Device.decodeStatus N I O (.data (normalForm N s)) = some s :=
    hacts.decodeStatus_normalForm hN s
  refine ⟨normalForm N s, hacts.aggregateStatus_eq current hs, ?_, ?_,
    fun current' => hacts.aggregateStatus_eq current' hs,
    fun current' new' hsame =>
      hacts.aggregateStatus_eq current' ((hacts.decodeStatus_of_decoded hsame).trans hs),
    fun current' => hacts.aggregateStatus_eq current' hnormal,
    fun granted message => hreaders hs hnormal granted message, ?_⟩
  · exact (hacts.valid_iff _).mpr ⟨s, hnormal⟩
  · rw [hacts.decoded_eq, hacts.decoded_eq, hnormal, hs]
  · intro c current' ca hc hca
    obtain ⟨cs, hcs⟩ := (hacts.valid_iff c).mp hc
    have hwritten : normalForm N cs = ca := by
      rw [hacts.aggregateStatus_eq current' hcs] at hca
      exact Option.some.inj (Except.ok.inj hca)
    have hcnormal : Device.decodeStatus N I O (.data ca) = some cs := by
      rw [← hwritten]
      exact hacts.decodeStatus_normalForm hN cs
    exact hacts.sendStatusCondition_congr hcs hcnormal hs hnormal

/-- A Button whose one input comes with an unknown number and another entry
behind it. -/
def unusualButtonStatus : Buffer :=
  .data (Json.ascii ("[[\x7b\"inNum\":7,\"inSt\":true\x7d,\x7b\"inNum\":1,\"inSt\":true\x7d],"
    ++ "null,\x7b\"butPr\":0\x7d]"))

/-- What `aggregate_status` makes of it, whatever the current status is. -/
theorem aggregateStatus_normalises_button :
    ∃ a, aggregateStatus .compact true .null unusualButtonStatus 4 = .ok (some a)
      ∧ statusDataValid .compact (.data a) 4 = .ok .ok
      ∧ decodedStatus .compact (.data a) 4 = decodedStatus .compact unusualButtonStatus 4
      ∧ (∀ current', aggregateStatus .compact true current' unusualButtonStatus 4 = .ok (some a))
      ∧ (∀ current' new',
        decodedStatus .compact new' 4 = decodedStatus .compact unusualButtonStatus 4 →
        aggregateStatus .compact true current' new' 4 = .ok (some a))
      ∧ (∀ current', aggregateStatus .compact true current' (.data a) 4 = .ok (some a))
      ∧ (∀ granted message, aggregateError .compact granted message (.data a) 4
        = aggregateError .compact granted message unusualButtonStatus 4)
      ∧ ∀ c current' ca, statusDataValid .compact c 4 = .ok .ok →
        aggregateStatus .compact true current' c 4 = .ok (some ca) →
        sendStatusCondition .compact (.data ca) (.data a) 4
          = sendStatusCondition .compact c unusualButtonStatus 4 := by
  have hvalid : statusDataValid .compact unusualButtonStatus 4 = .ok .ok := by decide +kernel
  exact aggregateStatus_normalises JsonText.compact_lossless 4 rfl .null _ hvalid

end IoModule

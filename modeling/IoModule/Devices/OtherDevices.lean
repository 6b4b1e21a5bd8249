import IoModule.Devices.Exceptions
import IoModule.Devices.Normaliser
import IoModule.Utils.StatusSizes

/-!
# A status under the type of another device

A handler is told the device type next to the status, and the status does not
repeat it. What happens when the two do not belong together?

For the texts the module writes itself the answer depends on the sizes only
(`status_of_other_device`): a type with more inputs or more outputs rejects the
status, and every other type accepts it and sees the first inputs, the first
outputs and all presses. So the check of `status_data_valid` is no check of the
device: an Uno passes for each of the four, and a Button for itself alone.
-/

namespace IoModule

variable {N : JsonText}

/-- The cells of a status that a device type sees. -/
def StatusView.seenBy (deviceType : UInt32) (v : StatusView) : StatusView :=
  ⟨v.inputs.take (inputsCount deviceType), v.outputs.take (outputsCount deviceType), v.presses⟩

/-- A device type has no more inputs and no more outputs than another one. -/
def FitsInto (reader writer : UInt32) : Prop :=
  inputsCount reader ≤ inputsCount writer ∧ outputsCount reader ≤ outputsCount writer

instance (reader writer : UInt32) : Decidable (FitsInto reader writer) :=
  inferInstanceAs (Decidable (_ ∧ _))

/-- What a written status decodes to, at other sizes. -/
theorem Device.decodeStatus_other_size (hN : N.Lossless) {I O J P : Nat} (hI : I ≤ 255) (hO : O ≤ 255)
    (s : DeviceStatus I O) (r : DeviceStatus J P) :
    decodeStatus N J P (.data (normalForm N s)) = some r
      ↔ ∃ (hJ : J ≤ I) (hP : P ≤ O), r = s.truncate hJ hP := by
  rw [← DeviceStatus.deserialize_dump_iff N hN hI hO s DeviceStatus.fresh r]
  unfold decodeStatus readStatus normalForm
  rcases (DeviceStatus.fresh : DeviceStatus J P).deserializeFromBuffer N
    (.data (N.dump s.statusDocument)) with ⟨e | rc, s'⟩
  · simp
  · cases rc <;> simp

/-- A written status is validated without an exception. -/
theorem ActsAs.valid_normalForm (hN : N.Lossless) {reader : UInt32} {J P : Nat}
    {changed : DeviceStatus J P → DeviceStatus J P → Bool} (h : ActsAs N reader changed)
    {I O : Nat} (hI : I ≤ 255) (hO : O ≤ 255) (s : DeviceStatus I O) :
    statusDataValid N (.data (normalForm N s)) reader
      = .ok (if J ≤ I ∧ P ≤ O then .ok else .notOk) := by
  have hhandled : N.Handled (Buffer.data (normalForm N s)).bytes := by
    intro e he
    have hparse : N.parse (Buffer.data (normalForm N s)).bytes = .ok s.statusDocument :=
      hN _ (s.statusDocument_plain hI hO)
    rw [hparse] at he
    cases he
  have hvalid : statusDataValid N (.data (normalForm N s)) reader = .ok .ok ↔ J ≤ I ∧ P ≤ O := by
    rw [h.valid_iff]
    simp only [Device.decodeStatus_other_size hN hI hO]
    constructor
    · intro hex
      obtain ⟨_, hJ, hP, -⟩ := hex
      exact ⟨hJ, hP⟩
    · intro hsizes
      exact ⟨_, hsizes.1, hsizes.2, rfl⟩
  by_cases hsizes : J ≤ I ∧ P ≤ O
  · rw [if_pos hsizes, hvalid.mpr hsizes]
  · obtain ⟨rc, hmem, hrc⟩ := (h.answers_iff true .null _).1.mpr hhandled
    rw [if_neg hsizes, hrc]
    simp only [List.mem_cons, List.not_mem_nil, or_false] at hmem
    rcases hmem with rfl | rfl
    · exact absurd (hvalid.mp hrc) hsizes
    · rfl

/-- **A status under another device type.** Take a valid status of a supported
device and write it with `aggregate_status`. Under any supported type,
`status_data_valid` answers `OK` if that type has no more inputs and no more
outputs than the device, and `NOT_OK` if it has; and an accepted status is read
as its first inputs, its first outputs and its presses. -/
theorem status_of_other_device (hN : N.Lossless) {writer reader : UInt32}
    (hwriter : isDeviceTypeSupported writer = .ok) (hreader : isDeviceTypeSupported reader = .ok)
    (current new : Buffer) (hvalid : statusDataValid N new writer = .ok .ok) :
    ∃ text v, aggregateStatus N true current new writer = .ok (some text)
      ∧ decodedStatus N new writer = some v
      ∧ statusDataValid N (.data text) reader
        = .ok (if FitsInto reader writer then .ok else .notOk)
      ∧ decodedStatus N (.data text) reader
        = if FitsInto reader writer then some (v.seenBy reader) else none := by
  obtain ⟨changed, hacts⟩ := supported_actsAs (N := N) hwriter
  obtain ⟨changed', hacts'⟩ := supported_actsAs (N := N) hreader
  obtain ⟨s, hs⟩ := (hacts.valid_iff new).mp hvalid
  have hdecoded : decodedStatus N new writer = some s.view := by
    rw [hacts.decoded_eq, hs]
    rfl
  refine ⟨normalForm N s, s.view, hacts.aggregateStatus_eq current hs, hdecoded,
    hacts'.valid_normalForm hN hacts.inputs_le hacts.outputs_le s, ?_⟩
  rw [hacts'.decoded_eq]
  by_cases hfits : FitsInto reader writer
  · have htruncated := (Device.decodeStatus_other_size hN hacts.inputs_le hacts.outputs_le s
      (s.truncate hfits.1 hfits.2)).mpr ⟨hfits.1, hfits.2, rfl⟩
    rw [if_pos hfits, htruncated]
    show some (s.truncate hfits.1 hfits.2).view = _
    unfold DeviceStatus.view
    rw [DeviceStatus.truncate_inputs, DeviceStatus.truncate_outputs]
    rfl
  · rw [if_neg hfits, Option.map_eq_none_iff, Option.eq_none_iff_forall_ne_some]
    intro r hr
    obtain ⟨hJ, hP, -⟩ :=
      (Device.decodeStatus_other_size hN hacts.inputs_le hacts.outputs_le s r).mp hr
    exact hfits ⟨hJ, hP⟩

/-- An Uno's status, read as an Opta's. -/
theorem status_of_other_device_uno :
    ∃ text v, aggregateStatus .compact true .null (Device.restingStatus .compact 6 7 3) 3
        = .ok (some text)
      ∧ decodedStatus .compact (Device.restingStatus .compact 6 7 3) 3 = some v
      ∧ statusDataValid .compact (.data text) 1 = .ok (if FitsInto 1 3 then .ok else .notOk)
      ∧ decodedStatus .compact (.data text) 1
        = if FitsInto 1 3 then some (v.seenBy 1) else none :=
  status_of_other_device JsonText.compact_lossless rfl rfl .null _
    ((arduinoUno_actsAs .compact).valid_restingStatus JsonText.compact_lossless 3)

end IoModule

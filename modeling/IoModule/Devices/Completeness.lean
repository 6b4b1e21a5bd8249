import IoModule.Utils.StatusNumbers
import IoModule.Devices.ModuleManager

/-!
# Is a valid status complete?

The documentation sizes the two arrays of a status by the device, one entry
for every input and one for every output. The validator accepts whatever
reads: the loops need enough entries, look at no entry behind them, and write
through setters that ignore a number the device does not have. An input that
no entry numbers keeps the default of the fresh object.

`CompleteStatus` is what the documentation promises of an accepted status.
`valid_complete_iff` says what is missing for it: no entry too many, no number
of another device, no number twice (`NoStrayEntries`). That each input is
measured then follows, since there are enough entries
(`completeStatus_iff`).
-/

namespace IoModule

namespace DeviceStatus

variable {I O : Nat}

/-- The arrays list every input and every output of the device once, and each
of those of the status is what its entry says. -/
structure CompleteStatus (doc : Json) (s : DeviceStatus I O) : Prop where
  inputNumbers : NumberedInFull "inNum" I (doc.column inputStatesIndex)
  outputNumbers : 0 < O → NumberedInFull "outNum" O (doc.column outputStatesIndex)
  inputs : ∀ (k : Nat) (hk : k < I), ∃ e ∈ doc.column inputStatesIndex,
    e.memberNumber "inNum" = some ((k + 1 : Nat) : Rat)
      ∧ e.atKey "inSt" = .ok (.boolean s.inputStates[k])
  outputs : ∀ (k : Nat) (hk : k < O), ∃ e ∈ doc.column outputStatesIndex,
    e.memberNumber "outNum" = some ((k + 1 : Nat) : Rat)
      ∧ e.atKey "outErr" = .ok (.boolean s.outputStates[k].outputError)
      ∧ e.atKey "outSt" = .ok (.boolean s.outputStates[k].outputState)

/-- No stray entry in the columns the device has. -/
structure NoStrayEntries (I O : Nat) (doc : Json) : Prop where
  inputs : NoStrayEntry "inNum" I (doc.column inputStatesIndex)
  outputs : 0 < O → NoStrayEntry "outNum" O (doc.column outputStatesIndex)

/-- A device without outputs reads no output entry. -/
theorem outputEntries_numbered {doc : Json}
    (h : 0 < O → NumberedInFull "outNum" O (doc.column outputStatesIndex)) :
    NumberedInFull "outNum" O (outputEntries O doc) := by
  cases O with
  | zero => exact List.Perm.nil
  | succ n =>
    have hfull := h (Nat.succ_pos n)
    have hlen : (doc.column outputStatesIndex).length = n + 1 := by
      simpa [fullNumbers] using hfull.length_eq
    unfold outputEntries
    rw [List.take_of_length_le (Nat.le_of_eq hlen)]
    exact hfull

/-- **What reads is complete exactly if no entry is a stray one.** -/
theorem completeStatus_iff (hI : I ≤ 255) (hO : O ≤ 255) {doc : Json} {es : StatusEntries}
    (hread : StatusEntries.read I O doc = .ok es) (s : DeviceStatus I O) :
    CompleteStatus doc (es.writtenOver s) ↔ NoStrayEntries I O doc := by
  obtain ⟨hin, hout, -⟩ := StatusEntries.read_ok_iff.mp hread
  have hinputs : NumberedInFull "inNum" I (doc.column inputStatesIndex)
      ↔ NoStrayEntry "inNum" I (doc.column inputStatesIndex) :=
    numberedInFull_iff (inputs_read_iff.mp hin).1
  have houtputs : NumberedInFull "outNum" O (doc.column outputStatesIndex)
      ↔ NoStrayEntry "outNum" O (doc.column outputStatesIndex) :=
    numberedInFull_iff (outputs_read_iff.mp hout).1
  constructor
  · intro h
    exact ⟨hinputs.mp h.inputNumbers, fun hpos => houtputs.mp (h.outputNumbers hpos)⟩
  · intro h
    have hinFull := hinputs.mpr h.inputs
    have houtFull := fun hpos => houtputs.mpr (h.outputs hpos)
    -- the loops have read all there is
    have hinAll : inputEntries I doc = doc.column inputStatesIndex :=
      List.take_of_length_le h.inputs.not_surplus
    have houtAll : 0 < O → outputEntries O doc = doc.column outputStatesIndex :=
      fun hpos => List.take_of_length_le (h.outputs hpos).not_surplus
    have hsays : SaysByNumber doc (es.writtenOver s) :=
      saysByNumber_of_read hI hO hread (hinAll ▸ hinFull) (outputEntries_numbered houtFull) s
    refine ⟨hinFull, houtFull, fun k hk => ?_, fun k hk => ?_⟩
    · obtain ⟨e, he, hnumber⟩ := exists_of_numberedInFull hinFull hk
      exact ⟨e, he, hnumber, hsays.inputs e (hinAll ▸ he) k hk hnumber⟩
    · have hpos : 0 < O := Nat.zero_lt_of_lt hk
      obtain ⟨e, he, hnumber⟩ := exists_of_numberedInFull (houtFull hpos) hk
      exact ⟨e, he, hnumber, hsays.outputs e (houtAll hpos ▸ he) k hk hnumber⟩

end DeviceStatus

variable {N : JsonText}

/-- A buffer that decodes holds a document whose entries were read. -/
theorem Device.read_of_decode {I O : Nat} {b : Buffer} {s : DeviceStatus I O}
    (h : decodeStatus N I O b = some s) :
    ∃ doc es, N.parse b.bytes = .ok doc ∧ StatusEntries.read I O doc = .ok es
      ∧ s = es.writtenOver DeviceStatus.fresh := by
  have hread := readStatus_of_decode h
  unfold readStatus at hread
  rcases hdes : (DeviceStatus.fresh : DeviceStatus I O).deserializeFromBuffer N b with ⟨e | rc, t⟩
  · rw [hdes] at hread
    cases hread
  · rw [hdes] at hread
    cases hread
    exact (DeviceStatus.deserialize_ok_iff N DeviceStatus.fresh s b).mp hdes

/-- **When a valid status is complete.** Every status a supported device's
validator accepts decodes. Its arrays list each input and each output of the
device once, and every one of them comes from the message, exactly if no entry
is a stray one. -/
theorem valid_complete_iff (N : JsonText) (deviceType : UInt32)
    (hsupported : isDeviceTypeSupported deviceType = .ok) (b : Buffer)
    (hvalid : statusDataValid N b deviceType = .ok .ok) :
    ∃ doc s, N.parse b.bytes = .ok doc
      ∧ Device.decodeStatus N (inputsCount deviceType) (outputsCount deviceType) b = some s
      ∧ (DeviceStatus.CompleteStatus doc s
        ↔ DeviceStatus.NoStrayEntries (inputsCount deviceType) (outputsCount deviceType) doc) := by
  obtain ⟨changed, hacts⟩ := supported_actsAs (N := N) hsupported
  obtain ⟨s, hs⟩ := (hacts.valid_iff b).mp hvalid
  obtain ⟨doc, es, hdoc, hread, rfl⟩ := Device.read_of_decode hs
  exact ⟨doc, _, hdoc, hs,
    DeviceStatus.completeStatus_iff hacts.inputs_le hacts.outputs_le hread _⟩

/-- A resting Opta. -/
theorem valid_complete_iff_opta :
    ∃ doc s, JsonText.compact.parse (Device.restingStatus .compact 6 4 0).bytes = .ok doc
      ∧ Device.decodeStatus .compact (inputsCount 1) (outputsCount 1)
        (Device.restingStatus .compact 6 4 0) = some s
      ∧ (DeviceStatus.CompleteStatus doc s
        ↔ DeviceStatus.NoStrayEntries (inputsCount 1) (outputsCount 1) doc) :=
  valid_complete_iff .compact 1 rfl _
    ((arduinoOpta_actsAs .compact).valid_restingStatus JsonText.compact_lossless 0)

/-- A Button whose one entry is high and carries the number 7. -/
def misnumberedButtonDocument : Json :=
  .array [.array [.object [("inNum", .integer 7), ("inSt", .boolean true)]], .null,
    .object [("butPr", .integer 0)]]

/-- **An input that was never measured.** The validator accepts it and the
decoded input is low, though no entry says so. -/
theorem misnumbered_button_valid :
    ∃ s : DeviceStatus 1 0,
      statusDataValid .compact (.data (JsonText.compact.dump misnumberedButtonDocument)) 4 = .ok .ok
        ∧ JsonText.compact.parse (JsonText.compact.dump misnumberedButtonDocument)
          = .ok misnumberedButtonDocument
        ∧ Device.decodeStatus .compact 1 0
          (.data (JsonText.compact.dump misnumberedButtonDocument)) = some s
        ∧ s.inputStates[0] = false
        ∧ ¬ DeviceStatus.CompleteStatus misnumberedButtonDocument s := by
  have hdecoded : Device.decodeStatus .compact 1 0
      (.data (JsonText.compact.dump misnumberedButtonDocument)) = some DeviceStatus.fresh := by
    decide +kernel
  refine ⟨_, by decide +kernel, by decide +kernel, hdecoded, rfl, fun h => ?_⟩
  obtain ⟨e, he, -, hstate⟩ := h.inputs 0 Nat.one_pos
  have hcolumn : misnumberedButtonDocument.column inputStatesIndex
      = [.object [("inNum", .integer 7), ("inSt", .boolean true)]] := rfl
  rw [hcolumn] at he
  rw [List.mem_singleton.mp he] at hstate
  cases hstate

end IoModule

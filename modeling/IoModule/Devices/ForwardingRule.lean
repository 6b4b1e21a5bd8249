import IoModule.Devices.StatusFilter

/-!
# The documented forwarding rule

The documentation says for each device when a status is forwarded: when it
differs from the previous one in an input or an output, and for Opta also
when either of the two counts a press. `StatusView.Differ` is that sentence.

The code has four comparisons of its own, with early returns and, for Opta, a
button clause that treats the two statuses differently. `supported_rule` says
that each of them is the sentence for its device; `sendStatusCondition_rule`
is what follows for the return code, on every pair of buffers. Since the rule
does not mind the order of the two statuses, neither does the code.
-/

namespace IoModule

/-- What counts as worth forwarding, by the documentation. -/
def StatusView.Differ (deviceType : UInt32) (v w : StatusView) : Prop :=
  v.inputs ≠ w.inputs ∨ v.outputs ≠ w.outputs
    ∨ (deviceType = arduinoOptaDeviceType ∧ (0 < v.presses ∨ 0 < w.presses))

theorem StatusView.Differ.symm {deviceType : UInt32} {v w : StatusView}
    (h : v.Differ deviceType w) : w.Differ deviceType v := by
  rcases h with hin | hout | ⟨htype, hpresses⟩
  · exact Or.inl (Ne.symm hin)
  · exact Or.inr (Or.inl (Ne.symm hout))
  · exact Or.inr (Or.inr ⟨htype, Or.symm hpresses⟩)

/-- Two buffers decode to statuses that differ. -/
def BuffersDiffer (N : JsonText) (deviceType : UInt32) (c n : Buffer) : Prop :=
  ∃ v w, decodedStatus N c deviceType = some v ∧ decodedStatus N n deviceType = some w
    ∧ v.Differ deviceType w

/-! ## Each comparison is the rule -/

section Views

variable {I O : Nat}

/-- Equal arrays are equal views of them. -/
theorem view_arrays_iff (cs ns : DeviceStatus I O) :
    (ns.inputStates = cs.inputStates ∧ ns.outputStates = cs.outputStates)
      ↔ cs.view.inputs = ns.view.inputs ∧ cs.view.outputs = ns.view.outputs := by
  unfold DeviceStatus.view
  rw [Vector.toList_inj, Vector.toList_inj, eq_comm, @eq_comm _ ns.outputStates]

/-- The rule for a device without a button of its own. -/
theorem not_differ_iff_of_ne {deviceType : UInt32} (h : deviceType ≠ arduinoOptaDeviceType)
    (cs ns : DeviceStatus I O) :
    ¬ cs.view.Differ deviceType ns.view
      ↔ ns.inputStates = cs.inputStates ∧ ns.outputStates = cs.outputStates := by
  unfold StatusView.Differ
  rw [view_arrays_iff, not_or, not_or, not_not, not_not]
  constructor
  · intro hex
    obtain ⟨hin, hout, -⟩ := hex
    exact ⟨hin, hout⟩
  · intro hex
    obtain ⟨hin, hout⟩ := hex
    exact ⟨hin, hout, fun hopta => h hopta.1⟩

/-- The rule for Opta. -/
theorem not_differ_iff_opta (cs ns : DeviceStatus I O) :
    ¬ cs.view.Differ arduinoOptaDeviceType ns.view
      ↔ (ns.inputStates = cs.inputStates ∧ ns.outputStates = cs.outputStates)
        ∧ ns.buttonPresses = 0 ∧ cs.buttonPresses = 0 := by
  have hzero : ∀ x : UInt32, ¬ 0 < x ↔ x = 0 := by
    intro x
    rw [UInt32.lt_iff_toNat_lt, ← UInt32.toNat_inj, UInt32.toNat_zero]
    omega
  unfold StatusView.Differ
  rw [view_arrays_iff, not_or, not_or, not_not, not_not, not_and, not_or, hzero, hzero]
  constructor
  · intro h
    obtain ⟨hin, hout, hpresses⟩ := h
    obtain ⟨hc, hn⟩ := hpresses rfl
    exact ⟨⟨hin, hout⟩, hn, hc⟩
  · intro h
    obtain ⟨⟨hin, hout⟩, hn, hc⟩ := h
    exact ⟨hin, hout, fun _ => ⟨hc, hn⟩⟩

end Views

variable {N : JsonText}

/-- **A supported device compares by the rule.** -/
theorem supported_rule (N : JsonText) {deviceType : UInt32}
    (h : isDeviceTypeSupported deviceType = .ok) :
    ∃ (I O : Nat) (changed : DeviceStatus I O → DeviceStatus I O → Bool),
      ActsAs N deviceType changed
        ∧ ∀ cs ns, changed cs ns = true ↔ cs.view.Differ deviceType ns.view := by
  have hflip : ∀ {b : Bool} {p : Prop}, (b = false ↔ ¬ p) → (b = true ↔ p) := by
    intro b p hb
    rw [← Bool.not_eq_false, hb, not_not]
  rcases supported_cases h with rfl | rfl | rfl | rfl
  · refine ⟨_, _, _, arduinoOpta_actsAs N, fun cs ns => hflip ?_⟩
    rw [Device.optaChanged_eq_false_iff, not_differ_iff_opta]
  · refine ⟨_, _, _, arduinoMega_actsAs N, fun cs ns => hflip ?_⟩
    rw [Device.plainChanged_eq_false_iff, not_differ_iff_of_ne (by decide)]
  · refine ⟨_, _, _, arduinoUno_actsAs N, fun cs ns => hflip ?_⟩
    rw [Device.plainChanged_eq_false_iff, not_differ_iff_of_ne (by decide)]
  · refine ⟨_, _, _, button_actsAs N, fun cs ns => hflip ?_⟩
    have hbutton : buttonDeviceType ≠ arduinoOptaDeviceType := by decide
    exact (Device.buttonChanged_eq_false_iff cs ns).trans (not_differ_iff_of_ne hbutton cs ns).symm

/-! ## The return code -/

/-- A status is invalid exactly when it does not decode. -/
theorem ActsAs.not_valid_iff {deviceType : UInt32} {I O : Nat}
    {changed : DeviceStatus I O → DeviceStatus I O → Bool} (h : ActsAs N deviceType changed)
    (b : Buffer) :
    statusDataValid N b deviceType ≠ .ok .ok ↔ Device.decodeStatus N I O b = none := by
  rw [ne_eq, h.valid_iff, Option.eq_none_iff_forall_ne_some, not_exists]

/-- Buffers that decode differ as their statuses do. -/
theorem ActsAs.buffersDiffer_iff {deviceType : UInt32} {I O : Nat}
    {changed : DeviceStatus I O → DeviceStatus I O → Bool} (h : ActsAs N deviceType changed)
    {c n : Buffer} {cs ns : DeviceStatus I O} (hc : Device.decodeStatus N I O c = some cs)
    (hn : Device.decodeStatus N I O n = some ns) :
    BuffersDiffer N deviceType c n ↔ cs.view.Differ deviceType ns.view := by
  unfold BuffersDiffer
  rw [h.decoded_eq, h.decoded_eq, hc, hn]
  constructor
  · intro hex
    obtain ⟨v, w, hv, hw, hdiffer⟩ := hex
    rwa [Option.some.inj hv, Option.some.inj hw]
  · exact fun hdiffer => ⟨_, _, rfl, rfl, hdiffer⟩

/-- Only valid buffers differ. -/
theorem ActsAs.valid_of_buffersDiffer {deviceType : UInt32} {I O : Nat}
    {changed : DeviceStatus I O → DeviceStatus I O → Bool} (h : ActsAs N deviceType changed)
    {c n : Buffer} (hdiffer : BuffersDiffer N deviceType c n) :
    statusDataValid N c deviceType = .ok .ok ∧ statusDataValid N n deviceType = .ok .ok := by
  obtain ⟨v, w, hv, hw, -⟩ := hdiffer
  rw [h.decoded_eq] at hv hw
  obtain ⟨cs, hc, -⟩ := Option.map_eq_some_iff.mp hv
  obtain ⟨ns, hn, -⟩ := Option.map_eq_some_iff.mp hw
  exact ⟨(h.valid_iff c).mpr ⟨cs, hc⟩, (h.valid_iff n).mpr ⟨ns, hn⟩⟩

/-- **The forwarding rule.** On every two buffers on which no exception
escapes, `send_status_condition` of a supported device answers `NOT_OK`
exactly when one of them is invalid; otherwise `OK` exactly when the statuses
differ, and `CONDITION_NOT_MET` in all other cases. Swapping the buffers
changes nothing. -/
theorem sendStatusCondition_rule (deviceType : UInt32)
    (hsupported : isDeviceTypeSupported deviceType = .ok) (c n : Buffer) (rc : ReturnCode)
    (h : sendStatusCondition N c n deviceType = .ok rc) :
    (rc = .notOk ↔ statusDataValid N c deviceType ≠ .ok .ok
        ∨ statusDataValid N n deviceType ≠ .ok .ok)
      ∧ (rc = .ok ↔ BuffersDiffer N deviceType c n)
      ∧ (rc = .conditionNotMet ↔ statusDataValid N c deviceType = .ok .ok
        ∧ statusDataValid N n deviceType = .ok .ok ∧ ¬ BuffersDiffer N deviceType c n)
      ∧ sendStatusCondition N n c deviceType = .ok rc := by
  obtain ⟨I, O, changed, hacts, hrule⟩ := supported_rule N hsupported
  have hsymm : ∀ cs ns, changed cs ns = changed ns cs := by
    intro cs ns
    rw [Bool.eq_iff_iff, hrule, hrule]
    exact ⟨StatusView.Differ.symm, StatusView.Differ.symm⟩
  have hswap : sendStatusCondition N n c deviceType = .ok rc := by
    rw [hacts.send_eq] at h ⊢
    exact Device.sendStatusCondition_swap hsymm h
  rw [hacts.send_eq] at h
  rcases Device.sendStatusCondition_cases h with ⟨rfl, hnone⟩ | ⟨cs, ns, hc, hn, rfl⟩
  · -- a status that does not decode is not valid, and takes part in no difference
    have hinvalid : statusDataValid N c deviceType ≠ .ok .ok
        ∨ statusDataValid N n deviceType ≠ .ok .ok := by
      rw [hacts.not_valid_iff, hacts.not_valid_iff]
      exact hnone
    have hboth : ¬ (statusDataValid N c deviceType = .ok .ok
        ∧ statusDataValid N n deviceType = .ok .ok) := by
      intro hex
      obtain ⟨hc, hn⟩ := hex
      exact hinvalid.elim (fun h => h hc) (fun h => h hn)
    refine ⟨iff_of_true rfl hinvalid, iff_of_false (by decide) ?_, iff_of_false (by decide) ?_, hswap⟩
    · exact fun hdiffer => hboth (hacts.valid_of_buffersDiffer hdiffer)
    · exact fun hcond => hboth ⟨hcond.1, hcond.2.1⟩
  · have hvc : statusDataValid N c deviceType = .ok .ok := (hacts.valid_iff c).mpr ⟨cs, hc⟩
    have hvn : statusDataValid N n deviceType = .ok .ok := (hacts.valid_iff n).mpr ⟨ns, hn⟩
    have hinvalid : ¬ (statusDataValid N c deviceType ≠ .ok .ok
        ∨ statusDataValid N n deviceType ≠ .ok .ok) := by
      intro hor
      rcases hor with hne | hne
      · exact hne hvc
      · exact hne hvn
    have hdiffer : BuffersDiffer N deviceType c n ↔ changed cs ns = true := by
      rw [hacts.buffersDiffer_iff hc hn, hrule]
    by_cases hch : changed cs ns = true
    · rw [if_pos hch] at hswap ⊢
      have hyes : BuffersDiffer N deviceType c n := hdiffer.mpr hch
      exact ⟨iff_of_false (by decide) hinvalid, iff_of_true rfl hyes,
        iff_of_false (by decide) (fun hcond => hcond.2.2 hyes), hswap⟩
    · rw [if_neg hch] at hswap ⊢
      have hno : ¬ BuffersDiffer N deviceType c n := mt hdiffer.mp hch
      exact ⟨iff_of_false (by decide) hinvalid, iff_of_false (by decide) hno,
        iff_of_true rfl ⟨hvc, hvn, hno⟩, hswap⟩

/-- An Opta whose button was pressed twice before and not since. -/
theorem sendStatusCondition_rule_opta :
    (ReturnCode.ok = .notOk
        ↔ statusDataValid .compact (Device.restingStatus .compact 6 4 2) 1 ≠ .ok .ok
          ∨ statusDataValid .compact (Device.restingStatus .compact 6 4 0) 1 ≠ .ok .ok)
      ∧ (ReturnCode.ok = .ok ↔ BuffersDiffer .compact 1 (Device.restingStatus .compact 6 4 2)
        (Device.restingStatus .compact 6 4 0))
      ∧ (ReturnCode.ok = .conditionNotMet
        ↔ statusDataValid .compact (Device.restingStatus .compact 6 4 2) 1 = .ok .ok
          ∧ statusDataValid .compact (Device.restingStatus .compact 6 4 0) 1 = .ok .ok
          ∧ ¬ BuffersDiffer .compact 1 (Device.restingStatus .compact 6 4 2)
            (Device.restingStatus .compact 6 4 0))
      ∧ sendStatusCondition .compact (Device.restingStatus .compact 6 4 0)
        (Device.restingStatus .compact 6 4 2) 1 = .ok .ok := by
  have hsend : sendStatusCondition .compact (Device.restingStatus .compact 6 4 2)
      (Device.restingStatus .compact 6 4 0) 1 = .ok .ok := by decide +kernel
  exact sendStatusCondition_rule 1 rfl _ _ .ok hsend

end IoModule

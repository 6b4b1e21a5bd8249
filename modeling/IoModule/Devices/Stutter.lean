import IoModule.Devices.StatusFilter

/-!
# The status filter forwards nothing in vain

`StatusFilter` says that the gateway loses nothing. Here is the other half: what
it forwards is exactly what it receives with the repetitions taken out. A status
repeats the one forwarded before it if the device would show the same
(`StatusView.reported`: the presses count on Opta only) and no press has been
made (`WorthForwarding`).

So the decoded statuses forwarded are Mathlib's `destutter` of the decoded
statuses received (`gateway_destutters`). In particular they do not depend on how
often a quiet status is sent, on which of the texts of a status arrives, or on
whether the gateway aggregates the statuses it suppresses.
-/

namespace IoModule

/-- What counts of a status of a device type: the presses only on Opta. -/
def StatusView.reported (deviceType : UInt32) (v : StatusView) : StatusView :=
  if deviceType = arduinoOptaDeviceType then v else { v with presses := 0 }

variable (N : JsonText)

/-- What counts of a status buffer; nothing if it is not accepted. -/
def reportedStatus (deviceType : UInt32) (status : Buffer) : Option StatusView :=
  (decodedStatus N status deviceType).map (StatusView.reported deviceType)

/-- A status is worth forwarding after another one if it differs, or if it has
a press of its own. -/
def WorthForwarding (current new : Option StatusView) : Prop :=
  current ≠ new ∨ ∃ v ∈ new, 0 < v.presses

instance (new : Option StatusView) : Decidable (∃ v ∈ new, 0 < v.presses) :=
  match new with
  | none => isFalse fun ⟨_, h, _⟩ => nomatch h
  | some v => decidable_of_iff (0 < v.presses) ⟨fun h => ⟨v, rfl, h⟩, fun ⟨_, h, hv⟩ => by
      cases h
      exact hv⟩

instance : DecidableRel WorthForwarding := fun current new =>
  inferInstanceAs (Decidable (current ≠ new ∨ _))

variable {N} {deviceType : UInt32} {I O : Nat}
  {changed : DeviceStatus I O → DeviceStatus I O → Bool}

/-- A device whose comparison passes exactly over a status that shows the same
and has no press. -/
theorem gateway_destutters_of (hN : N.Lossless) (h : ActsAs N deviceType changed)
    (hchanged : ∀ cs ns : DeviceStatus I O, changed cs ns = false ↔
      cs.view.reported deviceType = ns.view.reported deviceType
        ∧ (ns.view.reported deviceType).presses = 0)
    (storeAll : Bool) {first : Buffer} {rest : List Buffer}
    (hvalid : ∀ b ∈ first :: rest, statusDataValid N b deviceType = .ok .ok) :
    (gateway N deviceType storeAll first rest).forwarded.map (reportedStatus N deviceType)
      = ((first :: rest).map (reportedStatus N deviceType)).destutter WorthForwarding := by
  have hquiet : ∀ c x, statusDataValid N c deviceType = .ok .ok →
      statusDataValid N x deviceType = .ok .ok →
      (gatewayForwards N deviceType c x = false ↔
        ¬ WorthForwarding (reportedStatus N deviceType c) (reportedStatus N deviceType x)) := by
    intro c x hc hx
    obtain ⟨cs, hcs⟩ := (h.valid_iff c).mp hc
    obtain ⟨ns, hns⟩ := (h.valid_iff x).mp hx
    have hreported : ∀ {b : Buffer} {s : DeviceStatus I O}, Device.decodeStatus N I O b = some s →
        reportedStatus N deviceType b = some (s.view.reported deviceType) := by
      intro b s hs
      unfold reportedStatus
      rw [h.decoded_eq, hs]
      rfl
    rw [gatewayForwards_eq h hcs hns, hchanged, hreported hcs, hreported hns]
    unfold WorthForwarding
    rw [not_or, not_not, Option.some.injEq]
    refine and_congr_right fun _ => ?_
    constructor
    · intro hzero hex
      obtain ⟨v, hv, hpositive⟩ := hex
      cases hv
      rw [hzero] at hpositive
      exact absurd hpositive (UInt32.lt_irrefl 0)
    · intro hnone
      by_contra hne
      exact hnone ⟨_, rfl, UInt32.pos_iff_ne_zero.mpr hne⟩
  refine ChangeFilter.run_destutter WorthForwarding
    (fun c x _ hx => gatewayHolds_valid hN h (StatusView.reported deviceType) c x hx)
    (fun c x hc hx => ?_) (fun c x hc hx hsame => ?_) hvalid
  · rw [← not_iff_not, Bool.not_eq_true]
    exact hquiet c x hc hx
  · have hnot := (hquiet c x hc hx).mp hsame
    exact (not_not.mp fun hne => hnot (Or.inl hne)).symm

/-- On a device without a button, if their arrays agree. -/
theorem DeviceStatus.reported_inj {cs ns : DeviceStatus I O}
    (hother : deviceType ≠ arduinoOptaDeviceType) :
    (cs.view.reported deviceType = ns.view.reported deviceType
      ∧ (ns.view.reported deviceType).presses = 0)
      ↔ ns.inputStates = cs.inputStates ∧ ns.outputStates = cs.outputStates := by
  unfold StatusView.reported
  rw [if_neg hother, if_neg hother, and_iff_left rfl]
  unfold view
  rw [StatusView.mk.injEq, Vector.toList_inj, Vector.toList_inj, and_iff_left rfl,
    eq_comm (a := ns.inputStates), eq_comm (a := ns.outputStates)]

/-- Opta compares exactly that. -/
theorem optaChanged_iff_reported (cs ns : DeviceStatus I O) :
    Device.optaChanged cs ns = false ↔
      cs.view.reported arduinoOptaDeviceType = ns.view.reported arduinoOptaDeviceType
        ∧ (ns.view.reported arduinoOptaDeviceType).presses = 0 := by
  rw [Device.optaChanged_eq_false_iff]
  unfold StatusView.reported
  rw [if_pos rfl, if_pos rfl, DeviceStatus.view_inj]
  show _ ↔ _ ∧ ns.buttonPresses = 0
  constructor
  · intro hex
    obtain ⟨harrays, hn, hc⟩ := hex
    exact ⟨⟨harrays, hc.trans hn.symm⟩, hn⟩
  · intro hex
    obtain ⟨⟨harrays, heq⟩, hn⟩ := hex
    exact ⟨harrays, hn, heq.trans hn⟩

/-- **The status filter takes out the repetitions.** For every supported device
type and every sequence of valid statuses, what the forwarded statuses decode to
is what the received ones decode to, with every status dropped that shows the
same as the one forwarded before it and has no press. -/
theorem gateway_destutters (hN : N.Lossless) (hsupported : isDeviceTypeSupported deviceType = .ok)
    (storeAll : Bool) (first : Buffer) (rest : List Buffer)
    (hvalid : ∀ b ∈ first :: rest, statusDataValid N b deviceType = .ok .ok) :
    (gateway N deviceType storeAll first rest).forwarded.map (reportedStatus N deviceType)
      = ((first :: rest).map (reportedStatus N deviceType)).destutter WorthForwarding := by
  rcases supported_cases hsupported with rfl | rfl | rfl | rfl
  · exact gateway_destutters_of hN (arduinoOpta_actsAs N) optaChanged_iff_reported storeAll hvalid
  · refine gateway_destutters_of hN (arduinoMega_actsAs N) (fun cs ns => ?_) storeAll hvalid
    rw [Device.plainChanged_eq_false_iff, DeviceStatus.reported_inj (by decide)]
  · refine gateway_destutters_of hN (arduinoUno_actsAs N) (fun cs ns => ?_) storeAll hvalid
    rw [Device.plainChanged_eq_false_iff, DeviceStatus.reported_inj (by decide)]
  · refine gateway_destutters_of hN (button_actsAs N) (fun cs ns => ?_) storeAll hvalid
    exact (Device.buttonChanged_eq_false_iff cs ns).trans
      (DeviceStatus.reported_inj (by decide)).symm

/-- An Opta pressed twice in a row, then quiet three times: the last two are
repetitions, the second press is none. -/
theorem gateway_destutters_opta :
    (gateway .compact 1 false (Device.restingStatus .compact 6 4 1)
        [Device.restingStatus .compact 6 4 1, Device.restingStatus .compact 6 4 0,
          Device.restingStatus .compact 6 4 0, Device.restingStatus .compact 6 4 0]).forwarded.map
        (reportedStatus .compact 1)
      = ((Device.restingStatus .compact 6 4 1 ::
        [Device.restingStatus .compact 6 4 1, Device.restingStatus .compact 6 4 0,
          Device.restingStatus .compact 6 4 0, Device.restingStatus .compact 6 4 0]).map
        (reportedStatus .compact 1)).destutter WorthForwarding :=
  gateway_destutters JsonText.compact_lossless rfl false _ _ fun b hb => by
    have hvalid := (arduinoOpta_actsAs .compact).valid_restingStatus JsonText.compact_lossless
    simp only [List.mem_cons, List.not_mem_nil, or_false] at hb
    rcases hb with rfl | rfl | rfl | rfl | rfl
    · exact hvalid 1
    · exact hvalid 1
    · exact hvalid 0
    · exact hvalid 0
    · exact hvalid 0

end IoModule

import IoModule.ChangeFilter
import IoModule.Devices.ModuleManager

/-!
# The status filter loses nothing

The gateway's side of the status functions: the first status is forwarded,
each later one only when `send_status_condition` answers `OK` for it against
the status held, and what is held is the output of `aggregate_status`. That
is a `ChangeFilter` over buffers (`gateway`).

Buffers are compared by what they decode to (`decodedStatus`), never as
texts: a status may list its entries in any order, repeat a number or leave
one out.

- `outputsDiffer_eq_false_iff`, `inputsDiffer_eq_false_iff`: the loops find
  no difference exactly when the arrays are equal.
- `gateway_faithful`: the filter's guarantee for a device type that `ActsAs`
  sizes and a comparison. For Opta, a suppressed status has no presses
  (`optaChanged_eq_false_iff`).
- `gateway_loses_nothing`: on every sequence of valid statuses of a
  supported device, the last status forwarded has the inputs and outputs of
  the last one received, and on Opta its presses too, with no press missing
  in total.
-/

namespace IoModule

namespace Device

variable {I O : Nat}

/-! ## A comparison that finds nothing -/

theorem outputsDiffer_eq_false_iff (cStatus nStatus : DeviceStatus I O) :
    outputsDiffer cStatus nStatus = false ↔ nStatus.outputStates = cStatus.outputStates := by
  constructor
  · intro h
    apply Vector.ext
    intro i hi
    have hcell := List.any_eq_false.mp h ⟨i, hi⟩ (List.mem_finRange _)
    simp only [Bool.or_eq_true, bne_iff_ne, not_or, not_not] at hcell
    obtain ⟨herror, hstate⟩ := hcell
    exact OutputStatus.ext herror.symm hstate.symm
  · intro h
    refine List.any_eq_false.mpr fun i _ => ?_
    simp [h]

theorem inputsDiffer_eq_false_iff (cStatus nStatus : DeviceStatus I O) :
    inputsDiffer cStatus nStatus = false ↔ nStatus.inputStates = cStatus.inputStates := by
  constructor
  · intro h
    apply Vector.ext
    intro i hi
    have hcell := List.any_eq_false.mp h ⟨i, hi⟩ (List.mem_finRange _)
    simp only [bne_iff_ne, not_not] at hcell
    exact hcell.symm
  · intro h
    refine List.any_eq_false.mpr fun i _ => ?_
    simp [h]

theorem plainChanged_eq_false_iff (cStatus nStatus : DeviceStatus I O) :
    plainChanged cStatus nStatus = false ↔
      nStatus.inputStates = cStatus.inputStates ∧ nStatus.outputStates = cStatus.outputStates := by
  unfold plainChanged
  rw [Bool.or_eq_false_iff, outputsDiffer_eq_false_iff, inputsDiffer_eq_false_iff, and_comm]

/-- The button clause finds nothing exactly when neither status has a
press: one in the new status is forwarded for its own sake, one in the held
status because it has gone. -/
theorem pressed_eq_false_iff (c n : UInt32) :
    (decide (n > 0) || (decide (c > 0) && n == 0)) = false ↔ n = 0 ∧ c = 0 := by
  constructor
  · intro h
    obtain ⟨hnew, hold⟩ := Bool.or_eq_false_iff.mp h
    have hn : n = 0 := by simpa using hnew
    have hc : c = 0 := by simpa [hn] using hold
    exact ⟨hn, hc⟩
  · intro hex
    obtain ⟨rfl, rfl⟩ := hex
    rfl

/-- Opta's comparison also passes over no press. -/
theorem optaChanged_eq_false_iff (cStatus nStatus : DeviceStatus I O) :
    optaChanged cStatus nStatus = false ↔
      (nStatus.inputStates = cStatus.inputStates ∧ nStatus.outputStates = cStatus.outputStates)
        ∧ nStatus.buttonPresses = 0 ∧ cStatus.buttonPresses = 0 := by
  unfold optaChanged
  rw [Bool.or_eq_false_iff, Bool.or_eq_false_iff, outputsDiffer_eq_false_iff,
    inputsDiffer_eq_false_iff, pressed_eq_false_iff]
  constructor
  · intro hex
    obtain ⟨⟨hout, hpresses⟩, hin⟩ := hex
    exact ⟨⟨hin, hout⟩, hpresses⟩
  · intro hex
    obtain ⟨⟨hin, hout⟩, hpresses⟩ := hex
    exact ⟨⟨hout, hpresses⟩, hin⟩

/-- Button has no outputs to compare. -/
theorem buttonChanged_eq_false_iff (cStatus nStatus : DeviceStatus I 0) :
    buttonChanged cStatus nStatus = false ↔
      nStatus.inputStates = cStatus.inputStates ∧ nStatus.outputStates = cStatus.outputStates := by
  have hout : nStatus.outputStates = cStatus.outputStates :=
    Vector.ext fun _ hi => absurd hi (Nat.not_lt_zero _)
  unfold buttonChanged
  rw [inputsDiffer_eq_false_iff, and_iff_left hout]

end Device

/-! ## The gateway -/

variable (N : JsonText)

/-- The gateway forwards on `OK`. -/
def gatewayForwards (deviceType : UInt32) (held new : Buffer) : Bool :=
  match sendStatusCondition N held new deviceType with
  | .ok .ok => true
  | _ => false

/-- What the gateway holds after a status: the buffer `aggregate_status`
produced, its allocation granted. -/
def gatewayHolds (deviceType : UInt32) (held new : Buffer) : Buffer :=
  match aggregateStatus N true held new deviceType with
  | .ok (some b) => .data b
  | _ => held

/-- The gateway on a sequence of statuses. With `storeAll` it aggregates
every status, otherwise only those it forwards. -/
def gateway (deviceType : UInt32) (storeAll : Bool) (first : Buffer) (rest : List Buffer) :
    ChangeFilter Buffer :=
  ChangeFilter.run (gatewayForwards N deviceType) (gatewayHolds N deviceType) storeAll first rest

section ActsAs

variable {N} {deviceType : UInt32} {I O : Nat}
  {changed : DeviceStatus I O → DeviceStatus I O → Bool}

theorem gatewayForwards_eq (h : ActsAs N deviceType changed) {held new : Buffer}
    {hs ns : DeviceStatus I O} (hheld : Device.decodeStatus N I O held = some hs)
    (hnew : Device.decodeStatus N I O new = some ns) :
    gatewayForwards N deviceType held new = changed hs ns := by
  unfold gatewayForwards
  rw [h.send_eq, Device.sendStatusCondition_eq hheld hnew]
  cases changed hs ns <;> rfl

/-- What is held after a status decodes to that status. -/
theorem decodeStatus_gatewayHolds (hN : N.Lossless) (h : ActsAs N deviceType changed)
    {held new : Buffer} {ns : DeviceStatus I O}
    (hnew : Device.decodeStatus N I O new = some ns) :
    Device.decodeStatus N I O (gatewayHolds N deviceType held new) = some ns := by
  have hholds : gatewayHolds N deviceType held new = .data (N.dump ns.statusDocument) := by
    unfold gatewayHolds
    rw [h.aggregate_eq, Device.aggregateStatus_eq hnew]
    rfl
  rw [hholds]
  exact Device.decodeStatus_dump hN h.inputs_le h.outputs_le ns

/-- Holding preserves validity and meaning. -/
theorem gatewayHolds_valid (hN : N.Lossless) (h : ActsAs N deviceType changed)
    {β : Type} (look : StatusView → β) (held new : Buffer)
    (hnew : statusDataValid N new deviceType = .ok .ok) :
    statusDataValid N (gatewayHolds N deviceType held new) deviceType = .ok .ok
      ∧ (decodedStatus N (gatewayHolds N deviceType held new) deviceType).map look
        = (decodedStatus N new deviceType).map look := by
  obtain ⟨ns, hns⟩ := (h.valid_iff new).mp hnew
  have hholds : Device.decodeStatus N I O (gatewayHolds N deviceType held new) = some ns :=
    decodeStatus_gatewayHolds hN h hns
  exact ⟨(h.valid_iff _).mpr ⟨ns, hholds⟩, by rw [h.decoded_eq, h.decoded_eq, hholds, hns]⟩

/-- A status the gateway suppresses looks like the one held, as far as the
comparison goes (`look`), and weighs nothing if unchanged statuses do. -/
theorem gateway_suppressed (h : ActsAs N deviceType changed) {β : Type} (look : StatusView → β)
    (weight : StatusView → Nat)
    (hlook : ∀ cs ns, changed cs ns = false → look ns.view = look cs.view ∧ weight ns.view = 0)
    (held new : Buffer) (hheld : statusDataValid N held deviceType = .ok .ok)
    (hnew : statusDataValid N new deviceType = .ok .ok)
    (hsup : gatewayForwards N deviceType held new = false) :
    (decodedStatus N new deviceType).map look = (decodedStatus N held deviceType).map look
      ∧ ((decodedStatus N new deviceType).map weight).getD 0 = 0 := by
  obtain ⟨hs, hhs⟩ := (h.valid_iff held).mp hheld
  obtain ⟨ns, hns⟩ := (h.valid_iff new).mp hnew
  rw [gatewayForwards_eq h hhs hns] at hsup
  obtain ⟨hsame, hzero⟩ := hlook hs ns hsup
  rw [h.decoded_eq, h.decoded_eq, hhs, hns]
  exact ⟨congrArg some hsame, hzero⟩

/-- The filter's guarantee for one device type, one view and one weight. -/
theorem gateway_faithful (hN : N.Lossless) (h : ActsAs N deviceType changed) {β : Type}
    (look : StatusView → β) (weight : StatusView → Nat)
    (hlook : ∀ cs ns, changed cs ns = false → look ns.view = look cs.view ∧ weight ns.view = 0)
    (storeAll : Bool) {first : Buffer} {rest : List Buffer}
    (hvalid : ∀ b ∈ first :: rest, statusDataValid N b deviceType = .ok .ok) :
    (gateway N deviceType storeAll first rest).forwarded.getLast?.map
        (fun b => (decodedStatus N b deviceType).map look)
      = (first :: rest).getLast?.map (fun b => (decodedStatus N b deviceType).map look)
    ∧ ChangeFilter.total (fun b => ((decodedStatus N b deviceType).map weight).getD 0)
        (gateway N deviceType storeAll first rest).forwarded
      = ChangeFilter.total (fun b => ((decodedStatus N b deviceType).map weight).getD 0)
        (first :: rest) := by
  have hkeep := fun held new (_ : statusDataValid N held deviceType = .ok .ok) hnew =>
    gatewayHolds_valid hN h look held new hnew
  have hsame := gateway_suppressed h look weight hlook
  exact ⟨ChangeFilter.run_observed hkeep hsame hvalid, ChangeFilter.run_weight hkeep hsame hvalid⟩

/-- Two lists of buffers whose last elements look alike, the second ending
in a status that decodes: so does the first, to a status that looks alike. -/
theorem last_decoded {β : Type} {look : StatusView → β} {forwarded received : List Buffer}
    {last : Buffer} {r : StatusView} (hlast : received.getLast? = some last)
    (hr : decodedStatus N last deviceType = some r)
    (h : forwarded.getLast?.map (fun b => (decodedStatus N b deviceType).map look)
      = received.getLast?.map (fun b => (decodedStatus N b deviceType).map look)) :
    ∃ b f, forwarded.getLast? = some b ∧ decodedStatus N b deviceType = some f
      ∧ look f = look r := by
  rw [hlast, Option.map_some, hr, Option.map_eq_some_iff] at h
  obtain ⟨b, hb, hlook⟩ := h
  obtain ⟨f, hf, hfr⟩ := Option.map_eq_some_iff.mp hlook
  exact ⟨b, f, hb, hf, hfr⟩

/-- A sequence of valid statuses ends in one that decodes. -/
theorem last_valid (h : ActsAs N deviceType changed) {first : Buffer} {rest : List Buffer}
    (hvalid : ∀ b ∈ first :: rest, statusDataValid N b deviceType = .ok .ok) :
    ∃ last r, (first :: rest).getLast? = some last
      ∧ decodedStatus N last deviceType = some r := by
  obtain ⟨s, hs⟩ := (h.valid_iff _).mp (hvalid _ (List.getLast_mem (List.cons_ne_nil first rest)))
  exact ⟨_, s.view, List.getLast?_eq_some_getLast _, by rw [h.decoded_eq, hs]; rfl⟩

/-- A device whose comparison passes only over equal arrays. -/
theorem gateway_arrays (hN : N.Lossless) (h : ActsAs N deviceType changed)
    (hchanged : ∀ cs ns, changed cs ns = false →
      ns.inputStates = cs.inputStates ∧ ns.outputStates = cs.outputStates)
    (storeAll : Bool) {first : Buffer} {rest : List Buffer}
    (hvalid : ∀ b ∈ first :: rest, statusDataValid N b deviceType = .ok .ok) :
    ∃ forwarded received f r,
      (gateway N deviceType storeAll first rest).forwarded.getLast? = some forwarded
      ∧ (first :: rest).getLast? = some received
      ∧ decodedStatus N forwarded deviceType = some f
      ∧ decodedStatus N received deviceType = some r
      ∧ f.inputs = r.inputs ∧ f.outputs = r.outputs := by
  -- presses are left out of the view, and nothing has a weight
  have hlook : ∀ cs ns : DeviceStatus I O, changed cs ns = false →
      (ns.view.inputs, ns.view.outputs) = (cs.view.inputs, cs.view.outputs) ∧ 0 = 0 := by
    intro cs ns hsame
    obtain ⟨hin, hout⟩ := hchanged cs ns hsame
    exact ⟨by simp only [DeviceStatus.view, hin, hout], rfl⟩
  obtain ⟨hobs, -⟩ := gateway_faithful hN h (fun v => (v.inputs, v.outputs)) (fun _ => 0) hlook
    storeAll hvalid
  obtain ⟨received, r, hlast, hr⟩ := last_valid h hvalid
  obtain ⟨forwarded, f, hforwarded, hf, hfr⟩ := last_decoded hlast hr hobs
  exact ⟨forwarded, received, f, r, hforwarded, hlast, hf, hr,
    congrArg Prod.fst hfr, congrArg Prod.snd hfr⟩

/-- A device whose comparison passes only over equal arrays without a
press. -/
theorem gateway_presses (hN : N.Lossless) (h : ActsAs N deviceType changed)
    (hchanged : ∀ cs ns, changed cs ns = false →
      (ns.inputStates = cs.inputStates ∧ ns.outputStates = cs.outputStates)
        ∧ ns.buttonPresses = 0 ∧ cs.buttonPresses = 0)
    (storeAll : Bool) {first : Buffer} {rest : List Buffer}
    (hvalid : ∀ b ∈ first :: rest, statusDataValid N b deviceType = .ok .ok) :
    ∃ forwarded received f r,
      (gateway N deviceType storeAll first rest).forwarded.getLast? = some forwarded
      ∧ (first :: rest).getLast? = some received
      ∧ decodedStatus N forwarded deviceType = some f
      ∧ decodedStatus N received deviceType = some r
      ∧ f = r
      ∧ totalPresses N deviceType (gateway N deviceType storeAll first rest).forwarded
        = totalPresses N deviceType (first :: rest) := by
  -- the view is the whole status, and its presses are its weight
  have hlook : ∀ cs ns : DeviceStatus I O, changed cs ns = false →
      id ns.view = id cs.view ∧ ns.view.presses.toNat = 0 := by
    intro cs ns hsame
    obtain ⟨⟨hin, hout⟩, hn, hc⟩ := hchanged cs ns hsame
    refine ⟨by simp only [DeviceStatus.view, hin, hout, hn, hc], ?_⟩
    simp only [DeviceStatus.view, hn]
    rfl
  obtain ⟨hobs, htotal⟩ := gateway_faithful hN h id (fun v => v.presses.toNat) hlook storeAll hvalid
  obtain ⟨received, r, hlast, hr⟩ := last_valid h hvalid
  obtain ⟨forwarded, f, hforwarded, hf, hfr⟩ := last_decoded hlast hr hobs
  exact ⟨forwarded, received, f, r, hforwarded, hlast, hf, hr, hfr, htotal⟩

end ActsAs

variable {N}

/-- **The status filter loses no change and no press.** For every supported
device type and every sequence of valid statuses, the last status forwarded
decodes to the inputs and outputs of the last status received; on Opta also
to its presses, and the presses forwarded add up to the presses received.
It does not matter whether the gateway aggregates the suppressed statuses
too. -/
theorem gateway_loses_nothing (hN : N.Lossless) (deviceType : UInt32)
    (hsupported : isDeviceTypeSupported deviceType = .ok) (storeAll : Bool) (first : Buffer)
    (rest : List Buffer) (hvalid : ∀ b ∈ first :: rest, statusDataValid N b deviceType = .ok .ok) :
    ∃ forwarded received f r,
      (gateway N deviceType storeAll first rest).forwarded.getLast? = some forwarded
      ∧ (first :: rest).getLast? = some received
      ∧ decodedStatus N forwarded deviceType = some f
      ∧ decodedStatus N received deviceType = some r
      ∧ f.inputs = r.inputs ∧ f.outputs = r.outputs
      ∧ (deviceType = arduinoOptaDeviceType → f.presses = r.presses
        ∧ totalPresses N deviceType (gateway N deviceType storeAll first rest).forwarded
          = totalPresses N deviceType (first :: rest)) := by
  rcases supported_cases hsupported with rfl | rfl | rfl | rfl
  · obtain ⟨fb, rb, f, r, hfb, hrb, hf, hr, hfr, htotal⟩ := gateway_presses hN
      (arduinoOpta_actsAs N) (fun _ _ => (Device.optaChanged_eq_false_iff ..).mp) storeAll hvalid
    exact ⟨fb, rb, f, r, hfb, hrb, hf, hr, congrArg _ hfr, congrArg _ hfr,
      fun _ => ⟨congrArg _ hfr, htotal⟩⟩
  · obtain ⟨fb, rb, f, r, hfb, hrb, hf, hr, hin, hout⟩ := gateway_arrays hN
      (arduinoMega_actsAs N) (fun _ _ => (Device.plainChanged_eq_false_iff ..).mp) storeAll hvalid
    exact ⟨fb, rb, f, r, hfb, hrb, hf, hr, hin, hout, fun h => absurd h (by decide)⟩
  · obtain ⟨fb, rb, f, r, hfb, hrb, hf, hr, hin, hout⟩ := gateway_arrays hN
      (arduinoUno_actsAs N) (fun _ _ => (Device.plainChanged_eq_false_iff ..).mp) storeAll hvalid
    exact ⟨fb, rb, f, r, hfb, hrb, hf, hr, hin, hout, fun h => absurd h (by decide)⟩
  · obtain ⟨fb, rb, f, r, hfb, hrb, hf, hr, hin, hout⟩ := gateway_arrays hN
      (button_actsAs N) (fun _ _ => (Device.buttonChanged_eq_false_iff ..).mp) storeAll hvalid
    exact ⟨fb, rb, f, r, hfb, hrb, hf, hr, hin, hout, fun h => absurd h (by decide)⟩

/-- An Opta pressed twice, then not at all: the first two statuses go
through, the third is suppressed. -/
theorem gateway_loses_nothing_opta :
    ∃ forwarded received f r,
      (gateway .compact 1 true (Device.restingStatus .compact 6 4 2)
        [Device.restingStatus .compact 6 4 0, Device.restingStatus .compact 6 4 0]).forwarded.getLast?
          = some forwarded
      ∧ [Device.restingStatus .compact 6 4 2, Device.restingStatus .compact 6 4 0,
          Device.restingStatus .compact 6 4 0].getLast? = some received
      ∧ decodedStatus .compact forwarded 1 = some f
      ∧ decodedStatus .compact received 1 = some r
      ∧ f.inputs = r.inputs ∧ f.outputs = r.outputs
      ∧ (1 = arduinoOptaDeviceType → f.presses = r.presses
        ∧ totalPresses .compact 1
            (gateway .compact 1 true (Device.restingStatus .compact 6 4 2)
              [Device.restingStatus .compact 6 4 0,
                Device.restingStatus .compact 6 4 0]).forwarded
          = totalPresses .compact 1
            [Device.restingStatus .compact 6 4 2, Device.restingStatus .compact 6 4 0,
              Device.restingStatus .compact 6 4 0]) :=
  gateway_loses_nothing JsonText.compact_lossless 1 rfl true _ _ fun b hb => by
    have hvalid := (arduinoOpta_actsAs .compact).valid_restingStatus JsonText.compact_lossless
    simp only [List.mem_cons, List.not_mem_nil, or_false] at hb
    rcases hb with rfl | rfl | rfl
    · exact hvalid 2
    · exact hvalid 0
    · exact hvalid 0

end IoModule

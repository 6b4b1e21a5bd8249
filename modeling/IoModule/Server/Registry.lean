import IoModule.Bag
import IoModule.Server.Context

/-!
# `device_connected` and `device_disconnected`

The devices a context knows of (`external_server_api.cpp`). A device is
identified by all its fields together: module, type, priority and the bytes of
role and name. Connecting copies role and name and appends the device, once
for every call; disconnecting scans for the first entry that agrees in every
field and erases it.

Each of the two answers `NOT_OK` before it has touched the list, so it changes
the registry by one device or not at all (`connect_cases`,
`disconnect_cases`).
-/

namespace IoModule

/-- Which allocations of a connect succeed: the copies of role and name, and
the vector growing by an entry. -/
structure ConnectGrants where
  deviceRole : Bool
  deviceName : Bool
  entry : Bool
deriving DecidableEq, Repr

/-- `device_connected` on a context. A vector that cannot grow lets
`std::bad_alloc` out and stays as it was: `none`. -/
def Context.deviceConnected (granted : ConnectGrants) (device : DeviceIdentification)
    (con : Context) : Option ReturnCode × Context :=
  match allocate granted.deviceRole device.deviceRole with
  | none => (some .notOk, con)
  | some deviceRole =>
    match allocate granted.deviceName device.deviceName with
    | none => (some .notOk, con)
    | some deviceName =>
      if granted.entry then
        (some .ok, { con with
          devices := con.devices ++ [{ device with deviceRole, deviceName }] })
      else (none, con)

/-- `device_is_present`: the entry agrees with the device in every field. -/
def DeviceIdentification.isPresent (it device : DeviceIdentification) : Bool :=
  it.deviceType == device.deviceType && it.deviceRole == device.deviceRole
    && it.deviceName == device.deviceName && it.moduleId == device.moduleId
    && it.priority == device.priority

/-- `device_disconnected` on a context: the first entry found is erased. The
disconnect type is not looked at. -/
def Context.deviceDisconnected (_disconnectType : Int32) (device : DeviceIdentification)
    (con : Context) : ReturnCode × Context :=
  match con.devices.findIdx? fun it => it.isPresent device with
  | some it => (.ok, { con with devices := con.devices.eraseIdx it })
  | none => (.notOk, con)

/-! ## One call -/

/-- An entry is the device, or differs from it in some field. -/
theorem DeviceIdentification.isPresent_iff (it device : DeviceIdentification) :
    it.isPresent device = true ↔ it = device := by
  unfold isPresent
  constructor
  · intro h
    simp only [Bool.and_eq_true, beq_iff_eq] at h
    obtain ⟨⟨⟨⟨htype, hrole⟩, hname⟩, hmodule⟩, hpriority⟩ := h
    cases it
    cases device
    simp_all
  · intro heq
    subst heq
    simp only [beq_self_eq_true, Bool.and_self]

/-- **One connect.** The device is appended when everything is allocated;
otherwise the context is as before, and only without memory for the entry does
an exception leave. -/
theorem connect_cases {granted : ConnectGrants} {device : DeviceIdentification}
    {con con' : Context} {result : Option ReturnCode}
    (h : con.deviceConnected granted device = (result, con')) :
    (result = some .ok ∧ con' = { con with devices := con.devices ++ [device] })
      ∨ ((result = some .notOk ∨ result = none) ∧ con' = con) := by
  obtain ⟨grantedRole, grantedName, grantedEntry⟩ := granted
  unfold Context.deviceConnected at h
  cases grantedRole with
  | false => cases h; exact Or.inr ⟨Or.inl rfl, rfl⟩
  | true =>
    cases grantedName with
    | false => cases h; exact Or.inr ⟨Or.inl rfl, rfl⟩
    | true =>
      cases grantedEntry with
      | false => cases h; exact Or.inr ⟨Or.inr rfl, rfl⟩
      | true => cases h; exact Or.inl ⟨rfl, rfl⟩

/-- **One disconnect.** The first occurrence of a device that is there is
erased; a device that is not there leaves the context as before. -/
theorem disconnect_cases (disconnectType : Int32) (device : DeviceIdentification)
    (con : Context) :
    (∃ before after, con.devices = before ++ device :: after ∧ device ∉ before
        ∧ con.deviceDisconnected disconnectType device
          = (.ok, { con with devices := before ++ after }))
      ∨ (device ∉ con.devices
        ∧ con.deviceDisconnected disconnectType device = (.notOk, con)) := by
  unfold Context.deviceDisconnected
  cases hfind : con.devices.findIdx? fun it => it.isPresent device with
  | none =>
    refine Or.inr ⟨fun hmem => ?_, rfl⟩
    have habsent := List.findIdx?_eq_none_iff.mp hfind device hmem
    rw [(device.isPresent_iff device).mpr rfl] at habsent
    cases habsent
  | some it =>
    obtain ⟨before, x, after, hdevices, hx, hbefore, herase⟩ := erase_first _ hfind
    obtain rfl := (x.isPresent_iff device).mp hx
    refine Or.inl ⟨before, after, hdevices, fun hmem => ?_, by rw [← herase]⟩
    have hpresent := hbefore x hmem
    rw [(x.isPresent_iff x).mpr rfl] at hpresent
    cases hpresent

end IoModule

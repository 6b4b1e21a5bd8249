import IoModule.Devices.Effects
import IoModule.Server.System

/-!
# A command from the HTTP API to the device

A message of the HTTP API goes a long way: `wait_for_command` decodes its
payload, `pop_command` writes the command again, the gateway checks the text with
`command_data_valid` and hands it to `generate_command`, and the device decodes
what comes out. In every run, whatever the environment:

- `command_path`: each text handed out passes the check of every supported
  device, `generate_command` hands it on unchanged, and the device decodes
  exactly what the payload of its message decodes to. The device id next to it
  is the one of the message, with priority 0.
- `order_harmless`: the queue hands commands out in the wrong order, but once it
  is empty, a device whose commands have commuting effects is in the state it
  would be in had they been executed as they were received.
-/

namespace IoModule

variable (N : JsonText)

/-- What a device of a type makes of a text handed out for it: it decodes what
`generate_command` hands on, and executes it. -/
def DeviceStatus.follow (deviceType : UInt32) {I O : Nat} (s : DeviceStatus I O) (text : Bytes) :
    DeviceStatus I O :=
  match generateCommand true .null .null (.data text) deviceType with
  | some generated => s.execute (DeviceCommand.fresh.deserializeFromBuffer N (.data generated)).2
  | none => s

namespace System

/-- The texts handed out for a device. -/
def textsFor (s : System) (device : DeviceIdentification) : List Bytes :=
  (s.returned.filter fun r => r.device = device).map Returned.text

/-- The commands queued for a device, as they were received. -/
def commandsFor (s : System) (device : DeviceIdentification) : List DeviceCommand :=
  (s.enqueued.filter fun e => e.device = device).map QueuedCommand.command

/-- Each command was handed out with its own device. -/
def DevicesKept (s : System) : Prop := ∀ r ∈ s.returned, r.device = r.command.device

variable {N}

theorem DevicesKept.apply {s s' : System} {e : Event} (h : s.DevicesKept)
    (hs : s.apply N e = some s') : s'.DevicesKept := by
  rcases apply_cases hs with ⟨m, -, rfl⟩ | ⟨-, rfl⟩ |
    ⟨_, _, _, _, _, -, -, rfl⟩ | ⟨_, _, -, -, rfl⟩ | ⟨_, -, rfl⟩
  · exact h
  · exact h
  · exact h
  · exact List.forall_mem_append.mpr ⟨h, List.forall_mem_singleton.mpr rfl⟩
  · exact h

theorem run_devicesKept {allows : System → Event → Prop} {backlog : List Message} {s : System}
    (h : Run (System.apply N) allows (.withBacklog backlog) s) : s.DevicesKept :=
  h.inv (P := DevicesKept) (fun _ _ ⟨_, _, happly⟩ hkept => hkept.apply happly)
    fun _ hr => absurd hr List.not_mem_nil

/-- The text handed out for a command decodes to it. -/
theorem Sound.deserialize_text (hN : N.Lossless) {s : System} (h : s.Sound N) {r : Returned}
    (hr : r ∈ s.returned) :
    DeviceCommand.fresh.deserializeFromBuffer N (.data r.text) = (.ok .ok, r.command.command) := by
  rw [h.text_eq r hr]
  exact DeviceCommand.deserialize_dump N hN _

/-- **The path of a command.** In every run, in any environment, each text
that was handed out is a valid command for every supported device type,
`generate_command` of each of them copies it, and it decodes to the same command
as the payload of the message it was made from. That message was one for the IO
module, and the text was handed out for the device that it names. -/
theorem command_path (hN : N.Lossless) {allows : System → Event → Prop} {backlog : List Message}
    {s : System} (h : Run (System.apply N) allows (.withBacklog backlog) s) :
    ∀ r ∈ s.returned, ∃ c m, m = r.command.source ∧ m.forIoModule = true
      ∧ DeviceCommand.fresh.deserializeFromBuffer N (.data m.payload) = (.ok .ok, c)
      ∧ DeviceCommand.fresh.deserializeFromBuffer N (.data r.text) = (.ok .ok, c)
      ∧ r.device = ⟨ioModuleNumber, m.type.toUInt32, 0, m.role, m.name⟩
      ∧ ∀ deviceType, isDeviceTypeSupported deviceType = .ok →
        commandDataValid N (.data r.text) deviceType = .ok .ok
        ∧ ∀ granted newStatus currentStatus,
          generateCommand granted newStatus currentStatus (.data r.text) deviceType
            = allocate granted r.text := by
  intro r hr
  have hsound : s.Sound N := run_sound h (sound_withBacklog backlog)
  have hqueued : r.command ∈ s.enqueued :=
    hsound.conserved.mem_iff.mp (List.mem_append_left _ (List.mem_map_of_mem hr))
  have hgenuine := hsound.genuine _ hqueued
  have htext := hsound.deserialize_text hN hr
  have hmodule : r.command.source.moduleId = ioModuleNumber := by
    simpa [Message.forIoModule] using hgenuine.forIoModule
  refine ⟨r.command.command, _, rfl, hgenuine.forIoModule, hgenuine.decoded, htext, ?_,
    fun deviceType hsupported => ⟨?_, fun granted newStatus currentStatus => ?_⟩⟩
  · rw [run_devicesKept h r hr, hgenuine.queued_eq, ← hmodule]
    rfl
  · rw [supported_commandDataValid hsupported]
    exact congrArg Prod.fst htext
  · exact supported_generateCommand hsupported granted newStatus currentStatus (.data r.text)

/-- A command that is polled, and handed out to the gateway. -/
theorem command_path_one : ∃ s : System, s.returned.length = 1 ∧
    ∀ r ∈ s.returned, ∃ c m, m = r.command.source ∧ m.forIoModule = true
      ∧ DeviceCommand.fresh.deserializeFromBuffer .compact (.data m.payload) = (.ok .ok, c)
      ∧ DeviceCommand.fresh.deserializeFromBuffer .compact (.data r.text) = (.ok .ok, c)
      ∧ r.device = ⟨ioModuleNumber, m.type.toUInt32, 0, m.role, m.name⟩
      ∧ ∀ deviceType, isDeviceTypeSupported deviceType = .ok →
        commandDataValid .compact (.data r.text) deviceType = .ok .ok
        ∧ ∀ granted newStatus currentStatus,
          generateCommand granted newStatus currentStatus (.data r.text) deviceType
            = allocate granted r.text := by
  have hplay : (play (System.apply .compact) (fun _ _ => True)
      [.wait (.commands [] true), .wait (.commands [.forOpta 0 10 switchOn] true),
        .pop ⟨true, true, true⟩] .initial).any (fun s => s.returned.length = 1) = true := by
    decide +kernel
  obtain ⟨s, hrun, hlen⟩ := exists_run_of_play hplay
  exact ⟨s, of_decide_eq_true hlen, command_path JsonText.compact_lossless hrun⟩

/-! ## The order of the commands -/

/-- A device that follows a text executes the command it was written for. -/
theorem Sound.follow_eq (hN : N.Lossless) {s : System} (h : s.Sound N) {r : Returned}
    (hr : r ∈ s.returned) {deviceType : UInt32} (hsupported : isDeviceTypeSupported deviceType = .ok)
    {I O : Nat} (status : DeviceStatus I O) :
    status.follow N deviceType r.text = status.execute r.command.command := by
  unfold DeviceStatus.follow
  rw [supported_generateCommand hsupported]
  show status.execute (DeviceCommand.fresh.deserializeFromBuffer N (.data r.text)).2 = _
  rw [h.deserialize_text hN hr]

/-- Following the texts for a device is executing the commands handed out for
it. -/
theorem Sound.foldl_follow (hN : N.Lossless) {s : System} (h : s.Sound N) (hkept : s.DevicesKept)
    {device : DeviceIdentification} (hsupported : isDeviceTypeSupported device.deviceType = .ok)
    {I O : Nat} (status : DeviceStatus I O) :
    (s.textsFor device).foldl (DeviceStatus.follow N device.deviceType) status
      = (((s.returned.map Returned.command).filter fun e => e.device = device).map
        QueuedCommand.command).foldl DeviceStatus.execute status := by
  have hfilter : (s.returned.map Returned.command).filter (fun e => e.device = device)
      = (s.returned.filter fun r => r.device = device).map Returned.command := by
    rw [List.filter_map]
    refine congrArg _ (List.filter_congr fun r hr => ?_)
    rw [Function.comp_apply, hkept r hr]
  unfold textsFor
  rw [hfilter, List.map_map, List.foldl_map, List.foldl_map]
  refine List.foldl_ext _ _ _ fun status r hr => ?_
  exact h.follow_eq hN (List.mem_filter.mp hr).1 hsupported status

/-- **The order is harmless where effects commute.** In every run that ends
with an empty queue, take a supported device such that any two commands queued
for it have commuting effects on each of its outputs. When it follows all texts
handed out for it, it arrives at the status it would have arrived at by the same
commands in the order they were received. -/
theorem order_harmless (hN : N.Lossless) {allows : System → Event → Prop} {backlog : List Message}
    {s : System} (h : Run (System.apply N) allows (.withBacklog backlog) s)
    (hempty : s.con.commandVector = []) (device : DeviceIdentification)
    (hsupported : isDeviceTypeSupported device.deviceType = .ok)
    (hcommute : ∀ c ∈ s.commandsFor device, ∀ c' ∈ s.commandsFor device,
      ∀ k < outputsCount device.deviceType, ∀ state,
        c'.effect k (c.effect k state) = c.effect k (c'.effect k state))
    (status : DeviceStatus (inputsCount device.deviceType) (outputsCount device.deviceType)) :
    (s.textsFor device).foldl (DeviceStatus.follow N device.deviceType) status
      = (s.commandsFor device).foldl DeviceStatus.execute status := by
  have hsound : s.Sound N := run_sound h (sound_withBacklog backlog)
  have hperm := hsound.conserved
  rw [hempty, List.append_nil] at hperm
  rw [hsound.foldl_follow hN (run_devicesKept h) hsupported]
  have hcommands : ((((s.returned.map Returned.command).filter fun e => e.device = device).map
      QueuedCommand.command)).Perm (s.commandsFor device) :=
    (hperm.filter _).map _
  refine (hcommands.symm.foldl_eq' (fun c hc c' hc' t => ?_) status).symm
  exact (DeviceStatus.execute_comm_iff c c').mpr (hcommute c hc c' hc') t

/-- A payload: output 2 reversed. -/
def toggleSecond : String := "[\x7b\"outNum\":2,\"actType\":2\x7d]"

/-- The gate in the messages for an Opta. -/
def optaGate : DeviceIdentification :=
  ⟨ioModuleNumber, arduinoOptaDeviceType, 0, Json.ascii "opta", Json.ascii "gate"⟩

/-- Two commands wait and are handed out the younger one first, but one
switches output 1 and the other output 2. -/
theorem order_harmless_two : ∃ s : System,
    s.returned.map (fun r => r.command.source.id) = [1, 0]
      ∧ ∀ status : DeviceStatus (inputsCount optaGate.deviceType) (outputsCount optaGate.deviceType),
        (s.textsFor optaGate).foldl (DeviceStatus.follow .compact optaGate.deviceType) status
          = (s.commandsFor optaGate).foldl DeviceStatus.execute status := by
  have hplay : (play (System.apply .compact) (fun _ _ => True)
      [.wait (.commands [] true),
        .wait (.commands [.forOpta 0 10 switchOn, .forOpta 1 20 toggleSecond] true),
        .pop ⟨true, true, true⟩, .pop ⟨true, true, true⟩] .initial).any
      (fun s => s.returned.map (fun r => r.command.source.id) = [1, 0]
        ∧ s.con.commandVector = []
        ∧ ∀ c ∈ s.commandsFor optaGate, ∀ c' ∈ s.commandsFor optaGate,
          ∀ k < outputsCount optaGate.deviceType, ∀ state,
            c'.effect k (c.effect k state) = c.effect k (c'.effect k state)) = true := by
    decide +kernel
  obtain ⟨s, hrun, hs⟩ := exists_run_of_play hplay
  obtain ⟨hids, hempty, hcommute⟩ := of_decide_eq_true hs
  exact ⟨s, hids, order_harmless JsonText.compact_lossless hrun hempty optaGate rfl hcommute⟩

end System

end IoModule

import Mathlib.Data.List.Forall2
import IoModule.Heap
import IoModule.Server.Api
import IoModule.Server.HighWater

/-!
# The memory behind a context

The API allocates and frees by hand. A registered device owns two buffers, for
its role and its name, which `device_connected` allocates one after the other
and `device_disconnected` deallocates; `wait_for_command` copies each payload
into a buffer before it is read; `pop_command` allocates three for its caller.
Here the functions of `external_server_api.cpp` are given once more, on a
`Heap`, with addresses where the other modules have the bytes.

A context on the heap `Represents` the context of the other modules when each
of its buffers reads as the bytes it stands for. Each function is given one
lemma: it does on the heap what it does on the values, all blocks it owns it
still owns, no other block changes, and so many blocks are left behind
(`connect_stored`, `disconnect_stored`, `wait_stored`, `pop_stored`).

Reading notes:
- A context is a block of its own, so that the `delete` of it can be seen.
- `createBufferAndCopyData` is outside this repository: it puts the text into a
  new buffer.
- What the queue holds frees itself; only the buffers are tracked.
-/

namespace IoModule

/-! ## Buffers -/

/-- `struct buffer` in memory. -/
structure HeapBuffer where
  data : Nat
  sizeInBytes : Nat
deriving DecidableEq, Repr

/-- `allocate`, and the `memcpy` of the contents. -/
def allocateAt (granted : Bool) (contents : Bytes) (heap : Heap Bytes) :
    Option (HeapBuffer × Heap Bytes) :=
  if granted then
    let (data, heap) := heap.new contents
    some (⟨data, contents.length⟩, heap)
  else none

/-- `deallocate`. The buffer is not used again, so it need not be nulled. -/
def HeapBuffer.deallocate (b : HeapBuffer) (heap : Heap Bytes) : Option (Heap Bytes) :=
  heap.delete b.data

/-- The bytes a `string_view` over the buffer shows; undefined if they are not
all there. -/
def HeapBuffer.view (b : HeapBuffer) (heap : Heap Bytes) : Option Bytes :=
  match heap.read b.data with
  | none => none
  | some bytes => if b.sizeInBytes ≤ bytes.length then some (bytes.take b.sizeInBytes) else none

/-- The buffer is live and holds the bytes. -/
structure HeapBuffer.Holds (heap : Heap Bytes) (b : HeapBuffer) (bytes : Bytes) : Prop where
  read_eq : heap.read b.data = some bytes
  size_eq : b.sizeInBytes = bytes.length

namespace HeapBuffer.Holds

variable {heap heap' : Heap Bytes} {b : HeapBuffer} {bytes : Bytes}

theorem live (h : b.Holds heap bytes) : b.data ∈ heap.live := Heap.live_of_read h.read_eq

/-- A buffer that holds bytes shows them all. -/
theorem view_eq (h : b.Holds heap bytes) : b.view heap = some bytes := by
  unfold HeapBuffer.view
  rw [h.read_eq]
  show (if b.sizeInBytes ≤ bytes.length then _ else _) = _
  rw [h.size_eq, if_pos (Nat.le_refl _), List.take_length]

/-- A block that has not changed holds what it held. -/
theorem frame (h : b.Holds heap bytes) (hsame : heap'.read b.data = heap.read b.data) :
    b.Holds heap' bytes := ⟨hsame.trans h.read_eq, h.size_eq⟩

/-- A new block does not matter. -/
theorem frame_new (h : b.Holds heap bytes) (contents : Bytes) :
    b.Holds (heap.new contents).2 bytes := h.frame (Heap.read_new_of_live h.live contents)

end HeapBuffer.Holds

/-- A new buffer holds what was copied into it. -/
theorem holds_new (heap : Heap Bytes) (contents : Bytes) :
    (HeapBuffer.mk (heap.new contents).1 contents.length).Holds (heap.new contents).2 contents :=
  ⟨heap.read_new contents, rfl⟩

/-! ## Devices and contexts -/

/-- `device_identification`, its role and its name in memory. -/
structure HeapDevice where
  moduleId : Int32
  deviceType : UInt32
  priority : UInt32
  deviceRole : HeapBuffer
  deviceName : HeapBuffer
deriving DecidableEq, Repr

/-- The blocks of a device. -/
def HeapDevice.blocks (it : HeapDevice) : List Nat := [it.deviceRole.data, it.deviceName.data]

/-- The device in memory is the device. -/
structure HeapDevice.Holds (heap : Heap Bytes) (it : HeapDevice) (device : DeviceIdentification) :
    Prop where
  moduleId_eq : it.moduleId = device.moduleId
  deviceType_eq : it.deviceType = device.deviceType
  priority_eq : it.priority = device.priority
  deviceRole : it.deviceRole.Holds heap device.deviceRole
  deviceName : it.deviceName.Holds heap device.deviceName

/-- A device whose blocks have not changed is what it was. -/
theorem HeapDevice.Holds.frame {heap heap' : Heap Bytes} {it : HeapDevice}
    {device : DeviceIdentification} (h : it.Holds heap device)
    (hsame : ∀ p ∈ it.blocks, heap'.read p = heap.read p) : it.Holds heap' device where
  moduleId_eq := h.moduleId_eq
  deviceType_eq := h.deviceType_eq
  priority_eq := h.priority_eq
  deviceRole := h.deviceRole.frame (hsame _ (List.mem_cons_self ..))
  deviceName := h.deviceName.frame (hsame _ (List.mem_cons_of_mem _ (List.mem_cons_self ..)))

/-- `struct context`, at its address. -/
structure HeapContext where
  address : Nat
  devices : List HeapDevice
  commandVector : List QueuedCommand
  lastCommandTimestamp : Int64
deriving DecidableEq, Repr

/-- The blocks of the registered devices. -/
def deviceBlocks (devices : List HeapDevice) : List Nat := devices.flatMap HeapDevice.blocks

/-- Two for each device. -/
theorem deviceBlocks_length : ∀ its : List HeapDevice, (deviceBlocks its).length = 2 * its.length := by
  intro its
  induction its with
  | nil => rfl
  | cons it its ih =>
    show (it.blocks ++ deviceBlocks its).length = _
    rw [List.length_append, ih, List.length_cons, Nat.mul_succ, Nat.add_comm]
    rfl

/-- The blocks of a context: its own and those of its devices. -/
def HeapContext.blocks (con : HeapContext) : List Nat := con.address :: deviceBlocks con.devices

/-- The context in memory is the context. -/
structure HeapContext.Represents (heap : Heap Bytes) (hcon : HeapContext) (con : Context) : Prop where
  devices : List.Forall₂ (HeapDevice.Holds heap) hcon.devices con.devices
  commandVector_eq : hcon.commandVector = con.commandVector
  lastCommandTimestamp_eq : hcon.lastCommandTimestamp = con.lastCommandTimestamp

/-! ## The functions -/

/-- `device_connected` on a context. The blocks allocated before a failure are
not freed. -/
def HeapContext.deviceConnected (granted : ConnectGrants) (device : DeviceIdentification)
    (con : HeapContext) (heap : Heap Bytes) : Option ReturnCode × HeapContext × Heap Bytes :=
  match allocateAt granted.deviceRole device.deviceRole heap with
  | none => (some .notOk, con, heap)
  | some (deviceRole, heap) =>
    match allocateAt granted.deviceName device.deviceName heap with
    | none => (some .notOk, con, heap)
    | some (deviceName, heap) =>
      if granted.entry then
        (some .ok, { con with devices := con.devices
          ++ [⟨device.moduleId, device.deviceType, device.priority, deviceRole, deviceName⟩] }, heap)
      else (none, con, heap)

/-- `device_is_present`. The name is looked at only if type and role agree. -/
def HeapDevice.isPresent (it : HeapDevice) (device : DeviceIdentification) (heap : Heap Bytes) :
    Option Bool :=
  if it.deviceType == device.deviceType then do
    let deviceRole ← it.deviceRole.view heap
    if deviceRole == device.deviceRole then do
      let deviceName ← it.deviceName.view heap
      return deviceName == device.deviceName && it.moduleId == device.moduleId
        && it.priority == device.priority
    else return false
  else return false

/-- The loop of `device_disconnected`. -/
def disconnectFrom (device : DeviceIdentification) :
    List HeapDevice → Heap Bytes → Option (ReturnCode × List HeapDevice × Heap Bytes)
  | [], heap => some (.notOk, [], heap)
  | it :: its, heap => do
    if ← it.isPresent device heap then
      let heap ← it.deviceRole.deallocate heap
      let heap ← it.deviceName.deallocate heap
      return (.ok, its, heap)
    else
      let (rc, its, heap) ← disconnectFrom device its heap
      return (rc, it :: its, heap)

/-- `device_disconnected` on a context. -/
def HeapContext.deviceDisconnected (_disconnectType : Int32) (device : DeviceIdentification)
    (con : HeapContext) (heap : Heap Bytes) : Option (ReturnCode × HeapContext × Heap Bytes) := do
  let (rc, devices, heap) ← disconnectFrom device con.devices heap
  return (rc, { con with devices := devices }, heap)

variable (N : JsonText)

/-- The state of the loop over the received commands. -/
structure HeapScan where
  con : HeapContext
  receivedNoCommands : Bool
  heap : Heap Bytes

/-- One round of the loop. The buffer the payload is copied into is not
freed. -/
def scanCommandAt (parseCommands : Bool) (command : Message) (s : HeapScan) :
    Option (Except JsonError ReturnCode) × HeapScan :=
  let timestamp := s.con.lastCommandTimestamp
  let con := { s.con with
    lastCommandTimestamp := if command.timestamp > timestamp then command.timestamp else timestamp }
  if command.forIoModule then
    if parseCommands then
      let (commandBuff, heap) := s.heap.new command.payload
      let contents := match heap.read commandBuff with
        | some bytes => Buffer.data bytes
        | none => Buffer.null
      match DeviceCommand.fresh.deserializeFromBuffer N contents with
      | (.error e, _) => (some (.error e), ⟨con, false, heap⟩)
      | (.ok rc, commandObj) =>
        if rc = .notOk then (some (.ok .notOk), ⟨con, false, heap⟩)
        else
          (none, ⟨{ con with commandVector := con.commandVector ++ [command.queued commandObj] },
            false, heap⟩)
    else (none, ⟨con, false, s.heap⟩)
  else (none, ⟨con, s.receivedNoCommands, s.heap⟩)

/-- `wait_for_command` on a context. -/
def HeapContext.waitForCommand (getCommands : Int64 → Answer) (con : HeapContext)
    (heap : Heap Bytes) : Except JsonError ReturnCode × HeapContext × Heap Bytes :=
  let parseCommands := con.lastCommandTimestamp != 0
  match getCommands (con.lastCommandTimestamp + 1) with
  | .throws => (.ok .timeoutOccurred, con, heap)
  | .commands messages _ =>
    match forEach (scanCommandAt N parseCommands) messages ⟨con, true, heap⟩ with
    | (some result, s) => (result, s.con, s.heap)
    | (none, s) =>
      let con :=
        if s.receivedNoCommands && !parseCommands then { s.con with lastCommandTimestamp := 1 }
        else s.con
      (.ok (if s.receivedNoCommands || !parseCommands then .timeoutOccurred else .ok), con, s.heap)

/-- What a pop returns: an error code, or buffers for the caller and the
number of commands left. -/
inductive HeapPopped where
  | failed (rc : ReturnCode)
  | done (command : HeapBuffer) (device : HeapDevice) (remaining : Int32)
deriving DecidableEq, Repr

/-- `pop_command` on a context. -/
def HeapContext.popCommand (granted : PopGrants) (con : HeapContext) (heap : Heap Bytes) :
    Option (Except JsonError HeapPopped × HeapContext × Heap Bytes) :=
  match con.commandVector.getLast? with
  | none => none
  | some ⟨commandObject, deviceId, _⟩ =>
    match commandObject.toJson with
    | .error e => some (.error e, con, heap)
    | .ok j =>
      match allocateAt granted.command (N.dump j) heap with
      | none => some (.ok (.failed .notOk), con, heap)
      | some (command, heap) =>
        match allocateAt granted.deviceRole deviceId.deviceRole heap with
        | none => some (.ok (.failed .notOk), con, heap)
        | some (deviceRole, heap) =>
          match allocateAt granted.deviceName deviceId.deviceName heap with
          | none => some (.ok (.failed .notOk), con, heap)
          | some (deviceName, heap) =>
            let con := { con with commandVector := con.commandVector.dropLast }
            some (.ok (.done command
              ⟨deviceId.moduleId, deviceId.deviceType, deviceId.priority, deviceRole, deviceName⟩
              (Int32.ofNat con.commandVector.length)), con, heap)

variable {N}

/-! ## What is stored -/

/-- The blocks are as they were. -/
def Unchanged (heap heap' : Heap Bytes) (ps : List Nat) : Prop :=
  ∀ p ∈ ps, heap'.read p = heap.read p

/-- New blocks change none that was owned. -/
theorem unchanged_new {heap : Heap Bytes} {ps owned : List Nat} (h : heap.Owned owned)
    (hps : ∀ p ∈ ps, p ∈ owned) (contents : Bytes) : Unchanged heap (heap.new contents).2 ps :=
  fun p hp => Heap.read_new_of_live (h.mem_live (hps p hp)) contents

theorem Unchanged.trans {heap heap' heap'' : Heap Bytes} {ps : List Nat}
    (h : Unchanged heap heap' ps) (h' : Unchanged heap' heap'' ps) : Unchanged heap heap'' ps :=
  fun p hp => (h' p hp).trans (h p hp)

/-- Devices whose blocks have not changed are what they were. -/
theorem devices_frame {heap heap' : Heap Bytes} {its : List HeapDevice}
    {devices : List DeviceIdentification} (h : List.Forall₂ (HeapDevice.Holds heap) its devices)
    (hsame : Unchanged heap heap' (deviceBlocks its)) :
    List.Forall₂ (HeapDevice.Holds heap') its devices := by
  induction h with
  | nil => exact .nil
  | cons hit _ ih =>
    refine .cons (hit.frame fun p hp => hsame p ?_) (ih fun p hp => hsame p ?_)
    · exact List.mem_append_left _ hp
    · exact List.mem_append_right _ hp

/-- The context in memory is the context, and the heap is its blocks and
`others`. -/
structure Stored (heap : Heap Bytes) (hcon : HeapContext) (con : Context) (others : List Nat) :
    Prop where
  represents : hcon.Represents heap con
  owned : heap.Owned (hcon.blocks ++ others)

namespace Stored

variable {heap : Heap Bytes} {hcon : HeapContext} {con : Context} {others : List Nat}

theorem unchanged_new (h : Stored heap hcon con others) (contents : Bytes) :
    Unchanged heap (heap.new contents).2 others :=
  IoModule.unchanged_new h.owned (fun _ hp => List.mem_append_right _ hp) contents

/-- A new block is one of the others. -/
theorem new (h : Stored heap hcon con others) (contents : Bytes) :
    Stored (heap.new contents).2 hcon con ((heap.new contents).1 :: others) where
  represents :=
    { devices := devices_frame h.represents.devices
        (IoModule.unchanged_new h.owned
          (fun _ hp => List.mem_append_left _ (List.mem_cons_of_mem _ hp)) contents)
      commandVector_eq := h.represents.commandVector_eq
      lastCommandTimestamp_eq := h.represents.lastCommandTimestamp_eq }
  owned := (h.owned.new contents).perm List.perm_middle.symm

/-- A context owns one block and two for each device. -/
theorem blocks_length (h : Stored heap hcon con others) :
    hcon.blocks.length = 1 + 2 * con.devices.length := by
  show (deviceBlocks hcon.devices).length + 1 = _
  rw [deviceBlocks_length, h.represents.devices.length_eq, Nat.add_comm]

/-- The order of the others does not matter. -/
theorem reorder (h : Stored heap hcon con others) {others' : List Nat}
    (hperm : others.Perm others') : Stored heap hcon con others' :=
  ⟨h.represents, h.owned.perm (List.Perm.append_left _ hperm)⟩

/-- Two of the others become a device of the context. -/
theorem register (h : Stored heap hcon con others) {it : HeapDevice} {device : DeviceIdentification}
    {rest : List Nat} (hothers : others = it.deviceName.data :: it.deviceRole.data :: rest)
    (hit : it.Holds heap device) :
    Stored heap { hcon with devices := hcon.devices ++ [it] }
      { con with devices := con.devices ++ [device] } rest where
  represents :=
    { devices := List.rel_append h.represents.devices (.cons hit .nil)
      commandVector_eq := h.represents.commandVector_eq
      lastCommandTimestamp_eq := h.represents.lastCommandTimestamp_eq }
  owned := by
    refine h.owned.perm ?_
    have hblocks : deviceBlocks (hcon.devices ++ [it])
        = deviceBlocks hcon.devices ++ [it.deviceRole.data, it.deviceName.data] := by
      simp [deviceBlocks, HeapDevice.blocks]
    show (hcon.address :: deviceBlocks hcon.devices ++ others).Perm
      (hcon.address :: deviceBlocks (hcon.devices ++ [it]) ++ rest)
    rw [hothers, hblocks, ← List.cons_append, List.append_assoc]
    exact List.Perm.append_left _ (.swap ..)

end Stored

/-! ## One call -/

section Calls

variable {heap : Heap Bytes} {hcon : HeapContext} {con : Context} {others : List Nat}

/-- The blocks left behind by a function that needs three things and fails at
the first it does not get: those allocated before. -/
def leftBehind (first second third : Bool) : Nat :=
  if first then if second then if third then 0 else 2 else 1 else 0

/-- **One connect in memory.** -/
theorem connect_stored (h : Stored heap hcon con others) (granted : ConnectGrants)
    (device : DeviceIdentification) :
    ∃ hcon' heap' left, hcon.deviceConnected granted device heap
        = ((con.deviceConnected granted device).1, hcon', heap')
      ∧ Stored heap' hcon' (con.deviceConnected granted device).2 (left ++ others)
      ∧ left.length = leftBehind granted.deviceRole granted.deviceName granted.entry
      ∧ Unchanged heap heap' others := by
  obtain ⟨grantedRole, grantedName, grantedEntry⟩ := granted
  cases grantedRole with
  | false => exact ⟨hcon, heap, [], rfl, h, rfl, fun _ _ => rfl⟩
  | true =>
    have hrole := h.new device.deviceRole
    cases grantedName with
    | false => exact ⟨hcon, _, [_], rfl, hrole, rfl, h.unchanged_new device.deviceRole⟩
    | true =>
      have hname := hrole.new device.deviceName
      have hsame : Unchanged heap
          ((heap.new device.deviceRole).2.new device.deviceName).2 others :=
        (h.unchanged_new device.deviceRole).trans fun p hp =>
          hrole.unchanged_new device.deviceName p (List.mem_cons_of_mem _ hp)
      cases grantedEntry with
      | false => exact ⟨hcon, _, [_, _], rfl, hname, rfl, hsame⟩
      | true =>
        refine ⟨_, _, [], rfl, hname.register rfl ⟨rfl, rfl, rfl, ?_, ?_⟩, rfl, hsame⟩
        · exact (holds_new heap device.deviceRole).frame_new device.deviceName
        · exact holds_new (heap.new device.deviceRole).2 device.deviceName

/-- A device in memory is compared as the device it is. -/
theorem isPresent_eq {it : HeapDevice} {device : DeviceIdentification}
    (h : it.Holds heap device) (wanted : DeviceIdentification) :
    it.isPresent wanted heap = some (decide (device = wanted)) := by
  have hpresent : it.isPresent wanted heap = some (device.isPresent wanted) := by
    unfold HeapDevice.isPresent DeviceIdentification.isPresent
    rw [h.moduleId_eq, h.deviceType_eq, h.priority_eq, h.deviceRole.view_eq, h.deviceName.view_eq]
    cases device.deviceType == wanted.deviceType with
    | false => rfl
    | true =>
      by_cases hrole : device.deviceRole = wanted.deviceRole
      · simp [hrole]
      · simp [hrole]
  rw [hpresent, Option.some.injEq, Bool.eq_iff_iff, device.isPresent_iff, decide_eq_true_eq]

/-- The loop of a disconnect: the first device that agrees is deallocated and
erased, and every other block stays as it is. -/
theorem disconnectFrom_stored (device : DeviceIdentification) {its : List HeapDevice}
    {devices : List DeviceIdentification} (h : List.Forall₂ (HeapDevice.Holds heap) its devices) :
    ∀ {others : List Nat}, heap.Owned (deviceBlocks its ++ others) →
      ∃ its' heap', disconnectFrom device its heap
          = some (if device ∈ devices then .ok else .notOk, its', heap')
        ∧ List.Forall₂ (HeapDevice.Holds heap') its' (devices.erase device)
        ∧ heap'.Owned (deviceBlocks its' ++ others) ∧ Unchanged heap heap' others := by
  induction h with
  | nil => exact fun howned => ⟨[], heap, rfl, .nil, howned, fun _ _ => rfl⟩
  | @cons it d its devices hit hrest ih =>
    intro others howned
    rw [disconnectFrom, isPresent_eq hit]
    by_cases hd : d = device
    · subst hd
      -- its two blocks are freed, and nobody else has them
      obtain ⟨heap₁, hrole, howned₁, hsame₁⟩ := Heap.Owned.delete howned
      obtain ⟨heap₂, hname, howned₂, hsame₂⟩ := Heap.Owned.delete howned₁
      have hsame : Unchanged heap heap₂ (deviceBlocks its ++ others) :=
        fun p hp => (hsame₂ p hp).trans (hsame₁ p (List.mem_cons_of_mem _ hp))
      refine ⟨its, heap₂, ?_, ?_, howned₂, fun p hp => hsame p (List.mem_append_right _ hp)⟩
      · rw [if_pos (List.mem_cons_self ..)]
        simp [HeapBuffer.deallocate, hrole, hname]
      · rw [List.erase_cons_head]
        exact devices_frame hrest fun p hp => hsame p (List.mem_append_left _ hp)
    · -- the blocks of this device are among the others of the rest
      have hmoved : heap.Owned (deviceBlocks its ++ (it.blocks ++ others)) := by
        refine howned.perm ?_
        show (it.blocks ++ deviceBlocks its ++ others).Perm _
        rw [← List.append_assoc]
        exact List.Perm.append_right _ List.perm_append_comm
      obtain ⟨its', heap', hloop, hits, howned', hsame⟩ := ih hmoved
      refine ⟨it :: its', heap', ?_, ?_, ?_, fun p hp => hsame p (List.mem_append_right _ hp)⟩
      · simp [hd, hloop, List.mem_cons, Ne.symm hd]
      · rw [List.erase_cons_tail (by simpa using hd)]
        exact .cons (hit.frame fun p hp => hsame p (List.mem_append_left _ hp)) hits
      · refine howned'.perm ?_
        show (deviceBlocks its' ++ (it.blocks ++ others)).Perm
          (it.blocks ++ deviceBlocks its' ++ others)
        rw [← List.append_assoc]
        exact List.Perm.append_right _ List.perm_append_comm

/-- A disconnect, as the removal of the first occurrence. -/
theorem disconnect_eq_erase (disconnectType : Int32) (device : DeviceIdentification)
    (con : Context) :
    con.deviceDisconnected disconnectType device
      = (if device ∈ con.devices then .ok else .notOk,
        { con with devices := con.devices.erase device }) := by
  rcases disconnect_cases disconnectType device con with
    ⟨before, after, hdevices, hfirst, hcall⟩ | ⟨habsent, hcall⟩
  · have hmem : device ∈ con.devices := hdevices ▸ List.mem_append_right _ (List.mem_cons_self ..)
    rw [hcall, if_pos hmem, hdevices, List.erase_append_right _ hfirst, List.erase_cons_head]
  · rw [hcall, if_neg habsent, List.erase_of_not_mem habsent]

/-- **One disconnect in memory.** Nothing is left behind. -/
theorem disconnect_stored (h : Stored heap hcon con others) (disconnectType : Int32)
    (device : DeviceIdentification) :
    ∃ hcon' heap', hcon.deviceDisconnected disconnectType device heap
        = some ((con.deviceDisconnected disconnectType device).1, hcon', heap')
      ∧ Stored heap' hcon' (con.deviceDisconnected disconnectType device).2 others
      ∧ Unchanged heap heap' others := by
  have hmoved : heap.Owned (deviceBlocks hcon.devices ++ (hcon.address :: others)) :=
    h.owned.perm List.perm_middle.symm
  obtain ⟨its', heap', hloop, hits, howned, hsame⟩ :=
    disconnectFrom_stored device h.represents.devices hmoved
  rw [disconnect_eq_erase]
  refine ⟨{ hcon with devices := its' }, heap', ?_, ⟨⟨hits, ?_, ?_⟩, ?_⟩, ?_⟩
  · simp [HeapContext.deviceDisconnected, hloop]
  · exact h.represents.commandVector_eq
  · exact h.represents.lastCommandTimestamp_eq
  · exact howned.perm List.perm_middle
  · exact fun p hp => hsame p (List.mem_cons_of_mem _ hp)

/-- The payloads a poll copies: those of the commands it looks at, unless it is
the first one. -/
def Context.copies (N : JsonText) (con : Context) : Answer → Nat
  | .throws => 0
  | .commands messages _ =>
    if con.lastCommandTimestamp = 0 then 0
    else ((lookedAt N messages).filter Message.forIoModule).length

/-- The loop in memory is where the loop is. -/
structure HeapScan.Follows (hs : HeapScan) (s : Scan) (others : List Nat) : Prop where
  stored : Stored hs.heap hs.con s.con others
  received_eq : hs.receivedNoCommands = s.receivedNoCommands

/-- A round in memory: it copies the payload of a command that is parsed. -/
theorem scanCommandAt_follows (parseCommands : Bool) (m : Message) {hs : HeapScan} {s : Scan}
    (h : hs.Follows s others) :
    ∃ hs' left, scanCommandAt N parseCommands m hs = ((scanCommand N parseCommands m s).1, hs')
      ∧ hs'.Follows (scanCommand N parseCommands m s).2 (left ++ others)
      ∧ left.length = (if m.forIoModule && parseCommands then 1 else 0)
      ∧ Unchanged hs.heap hs'.heap others := by
  obtain ⟨⟨address, its, vector, timestamp⟩, received, heap⟩ := hs
  obtain ⟨⟨devices, vector', timestamp'⟩, received'⟩ := s
  obtain ⟨hstored, hreceived⟩ := h
  have hnew := hstored.new m.payload
  have hsame := hstored.unchanged_new m.payload
  obtain ⟨⟨hdevices, hvector, htime⟩, howned⟩ := hstored
  dsimp only at hdevices hvector htime howned hreceived hnew hsame
  subst hvector htime hreceived
  unfold scanCommandAt scanCommand
  cases m.forIoModule with
  | false => exact ⟨_, [], rfl, ⟨⟨⟨hdevices, rfl, rfl⟩, howned⟩, rfl⟩, rfl, fun _ _ => rfl⟩
  | true =>
    cases parseCommands with
    | false => exact ⟨_, [], rfl, ⟨⟨⟨hdevices, rfl, rfl⟩, howned⟩, rfl⟩, rfl, fun _ _ => rfl⟩
    | true =>
      -- what is read is what was copied
      simp only [Heap.read_new, if_true]
      rcases DeviceCommand.fresh.deserializeFromBuffer N (.data m.payload) with ⟨e | rc, c⟩
      · exact ⟨_, [_], rfl, ⟨⟨⟨hnew.represents.devices, rfl, rfl⟩, hnew.owned⟩, rfl⟩, rfl, hsame⟩
      · by_cases hrc : rc = .notOk
        · simp only [if_pos hrc]
          exact ⟨_, [_], rfl, ⟨⟨⟨hnew.represents.devices, rfl, rfl⟩, hnew.owned⟩, rfl⟩, rfl, hsame⟩
        · simp only [if_neg hrc]
          exact ⟨_, [_], rfl, ⟨⟨⟨hnew.represents.devices, rfl, rfl⟩, hnew.owned⟩, rfl⟩, rfl, hsame⟩

/-- The loop in memory: every payload looked at is copied once. -/
theorem forEach_scan_follows (parseCommands : Bool) : ∀ (messages : List Message) {hs : HeapScan}
    {s : Scan} {others : List Nat}, hs.Follows s others →
    ∃ hs' left, forEach (scanCommandAt N parseCommands) messages hs
        = ((forEach (scanCommand N parseCommands) messages s).1, hs')
      ∧ hs'.Follows (forEach (scanCommand N parseCommands) messages s).2 (left ++ others)
      ∧ left.length = (if parseCommands
        then ((lookedAt N messages).filter Message.forIoModule).length else 0)
      ∧ Unchanged hs.heap hs'.heap others := by
  intro messages
  induction messages with
  | nil =>
    intro hs s others h
    exact ⟨hs, [], rfl, h, by cases parseCommands <;> rfl, fun _ _ => rfl⟩
  | cons m messages ih =>
    intro hs s others h
    obtain ⟨hs₁, left₁, hround, hfollows, hleft₁, hsame₁⟩ :=
      scanCommandAt_follows (N := N) parseCommands m h
    have hgoes : ∀ {s₁ : Scan}, scanCommand N parseCommands m s = (none, s₁) →
        ∃ hs' left, forEach (scanCommandAt N parseCommands) (m :: messages) hs
            = ((forEach (scanCommand N parseCommands) (m :: messages) s).1, hs')
          ∧ hs'.Follows (forEach (scanCommand N parseCommands) (m :: messages) s).2 (left ++ others)
          ∧ left.length = (if parseCommands
            then ((lookedAt N messages).filter Message.forIoModule).length else 0) + left₁.length
          ∧ Unchanged hs.heap hs'.heap others := by
      intro s₁ hs₁round
      rw [hs₁round] at hround hfollows
      obtain ⟨hs₂, left₂, hloop, hfollows₂, hleft₂, hsame₂⟩ := ih hfollows
      rw [forEach_cons_next hround, forEach_cons_next hs₁round]
      refine ⟨hs₂, left₂ ++ left₁, hloop, ?_, ?_, ?_⟩
      · rw [List.append_assoc]
        exact hfollows₂
      · rw [List.length_append, hleft₂]
      · exact hsame₁.trans fun p hp => hsame₂ p (List.mem_append_right _ hp)
    rcases scanCommand_cases (N := N) parseCommands m s with
      ⟨hskip, hnext⟩ | ⟨c, hio, hparse, hdecoded, hnext⟩ | ⟨result, hio, hparse, hbad, hstop⟩
    · obtain ⟨hs', left, hloop, hfollows', hleft, hsame⟩ := hgoes hnext
      refine ⟨hs', left, hloop, hfollows', ?_, hsame⟩
      rw [hleft, hleft₁, hskip]
      cases parseCommands with
      | false => rfl
      | true =>
        have hio : m.forIoModule = false := by simpa using hskip
        simp [lookedAt, hio]
    · obtain ⟨hs', left, hloop, hfollows', hleft, hsame⟩ := hgoes hnext
      refine ⟨hs', left, hloop, hfollows', ?_, hsame⟩
      have hdec : m.Decodable N := ⟨c, hdecoded⟩
      rw [hleft, hleft₁]
      simp [lookedAt, hio, hparse, hdec]
    · rw [hstop] at hround hfollows
      rw [forEach_cons_stop hround, forEach_cons_stop hstop]
      refine ⟨hs₁, left₁, rfl, hfollows, ?_, hsame₁⟩
      rw [hleft₁]
      simp [lookedAt, hio, hparse, hbad]

/-- **One poll in memory.** The copies of the payloads are left behind. -/
theorem wait_stored (h : Stored heap hcon con others) (answer : Answer) :
    ∃ hcon' heap' left, hcon.waitForCommand N (fun _ => answer) heap
        = ((con.waitForCommand N fun _ => answer).1, hcon', heap')
      ∧ Stored heap' hcon' (con.waitForCommand N fun _ => answer).2 (left ++ others)
      ∧ left.length = con.copies N answer ∧ Unchanged heap heap' others := by
  have htime := h.represents.lastCommandTimestamp_eq
  cases answer with
  | throws => exact ⟨hcon, heap, [], rfl, h, rfl, fun _ _ => rfl⟩
  | commands messages success =>
    have hstart : (HeapScan.mk hcon true heap).Follows ⟨con, true⟩ others := ⟨h, rfl⟩
    obtain ⟨hs', left, hloop, hfollows, hleft, hsame⟩ :=
      forEach_scan_follows (N := N) (con.lastCommandTimestamp != 0) messages hstart
    have hcopies : left.length = con.copies N (.commands messages success) := by
      rw [hleft]
      by_cases hlast : con.lastCommandTimestamp = 0
      · simp [Context.copies, hlast]
      · simp [Context.copies, hlast]
    unfold HeapContext.waitForCommand Context.waitForCommand
    rw [htime]
    simp only [hloop]
    rcases hvalue : forEach (scanCommand N (con.lastCommandTimestamp != 0)) messages ⟨con, true⟩
      with ⟨_ | result, s'⟩
    · obtain ⟨hcon₁, received, heap₁⟩ := hs'
      rw [hvalue] at hfollows
      obtain ⟨hstored, hreceived⟩ := hfollows
      dsimp only at hstored hreceived hsame
      subst hreceived
      refine ⟨_, heap₁, left, rfl, ?_, hcopies, hsame⟩
      dsimp only
      split
      · exact ⟨⟨hstored.represents.devices, hstored.represents.commandVector_eq, rfl⟩, hstored.owned⟩
      · exact hstored
    · rw [hvalue] at hfollows
      exact ⟨hs'.con, hs'.heap, left, rfl, hfollows.stored, hcopies, hsame⟩

/-! ## Handing out -/

/-- The blocks a pop gives to its caller. -/
def handedBlocks : Except JsonError HeapPopped → List Nat
  | .ok (.done command device _) => command.data :: device.blocks
  | _ => []

/-- What a pop returns in memory is what it returns. -/
def HandsOut (heap : Heap Bytes) : Except JsonError HeapPopped → Except JsonError Popped → Prop
  | .error e, .error e' => e = e'
  | .ok (.failed rc), .ok (.failed rc') => rc = rc'
  | .ok (.done command device remaining), .ok (.done text deviceId remaining') =>
    command.Holds heap text ∧ device.Holds heap deviceId ∧ remaining = remaining'
  | _, _ => False

/-- **One pop in memory.** What is allocated goes to the caller, if all of it
is; otherwise it is left behind. -/
theorem pop_stored (h : Stored heap hcon con others) (granted : PopGrants)
    {result : Except JsonError Popped} {con' : Context}
    (hpop : con.popCommand N granted = some (result, con')) :
    ∃ hresult hcon' heap' left, hcon.popCommand N granted heap = some (hresult, hcon', heap')
      ∧ Stored heap' hcon' con' (handedBlocks hresult ++ left ++ others)
      ∧ HandsOut heap' hresult result
      ∧ left.length = leftBehind granted.command granted.deviceRole granted.deviceName
      ∧ Unchanged heap heap' others := by
  obtain ⟨front, ⟨command, device, source⟩, hvector, -⟩ := pop_cases hpop
  have hback : con.commandVector.getLast? = some ⟨command, device, source⟩ := by
    rw [hvector, List.getLast?_concat]
  have hdrop : con.commandVector.dropLast = front := by rw [hvector, List.dropLast_concat]
  have hcommand := h.new (N.dump command.commandDocument)
  have hrole := hcommand.new device.deviceRole
  have hname := hrole.new device.deviceName
  obtain ⟨grantedCommand, grantedRole, grantedName⟩ := granted
  simp only [Context.popCommand, hback, hdrop, DeviceCommand.serializeToBuffer_eq] at hpop
  unfold HeapContext.popCommand
  simp only [h.represents.commandVector_eq, hback, hdrop, DeviceCommand.toJson_eq]
  have hpopped : ∀ (heap' : Heap Bytes) {others' : List Nat}, Stored heap' hcon con others' →
      Stored heap' { hcon with commandVector := front } { con with commandVector := front } others' :=
    fun _ _ hstored => ⟨⟨hstored.represents.devices, rfl,
      hstored.represents.lastCommandTimestamp_eq⟩, hstored.owned⟩
  have hsame₁ := h.unchanged_new (N.dump command.commandDocument)
  have hsame₂ := hsame₁.trans fun p hp =>
    hcommand.unchanged_new device.deviceRole p (List.mem_cons_of_mem _ hp)
  have hsame₃ := hsame₂.trans fun p hp => hrole.unchanged_new device.deviceName p
    (List.mem_cons_of_mem _ (List.mem_cons_of_mem _ hp))
  cases grantedCommand with
  | false =>
    cases hpop
    exact ⟨_, _, _, [], rfl, h, rfl, rfl, fun _ _ => rfl⟩
  | true =>
    cases grantedRole with
    | false =>
      cases hpop
      exact ⟨_, _, _, [_], rfl, hcommand, rfl, rfl, hsame₁⟩
    | true =>
      cases grantedName with
      | false =>
        cases hpop
        exact ⟨_, _, _, [_, _], rfl, hrole, rfl, rfl, hsame₂⟩
      | true =>
        cases hpop
        refine ⟨_, _, _, [], rfl, (hpopped _ hname).reorder ?_, ⟨?_, ⟨rfl, rfl, rfl, ?_, ?_⟩, rfl⟩,
          rfl, hsame₃⟩
        · -- the last one allocated is the first of the heap
          exact List.Perm.append_right others (List.reverse_perm [_, _, _]).symm
        · exact ((holds_new heap _).frame_new _).frame_new _
        · exact (holds_new (heap.new _).2 _).frame_new _
        · exact holds_new ((heap.new _).2.new _).2 _

end Calls

end IoModule

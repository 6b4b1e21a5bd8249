import IoModule.Unwinding
import IoModule.Server.Session

/-!
# Devices and commands do not meet

A context holds the devices connected and, next to them, the queue of commands
with its timestamp. Some calls are about devices, others about commands, and the
context is all that they share.

They do not interfere. Take any sequence of calls on a context and keep only
those about commands: they get the same answers, and leave the same queue and the
same timestamp. Keep only those about devices, and they get the same answers and
leave the same devices (`session_independent`). And whether the sequence is
defined at all, which it is not if an empty queue is popped, is a matter of the
calls about commands alone. In particular a command is queued and handed out
whether or not its device was ever connected.

Each half is an instance of `Unwinds`: its calls do the same in contexts that
agree in its half (`queue_unwinds`, `registry_unwinds`).
-/

namespace IoModule

namespace Call

/-- A call about commands. -/
def isQueue : Call → Bool
  | .waitForCommand _ => true
  | .popCommand _ => true
  | _ => false

/-- A call about devices. -/
def isRegistry : Call → Bool
  | .deviceConnected _ _ => true
  | .deviceDisconnected _ _ => true
  | _ => false

end Call

/-- The half of a context that is about commands. -/
def Context.queue (con : Context) : List QueuedCommand × Int64 :=
  (con.commandVector, con.lastCommandTimestamp)

/-- The same context with other devices. -/
def Context.withDevices (devices : List DeviceIdentification) (con : Context) : Context :=
  { con with devices := devices }

/-- Contexts that agree about commands differ in their devices at most. -/
theorem Context.withDevices_eq {con con' : Context} (h : con.queue = con'.queue) :
    con.withDevices con'.devices = con' :=
  Context.ext rfl (congrArg Prod.fst h) (congrArg Prod.snd h)

variable {N : JsonText}

/-! ## Calls about commands -/

/-- A loop state with other devices. -/
def Scan.withDevices (devices : List DeviceIdentification) (s : Scan) : Scan :=
  ⟨s.con.withDevices devices, s.receivedNoCommands⟩

/-- A round of a poll carries the devices along. -/
theorem scanCommand_withDevices (parseCommands : Bool) (devices : List DeviceIdentification)
    (m : Message) (s : Scan) :
    scanCommand N parseCommands m (s.withDevices devices)
      = ((scanCommand N parseCommands m s).1,
        (scanCommand N parseCommands m s).2.withDevices devices) := by
  unfold scanCommand
  cases m.forIoModule with
  | false => rfl
  | true =>
    cases parseCommands with
    | false => rfl
    | true =>
      rcases DeviceCommand.fresh.deserializeFromBuffer N (.data m.payload) with ⟨e | rc, c⟩
      · rfl
      · cases rc <;> rfl

/-- So does a poll. -/
theorem wait_withDevices (devices : List DeviceIdentification) (getCommands : Int64 → Answer)
    (con : Context) :
    (con.withDevices devices).waitForCommand N getCommands
      = ((con.waitForCommand N getCommands).1,
        (con.waitForCommand N getCommands).2.withDevices devices) := by
  unfold Context.waitForCommand
  rw [show (con.withDevices devices).since = con.since from rfl]
  cases getCommands con.since with
  | throws => rfl
  | commands messages success =>
    have hloop : forEach (scanCommand N (con.lastCommandTimestamp != 0)) messages
        ⟨con.withDevices devices, true⟩ = _ :=
      forEach_map (scanCommand_withDevices (N := N) (con.lastCommandTimestamp != 0) devices)
        messages ⟨con, true⟩
    rcases hscan : forEach (scanCommand N (con.lastCommandTimestamp != 0)) messages ⟨con, true⟩
      with ⟨_ | result, s⟩
    · rw [hscan] at hloop
      simp only [show (con.withDevices devices).lastCommandTimestamp = con.lastCommandTimestamp
        from rfl, hloop, hscan]
      cases hfirst : s.receivedNoCommands && !(con.lastCommandTimestamp != 0) with
      | false => simp [Scan.withDevices, hfirst]
      | true => simp [Scan.withDevices, hfirst, Context.withDevices]
    · rw [hscan] at hloop
      simp only [show (con.withDevices devices).lastCommandTimestamp = con.lastCommandTimestamp
        from rfl, hloop, hscan]
      rfl

/-- And a pop. -/
theorem pop_withDevices (devices : List DeviceIdentification) (granted : PopGrants)
    (con : Context) :
    (con.withDevices devices).popCommand N granted
      = (con.popCommand N granted).map fun p => (p.1, p.2.withDevices devices) := by
  unfold Context.popCommand
  rw [show (con.withDevices devices).commandVector = con.commandVector from rfl]
  cases con.commandVector.getLast? with
  | none => rfl
  | some e =>
    obtain ⟨command, device, source⟩ := e
    obtain ⟨grantedCommand, grantedRole, grantedName⟩ := granted
    simp only [DeviceCommand.serializeToBuffer_eq]
    cases grantedCommand <;> cases grantedRole <;> cases grantedName <;> rfl

/-- A call about commands carries the devices along. -/
theorem perform_withDevices {call : Call} (hcall : call.isQueue = true)
    (devices : List DeviceIdentification) (con : Context) :
    (con.withDevices devices).perform N call
      = (con.perform N call).map fun p => (p.1, p.2.withDevices devices) := by
  cases call with
  | waitForCommand answer =>
    simp only [Context.perform, wait_withDevices]
    rfl
  | popCommand granted =>
    simp only [Context.perform, pop_withDevices]
    cases con.popCommand N granted <;> rfl
  | _ => cases hcall

/-- **The half about commands.** -/
theorem queue_unwinds : Unwinds (Context.perform N) Call.isQueue Context.queue where
  respects := by
    intro con con' call result hcall hperform
    cases performed_of_perform hperform with
    | waited hwait => cases hcall
    | popped hvector => cases hcall
    | kept => cases hcall
    | _ => rfl
  consistent := by
    intro con other con' call result hcall hqueue hperform
    have hother := perform_withDevices (N := N) hcall other.devices con
    rw [Context.withDevices_eq hqueue, hperform] at hother
    exact ⟨_, hother, rfl⟩

/-! ## Calls about devices -/

/-- **The half about devices.** -/
theorem registry_unwinds : Unwinds (Context.perform N) Call.isRegistry Context.devices where
  respects := by
    intro con con' call result hcall hperform
    cases performed_of_perform hperform with
    | waited hwait => exact wait_devices hwait
    | connected => cases hcall
    | unconnected hresult => cases hcall
    | disconnected hdevices => cases hcall
    | unknown => cases hcall
    | _ => rfl
  consistent := by
    intro con other con' call result hcall hdevices hperform
    obtain ⟨devices, vector, timestamp⟩ := con
    obtain ⟨devices', vector', timestamp'⟩ := other
    obtain rfl : devices = devices' := hdevices
    cases call with
    | deviceConnected granted device =>
      obtain ⟨grantedRole, grantedName, grantedEntry⟩ := granted
      cases grantedRole <;> cases grantedName <;> cases grantedEntry <;> cases hperform
      all_goals exact ⟨_, rfl, rfl⟩
    | deviceDisconnected disconnectType device =>
      simp only [Context.perform, Context.deviceDisconnected] at hperform ⊢
      cases hfind : devices.findIdx? fun it => it.isPresent device with
      | none =>
        rw [hfind] at hperform
        cases hperform
        exact ⟨_, rfl, rfl⟩
      | some it =>
        rw [hfind] at hperform
        cases hperform
        exact ⟨_, rfl, rfl⟩
    | _ => cases hcall

/-! ## Sessions -/

/-- A session's steps are its transcript. -/
theorem session_transcript : ∀ (calls : List Call) (s : Session),
    calls.foldlM (Session.apply N) s
      = (transcript (Context.perform N) calls s.con).map fun p => ⟨p.2, s.log ++ p.1⟩
  | [], s => by simp [transcript]
  | call :: calls, s => by
    rw [List.foldlM_cons, transcript]
    unfold Session.apply
    cases hperform : s.con.perform N call with
    | none => rfl
    | some p =>
      obtain ⟨result, con⟩ := p
      show calls.foldlM (Session.apply N) ⟨con, s.log ++ [(call, result)]⟩ = _
      rw [session_transcript calls]
      cases hrest : transcript (Context.perform N) calls con with
      | none => simp [hrest]
      | some t => simp [hrest]

/-- Every call but a pop has an answer. -/
theorem perform_defined {call : Call} (hcall : call.isQueue = false) (con : Context) :
    ∃ result con', con.perform N call = some (result, con') := by
  cases call with
  | waitForCommand answer => cases hcall
  | popCommand granted => cases hcall
  | _ => exact ⟨_, _, rfl⟩

/-- **Devices and commands are independent.** For any calls on any context: the
calls are defined exactly if those about commands are, made alone. Then so are
those about devices; each half, made alone, gets the answers it gets in the whole
sequence, and leaves its half of the context as the whole sequence leaves it. -/
theorem session_independent (con : Context) (calls : List Call) :
    ((calls.foldlM (Session.apply N) (.start con)).isSome
      ↔ ((calls.filter Call.isQueue).foldlM (Session.apply N) (.start con)).isSome)
    ∧ ∀ s, calls.foldlM (Session.apply N) (.start con) = some s →
      ∃ q r, (calls.filter Call.isQueue).foldlM (Session.apply N) (.start con) = some q
        ∧ (calls.filter Call.isRegistry).foldlM (Session.apply N) (.start con) = some r
        ∧ q.log = s.log.filter (fun entry => entry.1.isQueue)
        ∧ r.log = s.log.filter (fun entry => entry.1.isRegistry)
        ∧ s.con = ⟨r.con.devices, q.con.commandVector, q.con.lastCommandTimestamp⟩ := by
  simp only [session_transcript, Session.start, List.nil_append, Option.isSome_map]
  refine ⟨⟨fun hsome => ?_, fun hsome => ?_⟩, fun s hs => ?_⟩
  · obtain ⟨⟨log, con'⟩, hrun⟩ := Option.isSome_iff_exists.mp hsome
    obtain ⟨_, hqueue, -⟩ := queue_unwinds.run rfl hrun
    rw [hqueue]
    rfl
  · obtain ⟨⟨log, con'⟩, hrun⟩ := Option.isSome_iff_exists.mp hsome
    obtain ⟨_, _, hall⟩ := queue_unwinds.run_defined
      (fun s e hother => perform_defined hother s) rfl hrun
    rw [hall]
    rfl
  · obtain ⟨⟨log, con'⟩, hrun, rfl⟩ := Option.map_eq_some_iff.mp hs
    obtain ⟨q, hq, hqueue⟩ := queue_unwinds.run rfl hrun
    obtain ⟨r, hr, hdevices⟩ := registry_unwinds.run rfl hrun
    refine ⟨_, _, by rw [hq]; rfl, by rw [hr]; rfl, rfl, rfl, ?_⟩
    exact Context.ext hdevices (congrArg Prod.fst hqueue) (congrArg Prod.snd hqueue)

end IoModule

import IoModule.Devices.ModuleManager

/-!
# `wait_for_command` and `pop_command`

The context of the external server API and the two functions that move
commands through it (`external_server_api.cpp`). `wait_for_command` asks the
HTTP client for messages and appends the commands of the IO module to
`command_vector`; `pop_command` takes one out and hands its text to the
caller.

What the context remembers of the messages it has seen is one timestamp. It
is raised to every timestamp in the batch, before anything else is looked at,
and zero means that nothing has been polled yet: the first poll only reads
the timestamps (`parse_commands`), and is noted by the timestamp no longer
being zero.

Conventions:
- `getCommands` is a parameter: a function from the timestamp asked for to
  an `Answer`. An answer carries the client's own return code next to the
  messages. The module does not look at it.
- A message has an `id` and a queued command remembers its `source`. The code
  has neither: they are there to tell two messages apart that agree in
  everything else, and no function reads them.
- `Context.waitForCommand` and `Context.popCommand` are the functions behind
  the null check of the context pointer, which both make first.

`wait_cases` says what a poll does to a context, `pop_cases` what a pop
does; the runs are proved from these two.
-/

namespace IoModule

/-- `device_identification` -/
structure DeviceIdentification where
  moduleId : Int32
  deviceType : UInt32
  priority : UInt32
  deviceRole : Bytes
  deviceName : Bytes
deriving DecidableEq, Repr

/-- A command message of the HTTP API, its payload as text. -/
structure Message where
  id : Nat
  timestamp : Int64
  moduleId : Int32
  type : Int32
  role : Bytes
  name : Bytes
  payload : Bytes
deriving DecidableEq, Repr

/-- A message for an Opta, with the given payload. -/
def Message.forOpta (id : Nat) (timestamp : Int64) (payload : String) : Message :=
  ⟨id, timestamp, ioModuleNumber, arduinoOptaDeviceType.toInt32, Json.ascii "opta",
    Json.ascii "gate", Json.ascii payload⟩

/-- A payload: output 1 switched on. -/
def switchOn : String := "[\x7b\"outNum\":1,\"actType\":1\x7d]"

/-- A payload: output 1 switched off. -/
def switchOff : String := "[\x7b\"outNum\":1,\"actType\":0\x7d]"

/-- A payload that is JSON but no command. -/
def noCommand : String := "\x7b\"x\":1\x7d"

/-- The message is for the IO module. -/
def Message.forIoModule (m : Message) : Bool := m.moduleId == ioModuleNumber

/-- An entry of `command_vector`. -/
structure QueuedCommand where
  command : DeviceCommand
  device : DeviceIdentification
  source : Message
deriving DecidableEq, Repr

/-- The entry for a message and its decoded command. The HTTP API does not
return a priority. -/
def Message.queued (m : Message) (command : DeviceCommand) : QueuedCommand :=
  ⟨command, ⟨m.moduleId, m.type.toUInt32, 0, m.role, m.name⟩, m⟩

/-- `struct context`, less the HTTP client and the locking. -/
@[ext] structure Context where
  devices : List DeviceIdentification
  commandVector : List QueuedCommand
  lastCommandTimestamp : Int64
deriving DecidableEq, Repr

/-- The context `init` returns. -/
def Context.initial : Context := ⟨[], [], 0⟩

/-- What a `getCommands` call does: throw, or return the messages and
whether the client reports success. -/
inductive Answer where
  | throws
  | commands (messages : List Message) (success : Bool)
deriving DecidableEq, Repr

/-! ## `wait_for_command` -/

variable (N : JsonText)

/-- The timestamp, raised to that of a message. -/
def raise (last : Int64) (m : Message) : Int64 :=
  if m.timestamp > last then m.timestamp else last

/-- The state of the loop over the received commands. -/
@[ext] structure Scan where
  con : Context
  receivedNoCommands : Bool

/-- One round of the loop. -/
def scanCommand (parseCommands : Bool) (command : Message) (s : Scan) :
    Option (Except JsonError ReturnCode) × Scan :=
  -- raised for every message, also those of other modules
  let con := { s.con with lastCommandTimestamp := raise s.con.lastCommandTimestamp command }
  if command.forIoModule then
    if parseCommands then
      match DeviceCommand.fresh.deserializeFromBuffer N (.data command.payload) with
      | (.error e, _) => (some (.error e), ⟨con, false⟩)
      | (.ok rc, commandObj) =>
        -- the rest of the batch is not looked at
        if rc = .notOk then (some (.ok .notOk), ⟨con, false⟩)
        else
          (none, ⟨{ con with commandVector := con.commandVector ++ [command.queued commandObj] },
            false⟩)
    else (none, ⟨con, false⟩)
  else (none, ⟨con, s.receivedNoCommands⟩)

/-- The timestamp the next poll asks for. -/
def Context.since (con : Context) : Int64 := con.lastCommandTimestamp + 1

/-- `wait_for_command` on a context. A return out of the loop leaves the
context as the loop has it. -/
def Context.waitForCommand (getCommands : Int64 → Answer) (con : Context) :
    Except JsonError ReturnCode × Context :=
  let parseCommands := con.lastCommandTimestamp != 0
  match getCommands con.since with
  | .throws => (.ok .timeoutOccurred, con)
  | .commands messages _ =>
    match forEach (scanCommand N parseCommands) messages ⟨con, true⟩ with
    | (some result, s) => (result, s.con)
    | (none, s) =>
      -- a first poll without commands is noted by a timestamp of 1
      let con :=
        if s.receivedNoCommands && !parseCommands then { s.con with lastCommandTimestamp := 1 }
        else s.con
      (.ok (if s.receivedNoCommands || !parseCommands then .timeoutOccurred else .ok), con)

/-- `wait_for_command` -/
def waitForCommand (getCommands : Int64 → Answer) :
    Option Context → Except JsonError ReturnCode × Option Context
  | none => (.ok .contextIncorrect, none)
  | some con =>
    let (result, con) := con.waitForCommand N getCommands
    (result, some con)

/-! ## `pop_command` -/

/-- Which of the three allocations of a pop succeed. -/
structure PopGrants where
  command : Bool
  deviceRole : Bool
  deviceName : Bool
deriving DecidableEq, Repr

/-- What a pop returns: an error code, or the command's text, its device and
the number of commands left. -/
inductive Popped where
  | failed (rc : ReturnCode)
  | done (command : Bytes) (device : DeviceIdentification) (remaining : Int32)
deriving DecidableEq, Repr

/-- `pop_command` on a context. `back()` of an empty vector is undefined:
`none`. -/
def Context.popCommand (granted : PopGrants) (con : Context) :
    Option (Except JsonError Popped × Context) :=
  match con.commandVector.getLast? with
  | none => none
  | some ⟨commandObject, deviceId, _⟩ =>
    match commandObject.serializeToBuffer N granted.command with
    | .error e => some (.error e, con)
    | .ok none => some (.ok (.failed .notOk), con)
    | .ok (some command) =>
      match allocate granted.deviceRole deviceId.deviceRole with
      | none => some (.ok (.failed .notOk), con)
      | some deviceRole =>
        match allocate granted.deviceName deviceId.deviceName with
        | none => some (.ok (.failed .notOk), con)
        | some deviceName =>
          -- only now is the command removed
          let con := { con with commandVector := con.commandVector.dropLast }
          some (.ok (.done command { deviceId with deviceRole, deviceName }
            (Int32.ofNat con.commandVector.length)), con)

/-- `pop_command` -/
def popCommand (granted : PopGrants) :
    Option Context → Option (Except JsonError Popped × Option Context)
  | none => some (.ok (.failed .contextIncorrect), none)
  | some con =>
    match con.popCommand N granted with
    | none => none
    | some (result, con) => some (result, some con)

variable {N}

/-! ## The timestamp -/

theorem le_raise (last : Int64) (m : Message) : last.toInt ≤ (raise last m).toInt := by
  unfold raise
  split
  next h => exact Int.le_of_lt (Int64.lt_iff_toInt_lt.mp h)
  next => exact Int.le_refl _

theorem timestamp_le_raise (last : Int64) (m : Message) :
    m.timestamp.toInt ≤ (raise last m).toInt := by
  unfold raise
  split
  next => exact Int.le_refl _
  next h => exact Int.not_lt.mp fun hlt => h (Int64.lt_iff_toInt_lt.mpr hlt)

theorem raise_eq (last : Int64) (m : Message) :
    raise last m = last ∨ raise last m = m.timestamp := by
  unfold raise
  split
  next => exact Or.inr rfl
  next => exact Or.inl rfl

/-- Raised over a batch, the timestamp does not fall. -/
theorem le_foldl_raise : ∀ (ms : List Message) (last : Int64),
    last.toInt ≤ (ms.foldl raise last).toInt
  | [], _ => Int.le_refl _
  | m :: ms, last => Int.le_trans (le_raise last m) (le_foldl_raise ms _)

/-- Raised over a batch, it has reached every message of the batch. -/
theorem timestamp_le_foldl_raise : ∀ {ms : List Message} (last : Int64) {m : Message}, m ∈ ms →
    m.timestamp.toInt ≤ (ms.foldl raise last).toInt
  | x :: ms, last, m, hm => by
    rcases List.mem_cons.mp hm with rfl | hm
    · exact Int.le_trans (timestamp_le_raise last m) (le_foldl_raise ms _)
    · exact timestamp_le_foldl_raise (raise last x) hm

/-- Raised over a batch, it is where it was or at a message of the batch. -/
theorem foldl_raise_eq : ∀ (ms : List Message) (last : Int64),
    ms.foldl raise last = last ∨ ∃ m ∈ ms, ms.foldl raise last = m.timestamp
  | [], _ => Or.inl rfl
  | x :: ms, last => by
    rcases foldl_raise_eq ms (raise last x) with h | ⟨m, hm, h⟩
    · rcases raise_eq last x with hx | hx
      · exact Or.inl (h.trans hx)
      · exact Or.inr ⟨x, List.mem_cons_self .., h.trans hx⟩
    · exact Or.inr ⟨m, List.mem_cons_of_mem _ hm, h⟩

/-! ## The loop -/

/-- A queued command is what its source decodes to. -/
structure QueuedCommand.Genuine (N : JsonText) (e : QueuedCommand) : Prop where
  forIoModule : e.source.forIoModule = true
  decoded : DeviceCommand.fresh.deserializeFromBuffer N (.data e.source.payload)
    = (.ok .ok, e.command)
  queued_eq : e = e.source.queued e.command

/-- The payload of a message is a command. -/
def Message.Decodable (N : JsonText) (m : Message) : Prop :=
  ∃ c, DeviceCommand.fresh.deserializeFromBuffer N (.data m.payload) = (.ok .ok, c)

instance (N : JsonText) (m : Message) : Decidable (m.Decodable N) :=
  decidable_of_iff
    ((DeviceCommand.fresh.deserializeFromBuffer N (.data m.payload)).1 = .ok .ok)
    ⟨fun h => ⟨_, Prod.ext h rfl⟩, fun ⟨_, h⟩ => congrArg Prod.fst h⟩

/-- What the loop has done when it gets from `s` to `s'`: it has looked at
`scanned`, the first of the messages, and appended `taken`. -/
structure Scanned (N : JsonText) (parseCommands : Bool) (messages : List Message) (s : Scan)
    (stop : Option (Except JsonError ReturnCode)) (s' : Scan) (scanned : List Message)
    (taken : List QueuedCommand) : Prop where
  devices_eq : s'.con.devices = s.con.devices
  vector_eq : s'.con.commandVector = s.con.commandVector ++ taken
  timestamp_eq : s'.con.lastCommandTimestamp = scanned.foldl raise s.con.lastCommandTimestamp
  sublist : (taken.map QueuedCommand.source).Sublist scanned
  genuine : ∀ e ∈ taken, e.Genuine N
  unprimed : parseCommands = false → taken = []
  initial : scanned <+: messages
  finished : stop = none → scanned = messages
    ∧ (parseCommands = true → taken.map QueuedCommand.source = messages.filter Message.forIoModule)
    ∧ s'.receivedNoCommands = (s.receivedNoCommands && !messages.any Message.forIoModule)
  runs_through : (parseCommands = true →
    ∀ m ∈ messages, m.forIoModule = true → m.Decodable N) → stop = none

/-- Nothing to look at. -/
theorem scanned_nil (parseCommands : Bool) (s : Scan) :
    Scanned N parseCommands [] s none s [] [] :=
  ⟨rfl, (List.append_nil _).symm, rfl, List.Sublist.refl _, fun _ h => absurd h List.not_mem_nil,
    fun _ => rfl, List.prefix_rfl, fun _ => ⟨rfl, fun _ => rfl, (Bool.and_true _).symm⟩, fun _ => rfl⟩

/-- What one round does, by the three cases of a message: not for this
module or not to be parsed, decoded, undecodable. -/
theorem scanCommand_cases (parseCommands : Bool) (m : Message) (s : Scan) :
    let s₁ : Scan := ⟨{ s.con with lastCommandTimestamp := raise s.con.lastCommandTimestamp m },
      s.receivedNoCommands && !m.forIoModule⟩
    ((m.forIoModule && parseCommands) = false ∧ scanCommand N parseCommands m s = (none, s₁))
    ∨ (∃ c, m.forIoModule = true ∧ parseCommands = true
        ∧ DeviceCommand.fresh.deserializeFromBuffer N (.data m.payload) = (.ok .ok, c)
        ∧ scanCommand N parseCommands m s = (none, { s₁ with
          con := { s₁.con with commandVector := s.con.commandVector ++ [m.queued c] } }))
    ∨ (∃ result, m.forIoModule = true ∧ parseCommands = true ∧ ¬ m.Decodable N
        ∧ scanCommand N parseCommands m s = (some result, s₁)) := by
  intro s₁
  unfold scanCommand
  cases hio : m.forIoModule with
  | false => exact Or.inl ⟨rfl, by simp [s₁, hio]⟩
  | true =>
    cases parseCommands with
    | false => exact Or.inl ⟨rfl, by simp [s₁, hio]⟩
    | true =>
      refine Or.inr ?_
      rcases hdec : DeviceCommand.fresh.deserializeFromBuffer N (.data m.payload) with ⟨e | rc, c⟩
      · refine Or.inr ⟨.error e, rfl, rfl, fun ⟨c', hc'⟩ => ?_, by simp [s₁, hio]⟩
        rw [hdec] at hc'
        cases hc'
      · rcases DeviceCommand.deserialize_code hdec with rfl | rfl
        · exact Or.inl ⟨c, rfl, rfl, rfl, by simp [s₁, hio]⟩
        · refine Or.inr ⟨.ok .notOk, rfl, rfl, fun ⟨c', hc'⟩ => ?_, by simp [s₁, hio]⟩
          rw [hdec] at hc'
          cases hc'

/-- A round that queues nothing, put in front of the rest of the loop. -/
theorem Scanned.skip {parseCommands : Bool} {m : Message} {ms : List Message} {s s' : Scan}
    {stop : Option (Except JsonError ReturnCode)} {scanned : List Message}
    {taken : List QueuedCommand} (hskip : (m.forIoModule && parseCommands) = false)
    (h : Scanned N parseCommands ms
      ⟨{ s.con with lastCommandTimestamp := raise s.con.lastCommandTimestamp m },
        s.receivedNoCommands && !m.forIoModule⟩ stop s' scanned taken) :
    Scanned N parseCommands (m :: ms) s stop s' (m :: scanned) taken where
  devices_eq := h.devices_eq
  vector_eq := h.vector_eq
  timestamp_eq := h.timestamp_eq
  sublist := h.sublist.cons m
  genuine := h.genuine
  unprimed := h.unprimed
  initial := List.cons_prefix_cons.mpr ⟨rfl, h.initial⟩
  finished hstop := by
    obtain ⟨hall, hsources, hreceived⟩ := h.finished hstop
    refine ⟨congrArg _ hall, fun hparse => ?_, ?_⟩
    · have hio : m.forIoModule = false := by simpa [hparse] using hskip
      rw [hsources hparse, List.filter_cons_of_neg (by simp [hio])]
    · rw [hreceived, List.any_cons, Bool.not_or, Bool.and_assoc]
  runs_through hdec :=
    h.runs_through fun hparse x hx => hdec hparse x (List.mem_cons_of_mem _ hx)

/-- A round that queues a command, put in front of the rest of the loop. -/
theorem Scanned.take {parseCommands : Bool} {m : Message} {ms : List Message} {s s' : Scan}
    {c : DeviceCommand} {stop : Option (Except JsonError ReturnCode)} {scanned : List Message}
    {taken : List QueuedCommand} (hio : m.forIoModule = true) (hparse : parseCommands = true)
    (hdecoded : DeviceCommand.fresh.deserializeFromBuffer N (.data m.payload) = (.ok .ok, c))
    (h : Scanned N parseCommands ms
      ⟨{ s.con with
          lastCommandTimestamp := raise s.con.lastCommandTimestamp m
          commandVector := s.con.commandVector ++ [m.queued c] },
        s.receivedNoCommands && !m.forIoModule⟩ stop s' scanned taken) :
    Scanned N parseCommands (m :: ms) s stop s' (m :: scanned) (m.queued c :: taken) where
  devices_eq := h.devices_eq
  vector_eq := by rw [h.vector_eq, List.append_assoc]; rfl
  timestamp_eq := h.timestamp_eq
  sublist := h.sublist.cons_cons m
  genuine e he := by
    rcases List.mem_cons.mp he with rfl | he
    · exact ⟨hio, hdecoded, rfl⟩
    · exact h.genuine e he
  unprimed hunparsed := by rw [hparse] at hunparsed; cases hunparsed
  initial := List.cons_prefix_cons.mpr ⟨rfl, h.initial⟩
  finished hstop := by
    obtain ⟨hall, hsources, hreceived⟩ := h.finished hstop
    refine ⟨congrArg _ hall, fun hparse => ?_, ?_⟩
    · rw [List.map_cons, hsources hparse, List.filter_cons_of_pos hio]
      rfl
    · rw [hreceived, List.any_cons, Bool.not_or, Bool.and_assoc]
  runs_through hdec :=
    h.runs_through fun hparse x hx => hdec hparse x (List.mem_cons_of_mem _ hx)

/-- A round that returns ends the loop. -/
theorem scanned_stop {parseCommands : Bool} {m : Message} {ms : List Message} {s : Scan}
    {result : Except JsonError ReturnCode} (hio : m.forIoModule = true)
    (hparse : parseCommands = true) (hbad : ¬ m.Decodable N) :
    Scanned N parseCommands (m :: ms) s (some result)
      ⟨{ s.con with lastCommandTimestamp := raise s.con.lastCommandTimestamp m },
        s.receivedNoCommands && !m.forIoModule⟩ [m] [] where
  devices_eq := rfl
  vector_eq := (List.append_nil _).symm
  timestamp_eq := rfl
  sublist := List.nil_sublist _
  genuine _ h := absurd h List.not_mem_nil
  unprimed _ := rfl
  initial := ⟨ms, rfl⟩
  finished hstop := nomatch hstop
  runs_through hdec := absurd (hdec hparse m (List.mem_cons_self ..) hio) hbad

/-- The loop, whatever the batch. -/
theorem scan_spec (parseCommands : Bool) : ∀ (messages : List Message) (s : Scan),
    ∃ scanned taken, Scanned N parseCommands messages s
      (forEach (scanCommand N parseCommands) messages s).1
      (forEach (scanCommand N parseCommands) messages s).2 scanned taken
  | [], s => ⟨[], [], scanned_nil parseCommands s⟩
  | m :: ms, s => by
    rcases scanCommand_cases (N := N) parseCommands m s with
      ⟨hskip, hround⟩ | ⟨c, hio, hparse, hdecoded, hround⟩ | ⟨result, hio, hparse, hbad, hround⟩
    · obtain ⟨scanned, taken, h⟩ := scan_spec parseCommands ms _
      rw [forEach_cons_next hround]
      exact ⟨_, _, h.skip hskip⟩
    · obtain ⟨scanned, taken, h⟩ := scan_spec parseCommands ms _
      rw [forEach_cons_next hround]
      exact ⟨_, _, h.take hio hparse hdecoded⟩
    · rw [forEach_cons_stop hround]
      exact ⟨_, _, scanned_stop hio hparse hbad⟩

/-! ## One poll -/

/-- What a poll that received `messages` has done: looked at `scanned`, the
first of them, and appended `taken`. -/
structure Polled (N : JsonText) (con : Context) (messages : List Message) (con' : Context)
    (scanned : List Message) (taken : List QueuedCommand) : Prop where
  devices_eq : con'.devices = con.devices
  vector_eq : con'.commandVector = con.commandVector ++ taken
  sublist : (taken.map QueuedCommand.source).Sublist scanned
  genuine : ∀ e ∈ taken, e.Genuine N
  initial : scanned <+: messages
  first : con.lastCommandTimestamp = 0 → taken = [] ∧ scanned = messages
    ∧ con'.lastCommandTimestamp
      = if messages.any Message.forIoModule then messages.foldl raise 0 else 1
  later : con.lastCommandTimestamp ≠ 0 →
    con'.lastCommandTimestamp = scanned.foldl raise con.lastCommandTimestamp
  complete : con.lastCommandTimestamp ≠ 0 →
    (∀ m ∈ messages, m.forIoModule = true → m.Decodable N) →
    scanned = messages ∧ taken.map QueuedCommand.source = messages.filter Message.forIoModule

/-- The first poll parses nothing, so its loop runs through and queues
nothing. -/
theorem Scanned.polled_first {con : Context} {messages : List Message} {s' : Scan}
    {stop : Option (Except JsonError ReturnCode)} {scanned : List Message}
    {taken : List QueuedCommand} (hlast : con.lastCommandTimestamp = 0)
    (h : Scanned N false messages ⟨con, true⟩ stop s' scanned taken) :
    stop = none ∧ Polled N con messages
      (if s'.receivedNoCommands then { s'.con with lastCommandTimestamp := 1 } else s'.con)
      scanned taken := by
  have hstop : stop = none := h.runs_through fun hparse => nomatch hparse
  obtain ⟨hall, -, hreceived⟩ := h.finished hstop
  have hnone := h.unprimed rfl
  have hvector := h.vector_eq
  have htime : s'.con.lastCommandTimestamp = messages.foldl raise 0 := by
    rw [h.timestamp_eq, hall, hlast]
  refine ⟨hstop, ?_, ?_, h.sublist, h.genuine, h.initial, fun _ => ⟨hnone, hall, ?_⟩,
    fun hne => absurd hlast hne, fun hne => absurd hlast hne⟩
  · rw [apply_ite Context.devices]
    simp [h.devices_eq]
  · rw [apply_ite Context.commandVector]
    simp [hvector]
  · rw [hreceived]
    cases messages.any Message.forIoModule with
    | false => rfl
    | true => exact htime

/-- A later poll leaves the context as its loop has it. -/
theorem Scanned.polled_later {con : Context} {messages : List Message} {s' : Scan}
    {stop : Option (Except JsonError ReturnCode)} {scanned : List Message}
    {taken : List QueuedCommand} (hlast : con.lastCommandTimestamp ≠ 0)
    (h : Scanned N true messages ⟨con, true⟩ stop s' scanned taken) :
    Polled N con messages s'.con scanned taken := by
  refine ⟨h.devices_eq, h.vector_eq, h.sublist, h.genuine, h.initial,
    fun heq => absurd heq hlast, fun _ => h.timestamp_eq, fun _ hdec => ?_⟩
  obtain ⟨hall, hsources, -⟩ := h.finished (h.runs_through fun _ => hdec)
  exact ⟨hall, hsources rfl⟩

/-- **One poll.** Either the client throws and nothing happens, or a batch is
received and polled. -/
theorem wait_cases {getCommands : Int64 → Answer} {con con' : Context}
    {result : Except JsonError ReturnCode}
    (h : con.waitForCommand N getCommands = (result, con')) :
    (getCommands con.since = .throws ∧ con' = con)
    ∨ ∃ messages success scanned taken, getCommands con.since = .commands messages success
      ∧ Polled N con messages con' scanned taken := by
  unfold Context.waitForCommand at h
  cases hanswer : getCommands con.since with
  | throws =>
    rw [hanswer] at h
    cases h
    exact Or.inl ⟨rfl, rfl⟩
  | commands messages success =>
    refine Or.inr ⟨messages, success, ?_⟩
    rw [hanswer] at h
    obtain ⟨scanned, taken, hscan⟩ :=
      scan_spec (N := N) (con.lastCommandTimestamp != 0) messages ⟨con, true⟩
    rcases hloop : forEach (scanCommand N (con.lastCommandTimestamp != 0)) messages ⟨con, true⟩
      with ⟨stop, s'⟩
    simp only [hloop] at h hscan
    refine ⟨scanned, taken, rfl, ?_⟩
    by_cases hlast : con.lastCommandTimestamp = 0
    · -- nothing is parsed, so the loop cannot have stopped
      have hparse : (con.lastCommandTimestamp != 0) = false := by simp [hlast]
      rw [hparse] at hscan h
      obtain ⟨rfl, hpolled⟩ := hscan.polled_first hlast
      simp only [Bool.not_false, Bool.and_true] at h
      rw [← (Prod.mk.inj h).2]
      exact hpolled
    · -- stopped or not, the context is left as the loop has it
      have hparse : (con.lastCommandTimestamp != 0) = true := by simp [hlast]
      rw [hparse] at hscan h
      have hcon : con' = s'.con := by
        cases stop with
        | none => simp only [Bool.not_true, Bool.and_false] at h; exact (Prod.mk.inj h).2.symm
        | some r => exact (Prod.mk.inj h).2.symm
      rw [hcon]
      exact hscan.polled_later hlast

/-! ## One pop -/

/-- **One pop.** There is a last command. It is handed out and removed when
all three allocations succeed; when one is refused, the context is as before. -/
theorem pop_cases {granted : PopGrants} {con con' : Context} {result : Except JsonError Popped}
    (h : con.popCommand N granted = some (result, con')) :
    ∃ front e, con.commandVector = front ++ [e]
      ∧ ((granted = ⟨true, true, true⟩ ∧ con' = { con with commandVector := front }
          ∧ result = .ok (.done (N.dump e.command.commandDocument) e.device
            (Int32.ofNat front.length)))
        ∨ (granted ≠ ⟨true, true, true⟩ ∧ con' = con ∧ result = .ok (.failed .notOk))) := by
  rcases List.eq_nil_or_concat con.commandVector with hnil | ⟨front, e, hlast⟩
  · unfold Context.popCommand at h
    rw [hnil] at h
    cases h
  · rw [List.concat_eq_append] at hlast
    obtain ⟨command, device, source⟩ := e
    obtain ⟨grantedCommand, grantedRole, grantedName⟩ := granted
    have hback : con.commandVector.getLast? = some ⟨command, device, source⟩ := by
      rw [hlast, List.getLast?_concat]
    have hdrop : con.commandVector.dropLast = front := by rw [hlast, List.dropLast_concat]
    refine ⟨front, _, hlast, ?_⟩
    simp only [Context.popCommand, hback, hdrop, DeviceCommand.serializeToBuffer_eq] at h
    cases grantedCommand <;> cases grantedRole <;> cases grantedName <;> cases h
    -- only with all three allocations granted is anything handed out
    case inr.true.true.true.refl => exact Or.inl ⟨rfl, rfl, rfl⟩
    all_goals exact Or.inr ⟨by decide, rfl, rfl⟩

/-- A pop is defined wherever there is a command. -/
theorem pop_defined {con : Context} (h : con.commandVector ≠ []) (granted : PopGrants) :
    ∃ result con', con.popCommand N granted = some (result, con') := by
  obtain ⟨grantedCommand, grantedRole, grantedName⟩ := granted
  simp only [Context.popCommand, List.getLast?_eq_some_getLast h, DeviceCommand.serializeToBuffer_eq]
  cases grantedCommand <;> cases grantedRole <;> cases grantedName <;> exact ⟨_, _, rfl⟩

end IoModule

import IoModule.Devices.Effects
import IoModule.Server.CommandPath

/-!
# The test server

`server.py` stands in for the external server when the module gateway is tried
out. It answers the MQTT messages of one gateway, in `on_message`: first it waits
for a connect message, then for a status, which it answers with a status
response and a command, and then it answers every status so. The first command
is meant to switch two outputs on, the others are empty.

Reading notes:
- What the generated protobuf classes and `json` do is a parameter
  (`PythonLibrary`): decoding a payload, whether `json.loads` reads a text, and
  the text that `json.dumps` writes.
- An exception in `on_message` ends the loop: `none`. `print` is left out, but
  `print_status` reads the texts it prints.
- The global variables are the fields of `TestServer`, with all that was published
  next to them. `last_device_status` is a number before the first status.
- The command counter is a number without bound, as in Python. The generated class
  refuses one that its field has no room for; that range is left out, so the numbers
  go on where the program would stop.

- `conversation_eq`: in every run, what is published is one connect response
  and then, for each status, its response and a command. The responses carry the
  counters of the statuses, the commands are numbered from 0, and all of them
  carry the session id of the first connect message.
- `test_server_commands`: `command_data_valid` rejects the command that is meant
  to switch outputs on, and accepts the others as commands without any action.
-/

namespace IoModule

/-! ## Messages -/

/-- `ConnectMessage` of the external protocol, as far as it is read. -/
structure ConnectMessage where
  sessionId : Bytes
deriving DecidableEq, Repr

/-- `DeviceStatus` of the internal protocol. -/
structure DeviceStatusMessage where
  device : DeviceIdentification
  statusData : Bytes
deriving DecidableEq, Repr

/-- `StatusMessage` of the external protocol, as far as it is read. -/
structure StatusMessage where
  deviceState : Int32
  messageCounter : Nat
  deviceStatus : DeviceStatusMessage
  errorMessage : Bytes
deriving DecidableEq, Repr

/-- `ExternalClient`: the fields that `HasField` is asked for. -/
structure ExternalClient where
  connect : Option ConnectMessage
  status : Option StatusMessage
deriving DecidableEq, Repr

/-- `ExternalServer`: what is published. Both responses are of type `OK`. -/
inductive ExternalServer where
  | connectResponse (sessionId : Bytes)
  | statusResponse (sessionId : Bytes) (messageCounter : Nat)
  | command (sessionId : Bytes) (messageCounter : Nat) (device : DeviceIdentification)
    (commandData : Bytes)
deriving DecidableEq, Repr

/-- What `server.py` imports. -/
structure PythonLibrary where
  /-- `ExternalClient().FromString` -/
  fromString : Bytes → Option ExternalClient
  /-- `json.loads` reads the text. -/
  loads : Bytes → Bool
  /-- `json.dumps` -/
  dumps : Json → Bytes

/-- `default_json_command` -/
def defaultJsonCommand : Json :=
  .array [.object [("outputNumber", .integer 1), ("actionType", .integer 1)],
    .object [("outputNumber", .integer 2), ("actionType", .integer 1)]]

/-- `empty_json_command` -/
def emptyJsonCommand : Json := .object []

/-! ## The server -/

/-- `connection_status` -/
inductive ConnectionStatus where
  | notConnected
  | afterConnect
  | afterStatus
deriving DecidableEq, Repr

/-- The global variables, and what was published. -/
structure TestServer where
  connectionStatus : ConnectionStatus
  sessionId : Bytes
  commandMessageCounter : Nat
  lastDeviceStatus : Option DeviceStatusMessage
  published : List ExternalServer
deriving DecidableEq, Repr

namespace TestServer

/-- Before the first message. -/
def start : TestServer := ⟨.notConnected, [], 0, none, []⟩

variable (P : PythonLibrary)

/-- `client.publish` -/
def publish (s : TestServer) (message : ExternalServer) : TestServer :=
  { s with published := s.published ++ [message] }

/-- `handle_connect`, with `create_connect_response` -/
def handleConnect (connectMessage : ConnectMessage) (s : TestServer) : TestServer :=
  { s with sessionId := connectMessage.sessionId }.publish
    (.connectResponse connectMessage.sessionId)

/-- `print_status` reads the status, and the error of a device in state 2. -/
def printStatus (statusMessage : StatusMessage) : Bool :=
  P.loads statusMessage.deviceStatus.statusData
    && (statusMessage.deviceState != 2 || P.loads statusMessage.errorMessage)

/-- `handle_status`, with `create_status_response` -/
def handleStatus (statusMessage : StatusMessage) (s : TestServer) : Option TestServer :=
  if printStatus P statusMessage then
    some ({ s with lastDeviceStatus := some statusMessage.deviceStatus }.publish
      (.statusResponse s.sessionId statusMessage.messageCounter))
  else none

/-- `send_command`, with `create_external_command` and
`_create_internal_command` -/
def sendCommand (jsonCommand : Json) (s : TestServer) : Option TestServer :=
  match s.lastDeviceStatus with
  | none => none
  | some status => some
    ({ s with commandMessageCounter := s.commandMessageCounter + 1 }.publish
      (.command s.sessionId s.commandMessageCounter status.device (P.dumps jsonCommand)))

/-- `on_message` -/
def onMessage (s : TestServer) (payload : Bytes) : Option TestServer :=
  match P.fromString payload with
  | none => none
  | some message =>
    match s.connectionStatus with
    | .notConnected =>
      match message.connect with
      | none => some s
      | some connect => some { s.handleConnect connect with connectionStatus := .afterConnect }
    | .afterConnect =>
      match message.status with
      | none => some s
      | some status =>
        match s.handleStatus P status with
        | none => none
        | some s =>
          match s.sendCommand P defaultJsonCommand with
          | none => none
          | some s => some { s with connectionStatus := .afterStatus }
    | .afterStatus =>
      match message.status with
      | none => some s
      | some status =>
        match s.handleStatus P status with
        | none => none
        | some s => s.sendCommand P emptyJsonCommand

/-! ## What is published -/

/-- The command of a number. -/
def commandOfNumber (n : Nat) : Json := if n = 0 then defaultJsonCommand else emptyJsonCommand

/-- The answers to some statuses, the command of the first being number `n`. -/
def answers (sessionId : Bytes) : Nat → List StatusMessage → List ExternalServer
  | _, [] => []
  | n, status :: rest =>
    .statusResponse sessionId status.messageCounter
      :: .command sessionId n status.deviceStatus.device (P.dumps (commandOfNumber n))
      :: answers sessionId (n + 1) rest

/-- The statuses that are answered: those behind the first connect message. -/
def heard : List ExternalClient → List StatusMessage
  | [] => []
  | message :: rest =>
    match message.connect with
    | none => heard rest
    | some _ => rest.filterMap ExternalClient.status

/-- What is published for some messages. -/
def conversation : List ExternalClient → List ExternalServer
  | [] => []
  | message :: rest =>
    match message.connect with
    | none => conversation rest
    | some connect => .connectResponse connect.sessionId
      :: answers P connect.sessionId 0 (rest.filterMap ExternalClient.status)

/-- The gateway is connected and has got `n` commands. -/
structure Connected (s : TestServer) (n : Nat) : Prop where
  status_eq : s.connectionStatus = if n = 0 then .afterConnect else .afterStatus
  counter_eq : s.commandMessageCounter = n

variable {P} {s : TestServer} {n : Nat} {payload : Bytes} {message : ExternalClient}

/-- A message without a status. -/
theorem Connected.ignored (h : s.Connected n) (hpayload : P.fromString payload = some message)
    (hstatus : message.status = none) : s.onMessage P payload = some s := by
  unfold onMessage
  rw [hpayload, h.status_eq]
  by_cases hn : n = 0
  · rw [if_pos hn]
    simp only [hstatus]
  · rw [if_neg hn]
    simp only [hstatus]

/-- A status whose texts do not read. -/
theorem Connected.stops (h : s.Connected n) (hpayload : P.fromString payload = some message)
    {status : StatusMessage} (hstatus : message.status = some status)
    (hprint : printStatus P status = false) : s.onMessage P payload = none := by
  have hhandle : s.handleStatus P status = none := by
    unfold handleStatus
    rw [hprint]
    rfl
  unfold onMessage
  rw [hpayload, h.status_eq]
  by_cases hn : n = 0
  · rw [if_pos hn]
    simp only [hstatus, hhandle]
  · rw [if_neg hn]
    simp only [hstatus, hhandle]

/-- **A status** is answered with its response and the next command. -/
theorem Connected.answered (h : s.Connected n) (hpayload : P.fromString payload = some message)
    {status : StatusMessage} (hstatus : message.status = some status)
    (hprint : printStatus P status = true) :
    ∃ s', s.onMessage P payload = some s' ∧ s'.Connected (n + 1) ∧ s'.sessionId = s.sessionId
      ∧ s'.published = s.published ++ [.statusResponse s.sessionId status.messageCounter,
        .command s.sessionId n status.deviceStatus.device (P.dumps (commandOfNumber n))] := by
  unfold onMessage handleStatus commandOfNumber
  rw [hpayload, h.status_eq]
  by_cases hn : n = 0
  · simp only [if_pos hn, hstatus, hprint]
    refine ⟨_, rfl, ⟨rfl, congrArg (· + 1) h.counter_eq⟩, rfl, ?_⟩
    simp [publish, h.counter_eq]
  · simp only [if_neg hn, hstatus, hprint]
    refine ⟨_, rfl, ⟨?_, congrArg (· + 1) h.counter_eq⟩, rfl, ?_⟩
    · simp [publish, hn]
    · simp [publish, h.counter_eq]

/-- Once connected, each status is answered in turn. The loop runs to its end
when every payload decodes and every status prints. -/
theorem Connected.run (payloads : List Bytes) (h : s.Connected n) :
    (payloads.foldlM (onMessage P) s).map published
      = (payloads.mapM P.fromString).bind fun ms =>
        if (ms.filterMap ExternalClient.status).all (printStatus P) = true then
          some (s.published ++ answers P s.sessionId n (ms.filterMap ExternalClient.status))
        else none := by
  induction payloads generalizing s n with
  | nil =>
    show some s.published = some (s.published ++ [])
    rw [List.append_nil]
  | cons payload payloads ih =>
    rw [List.foldlM_cons, List.mapM_cons]
    cases hpayload : P.fromString payload with
    | none =>
      have hstep : s.onMessage P payload = none := by
        unfold onMessage
        rw [hpayload]
      rw [hstep]
      rfl
    | some message =>
      cases hstatus : message.status with
      | none =>
        rw [h.ignored hpayload hstatus]
        refine (ih h).trans ?_
        cases payloads.mapM P.fromString with
        | none => rfl
        | some ms =>
          show (if _ then _ else _) = if _ then _ else _
          rw [List.filterMap_cons_none hstatus]
      | some status =>
        cases hprint : printStatus P status with
        | false =>
          rw [h.stops hpayload hstatus hprint]
          cases payloads.mapM P.fromString with
          | none => rfl
          | some ms =>
            show none = if _ then _ else _
            rw [List.filterMap_cons_some hstatus, List.all_cons, hprint, if_neg (by simp)]
        | true =>
          obtain ⟨s', hstep, hconnected, hsession, hpublished⟩ :=
            h.answered hpayload hstatus hprint
          rw [hstep]
          refine (ih hconnected).trans ?_
          cases payloads.mapM P.fromString with
          | none => rfl
          | some ms =>
            show (if _ then _ else _) = if _ then _ else _
            rw [List.filterMap_cons_some hstatus, List.all_cons, hprint, Bool.true_and,
              hsession, hpublished, List.append_assoc]
            rfl

/-- A connect message opens the session. -/
theorem start_connect (hpayload : P.fromString payload = some message)
    {connect : ConnectMessage} (hconnect : message.connect = some connect) :
    ∃ s', start.onMessage P payload = some s' ∧ s'.Connected 0
      ∧ s'.sessionId = connect.sessionId ∧ s'.published = [.connectResponse connect.sessionId] := by
  refine ⟨{ start.handleConnect connect with connectionStatus := .afterConnect }, ?_,
    ⟨rfl, rfl⟩, rfl, rfl⟩
  unfold onMessage
  rw [hpayload]
  show (match message.connect with | none => _ | some connect => _) = _
  rw [hconnect]

/-- Anything else is skipped before the session is open. -/
theorem start_skip (hpayload : P.fromString payload = some message)
    (hconnect : message.connect = none) : start.onMessage P payload = some start := by
  unfold onMessage
  rw [hpayload]
  show (match message.connect with | none => _ | some connect => _) = _
  rw [hconnect]

/-- **The conversation.** The loop runs to its end exactly when every payload
decodes and every status behind the first connect message can be printed. Then
what was published is one connect response, and for each of these statuses a
response with its counter and a command with the next number. Connect messages
after the first one do not change the session. -/
theorem conversation_eq (P : PythonLibrary) (payloads : List Bytes) :
    (payloads.foldlM (onMessage P) start).map published
      = (payloads.mapM P.fromString).bind fun ms =>
        if (heard ms).all (printStatus P) = true then some (conversation P ms) else none := by
  induction payloads with
  | nil => rfl
  | cons payload payloads ih =>
    rw [List.foldlM_cons, List.mapM_cons]
    cases hpayload : P.fromString payload with
    | none =>
      have hstep : start.onMessage P payload = none := by
        unfold onMessage
        rw [hpayload]
      rw [hstep]
      rfl
    | some message =>
      cases hconnect : message.connect with
      | none =>
        rw [start_skip hpayload hconnect]
        refine ih.trans ?_
        cases payloads.mapM P.fromString with
        | none => rfl
        | some ms =>
          show (if _ then _ else _) = if (heard (message :: ms)).all _ = true then _ else _
          rw [heard, conversation, hconnect]
      | some connect =>
        obtain ⟨s', hstep, hconnected, hsession, hpublished⟩ := start_connect hpayload hconnect
        rw [hstep]
        refine (hconnected.run payloads).trans ?_
        cases payloads.mapM P.fromString with
        | none => rfl
        | some ms =>
          show (if _ then _ else _) = if (heard (message :: ms)).all _ = true then _ else _
          rw [heard, conversation, hconnect, hsession, hpublished]
          rfl

/-! ## What the module makes of the commands -/

/-- What a message does: nothing, or it opens the session, or it is a status
that is answered. -/
theorem onMessage_cases {s' : TestServer} (h : s.onMessage P payload = some s') :
    s' = s
      ∨ (∃ connect, s.connectionStatus = .notConnected
        ∧ s' = { s.handleConnect connect with connectionStatus := .afterConnect })
      ∨ ∃ (status : StatusMessage) (command : Json),
        (s.connectionStatus = .afterConnect ∧ command = defaultJsonCommand
          ∨ s.connectionStatus = .afterStatus ∧ command = emptyJsonCommand)
        ∧ s' = ⟨.afterStatus, s.sessionId, s.commandMessageCounter + 1, some status.deviceStatus,
          s.published ++ [.statusResponse s.sessionId status.messageCounter,
            .command s.sessionId s.commandMessageCounter status.deviceStatus.device
              (P.dumps command)]⟩ := by
  unfold onMessage handleStatus at h
  split at h
  next => cases h
  next message hmessage =>
    split at h
    next hstatus =>
      split at h
      next => exact .inl (Option.some.inj h).symm
      next connect hconnect => exact .inr (.inl ⟨connect, hstatus, (Option.some.inj h).symm⟩)
    next hstatus =>
      split at h
      next => exact .inl (Option.some.inj h).symm
      next status _ =>
        by_cases hprint : printStatus P status = true
        · simp only [if_pos hprint, sendCommand, publish, Option.some.injEq] at h
          refine .inr (.inr ⟨status, _, .inl ⟨hstatus, rfl⟩, ?_⟩)
          rw [← h]
          simp
        · simp only [if_neg hprint] at h
          cases h
    next hstatus =>
      split at h
      next => exact .inl (Option.some.inj h).symm
      next status _ =>
        by_cases hprint : printStatus P status = true
        · simp only [if_pos hprint, sendCommand, publish, Option.some.injEq] at h
          refine .inr (.inr ⟨status, _, .inr ⟨hstatus, rfl⟩, ?_⟩)
          rw [← h, ← hstatus]
          simp
        · simp only [if_neg hprint] at h
          cases h

variable (P) in
/-- The command of each number is the one that is meant for it. -/
structure Numbered (s : TestServer) : Prop where
  /-- only the first status is answered with command 0 -/
  first : s.connectionStatus ≠ .afterStatus ↔ s.commandMessageCounter = 0
  commands : ∀ {sessionId n device data}, .command sessionId n device data ∈ s.published →
    data = P.dumps (commandOfNumber n)

/-- A message keeps the commands numbered. -/
theorem Numbered.onMessage {s' : TestServer} (h : s.Numbered P)
    (hstep : s.onMessage P payload = some s') : s'.Numbered P := by
  rcases onMessage_cases hstep with rfl | ⟨connect, hstatus, rfl⟩ |
    ⟨status, command, hcommand, rfl⟩
  · exact h
  · have hzero : s.commandMessageCounter = 0 := h.first.mp (by rw [hstatus]; decide)
    refine ⟨⟨fun _ => hzero, fun _ => (nofun : ConnectionStatus.afterConnect ≠ .afterStatus)⟩,
      fun hmem => ?_⟩
    rcases List.mem_append.mp hmem with hold | hnew
    · exact h.commands hold
    · cases List.mem_singleton.mp hnew
  · have hdata : command = commandOfNumber s.commandMessageCounter := by
      unfold commandOfNumber
      rcases hcommand with ⟨hstatus, rfl⟩ | ⟨hstatus, rfl⟩
      · rw [if_pos (h.first.mp (by rw [hstatus]; decide))]
      · rw [if_neg fun hzero => h.first.mpr hzero hstatus]
    refine ⟨⟨fun hne => absurd rfl hne, fun hzero => absurd hzero (Nat.succ_ne_zero _)⟩,
      fun hmem => ?_⟩
    rcases List.mem_append.mp hmem with hold | hnew
    · exact h.commands hold
    · rcases List.mem_pair.mp hnew with hresponse | hcommand
      · cases hresponse
      · cases hcommand
        rw [hdata]

/-- In every run the commands are numbered. -/
theorem run_numbered {payloads : List Bytes} {s s' : TestServer} (h : s.Numbered P)
    (hrun : payloads.foldlM (TestServer.onMessage P) s = some s') : s'.Numbered P := by
  induction payloads generalizing s with
  | nil => exact Option.some.inj hrun ▸ h
  | cons payload payloads ih =>
    rw [List.foldlM_cons] at hrun
    obtain ⟨s₁, hstep, hrest⟩ := Option.bind_eq_some_iff.mp hrun
    exact ih (h.onMessage hstep) hrest

/-- What a reader that takes Python's text makes of a command: the first one
is not a command, since `outNum` is missing in it, the others are empty. -/
theorem deserialize_commandOfNumber {N : JsonText}
    (hdefault : N.parse (P.dumps defaultJsonCommand) = .ok defaultJsonCommand)
    (hempty : N.parse (P.dumps emptyJsonCommand) = .ok emptyJsonCommand) (n : Nat) :
    DeviceCommand.fresh.deserializeFromBuffer N (.data (P.dumps (commandOfNumber n)))
      = (.ok (if n = 0 then .notOk else .ok), .fresh) := by
  unfold commandOfNumber DeviceCommand.deserializeFromBuffer
  by_cases hn : n = 0
  · rw [if_pos hn, if_pos hn]
    simp only [Buffer.bytes, hdefault]
    rfl
  · rw [if_neg hn, if_neg hn]
    simp only [Buffer.bytes, hempty]
    rfl

/-- **The commands do nothing.** In every run of the test server, whatever the
gateway sends: `command_data_valid` of every supported device type rejects the
first command and accepts the others, and no command changes the status of a
device that follows it. The reader only has to take the two texts that
`json.dumps` writes for what they are. -/
theorem test_server_commands (N : JsonText) (P : PythonLibrary)
    (hdefault : N.parse (P.dumps defaultJsonCommand) = .ok defaultJsonCommand)
    (hempty : N.parse (P.dumps emptyJsonCommand) = .ok emptyJsonCommand)
    {payloads : List Bytes} {s : TestServer}
    (hrun : payloads.foldlM (TestServer.onMessage P) start = some s) :
    ∀ sessionId n device data, .command sessionId n device data ∈ s.published →
      ∀ deviceType, isDeviceTypeSupported deviceType = .ok →
        commandDataValid N (.data data) deviceType = .ok (if n = 0 then .notOk else .ok)
        ∧ ∀ {I O : Nat} (status : DeviceStatus I O), status.follow N deviceType data = status := by
  intro sessionId n device data hmem deviceType hsupported
  have hstart : start.Numbered P := ⟨⟨fun _ => rfl, fun _ => nofun⟩, fun h => by cases h⟩
  have hdata := (run_numbered hstart hrun).commands hmem
  have hread := deserialize_commandOfNumber hdefault hempty n
  rw [← hdata] at hread
  refine ⟨?_, fun status => ?_⟩
  · rw [supported_commandDataValid hsupported]
    exact congrArg Prod.fst hread
  · unfold DeviceStatus.follow
    rw [supported_generateCommand hsupported]
    show status.execute (DeviceCommand.fresh.deserializeFromBuffer N (.data data)).2 = _
    rw [hread]
    rfl

/-- Two payloads, a connect message and a status of an Opta, and the texts of
the two commands as Python writes them. -/
def sample : PythonLibrary where
  fromString payload := match payload with
    | [0] => some ⟨some ⟨Json.ascii "session"⟩, none⟩
    | [1] => some ⟨none, some ⟨1, 7, ⟨⟨2, 1, 0, Json.ascii "role", Json.ascii "opta"⟩,
        Json.ascii "\x7b\x7d"⟩, []⟩⟩
    | _ => none
  loads text := text != []
  dumps j :=
    if j = defaultJsonCommand then
      Json.ascii "[\x7b\"outputNumber\": 1, \"actionType\": 1\x7d, " ++
        Json.ascii "\x7b\"outputNumber\": 2, \"actionType\": 1\x7d]"
    else Json.ascii "\x7b\x7d"

/-- A reader that skips the blanks. -/
def skipBlanks : JsonText := ⟨fun text => Json.parse (text.filter (· != 32)), Json.dump⟩

/-- A connect message and two statuses: both commands are published. -/
theorem test_server_commands_two : ∃ s, [[0], [1], [1]].foldlM (onMessage sample) start = some s
    ∧ s.published.length = 5
    ∧ ∀ sessionId n device data, .command sessionId n device data ∈ s.published →
      ∀ deviceType, isDeviceTypeSupported deviceType = .ok →
        commandDataValid skipBlanks (.data data) deviceType = .ok (if n = 0 then .notOk else .ok)
        ∧ ∀ {I O : Nat} (status : DeviceStatus I O),
          status.follow skipBlanks deviceType data = status := by
  have hplay : ([[0], [1], [1]].foldlM (onMessage sample) start).any
      (fun s => s.published.length = 5) = true := by decide +kernel
  obtain ⟨s, hrun, hlen⟩ := (Option.any_eq_true _ _).mp hplay
  exact ⟨s, hrun, of_decide_eq_true hlen,
    test_server_commands skipBlanks sample (by decide +kernel) (by decide +kernel) hrun⟩

end TestServer

end IoModule

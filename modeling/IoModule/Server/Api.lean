import IoModule.Server.Init
import IoModule.Server.Session

/-!
# The external server API

All functions of `external_server_api.cpp` behind the `void *context` they
take: `init` makes a context, `destroy` deletes it and sets the caller's pointer
to null, and every function in between first looks whether the pointer is null.
`Api` is one caller with the one pointer it keeps, in any order of calls,
`init` and `destroy` among them.

The HTTP client is not part of this repository. What is recorded of it are the
calls the module makes on it (`ClientCall`), and what they come to: a text is
sent under the device identification that was set last, by the client that was
made last (`Sender`).

- `Called`: what one call does, by kind of call.
- `forwards_delivered`: a forward sets the identification and sends the text
  in two calls on the client, and polls come in between; still every text that
  goes out goes out under its own device.
- `current_session`: what lies between an `init` and the next `destroy` is a
  session from a fresh context, so what holds of every session holds of it,
  and nothing of an earlier context is left.
-/

namespace IoModule

/-! ## The client -/

/-- What `sendStatus` takes a text for; a status, unless it is told
otherwise. -/
inductive StatusType where
  | status
  | statusError
deriving DecidableEq, Repr

/-- A call the module makes on a client. -/
inductive ClientCall where
  | make (fleetApiConfig : FleetApiClientConfig)
    (requestFrequencyGuardConfig : RequestFrequencyGuardConfig)
  | setDeviceIdentification (deviceId : DeviceIdentification)
  | sendStatus (status : Bytes) (type : StatusType) (sent : Bool)
  | getCommands (since : Int64) (wait : Bool)
deriving DecidableEq, Repr

/-! ## The functions

Four of them look at no more than whether the pointer is null. -/

/-- `destroy`, on the caller's pointer. -/
def destroy {α : Type} : Option α → ReturnCode × Option α
  | none => (.notOk, none)
  | some _ => (.ok, none)

/-- What the two forwards share: the client is told the device, its priority
as 0, and then the text, which it sends or throws on. -/
def forward {α : Type} (type : StatusType) (text : Bytes) (device : DeviceIdentification)
    (sent : Bool) : Option α → ReturnCode × List ClientCall
  | none => (.contextIncorrect, [])
  | some _ =>
    (if sent then .ok else .notOk,
      [.setDeviceIdentification { device with priority := 0 }, .sendStatus text type sent])

/-- `forward_status`. Nobody waits on the condition variable it notifies. -/
def forwardStatus {α : Type} : Bytes → DeviceIdentification → Bool → Option α →
    ReturnCode × List ClientCall :=
  forward .status

/-- `forward_error_message` -/
def forwardErrorMessage {α : Type} : Bytes → DeviceIdentification → Bool → Option α →
    ReturnCode × List ClientCall :=
  forward .statusError

/-- `command_ack` looks at nothing, not even at the pointer. -/
def commandAck {α : Type} (_command : Bytes) (_device : DeviceIdentification)
    (_context : Option α) : ReturnCode := .ok

/-- `device_connected` -/
def deviceConnected (granted : ConnectGrants) (device : DeviceIdentification) :
    Option Context → Option ReturnCode × Option Context
  | none => (some .contextIncorrect, none)
  | some con =>
    let (result, con) := con.deviceConnected granted device
    (result, some con)

/-- `device_disconnected` -/
def deviceDisconnected (disconnectType : Int32) (device : DeviceIdentification) :
    Option Context → ReturnCode × Option Context
  | none => (.contextIncorrect, none)
  | some con =>
    let (rc, con) := con.deviceDisconnected disconnectType device
    (rc, some con)

/-! ## A caller -/

/-- A call of the API, with what the world answers in it. -/
inductive ApiCall where
  | init (config : List (String × String))
  | destroy
  | forwardStatus (deviceStatus : Bytes) (device : DeviceIdentification) (sent : Bool)
  | forwardErrorMessage (errorMsg : Bytes) (device : DeviceIdentification) (sent : Bool)
  | deviceDisconnected (disconnectType : Int32) (device : DeviceIdentification)
  | deviceConnected (granted : ConnectGrants) (device : DeviceIdentification)
  | waitForCommand (answer : Answer)
  | popCommand (granted : PopGrants)
  | commandAck (command : Bytes) (device : DeviceIdentification)
deriving DecidableEq, Repr

/-- What a call answers: `init` a pointer, null or not, the others as in a
session. -/
inductive ApiResult where
  | pointer (nonNull : Bool)
  | result (r : Result)
deriving DecidableEq, Repr

variable (N : JsonText)

/-- A call on the caller's pointer: the answer, the pointer afterwards, and the
calls made on the client. Nothing when the call is undefined. -/
def ApiCall.perform (context : Option Context) :
    ApiCall → Option (ApiResult × Option Context × List ClientCall)
  | .init config =>
    match IoModule.init config with
    | none => some (.pointer false, none, [])
    | some made => some (.pointer true, some made.context,
        [.make made.fleetApiConfig made.requestFrequencyGuardConfig])
  | .destroy =>
    let (rc, context) := IoModule.destroy context
    some (.result (.code rc), context, [])
  | .forwardStatus deviceStatus device sent =>
    let (rc, calls) := IoModule.forwardStatus deviceStatus device sent context
    some (.result (.code rc), context, calls)
  | .forwardErrorMessage errorMsg device sent =>
    let (rc, calls) := IoModule.forwardErrorMessage errorMsg device sent context
    some (.result (.code rc), context, calls)
  | .deviceDisconnected disconnectType device =>
    let (rc, context) := IoModule.deviceDisconnected disconnectType device context
    some (.result (.code rc), context, [])
  | .deviceConnected granted device =>
    let (result, context) := IoModule.deviceConnected granted device context
    some (.result (.ofConnect result), context, [])
  | .waitForCommand answer =>
    let (result, context') := IoModule.waitForCommand N (fun _ => answer) context
    some (.result (.ofWait result), context',
      context.toList.map fun con => .getCommands con.since true)
  | .popCommand granted =>
    match IoModule.popCommand N granted context with
    | some (result, context) => some (.result (.ofPop result), context, [])
    | none => none
  | .commandAck command device =>
    some (.result (.code (IoModule.commandAck command device context)), context, [])

/-- A caller: its pointer, the calls made on clients so far, and a log of its
own calls with their answers. -/
structure Api where
  context : Option Context
  clientCalls : List ClientCall
  log : List (ApiCall × ApiResult)
deriving DecidableEq, Repr

namespace Api

/-- A caller that has not called anything. -/
def start : Api := ⟨none, [], []⟩

/-- A caller after one more call. -/
def apply (s : Api) (call : ApiCall) : Option Api :=
  match call.perform N s.context with
  | some (result, context, calls) =>
    some ⟨context, s.clientCalls ++ calls, s.log ++ [(call, result)]⟩
  | none => none

end Api

/-! ## One call -/

/-- The same call in a session; `init` and `destroy` are not part of one. -/
def ApiCall.toCall : ApiCall → Option Call
  | .init _ => none
  | .destroy => none
  | .forwardStatus _ _ sent => some (.forwardStatus sent)
  | .forwardErrorMessage _ _ sent => some (.forwardErrorMessage sent)
  | .deviceDisconnected disconnectType device => some (.deviceDisconnected disconnectType device)
  | .deviceConnected granted device => some (.deviceConnected granted device)
  | .waitForCommand answer => some (.waitForCommand answer)
  | .popCommand granted => some (.popCommand granted)
  | .commandAck _ _ => some .commandAck

/-- The calls a function makes on the client of its context. -/
def ApiCall.clientCalls (con : Context) : ApiCall → List ClientCall
  | .forwardStatus deviceStatus device sent =>
    (IoModule.forwardStatus deviceStatus device sent (some con)).2
  | .forwardErrorMessage errorMsg device sent =>
    (IoModule.forwardErrorMessage errorMsg device sent (some con)).2
  | .waitForCommand _ => [.getCommands con.since true]
  | _ => []

/-- What a call does, by what it finds behind the pointer. -/
inductive Called : Option Context → ApiCall → ApiResult → Option Context → List ClientCall → Prop
  where
  | made {context : Option Context} {config : List (String × String)} {made : InitResult}
      (h : IoModule.init config = some made) :
      Called context (.init config) (.pointer true) (some .initial)
        [.make made.fleetApiConfig made.requestFrequencyGuardConfig]
  | refused {context : Option Context} {config : List (String × String)}
      (h : IoModule.init config = none) :
      Called context (.init config) (.pointer false) none []
  | destroyed {con : Context} :
      Called (some con) .destroy (.result (.code .ok)) none []
  | inSession {con con' : Context} {call : ApiCall} {inner : Call} {r : Result}
      (hcall : call.toCall = some inner) (h : con.perform N inner = some (r, con')) :
      Called (some con) call (.result r) (some con') (call.clientCalls con)
  | onNull {call : ApiCall} {rc : ReturnCode}
      (hrc : rc = .contextIncorrect ∨ (call = .destroy ∧ rc = .notOk)
        ∨ ∃ command device, call = .commandAck command device) :
      Called none call (.result (.code rc)) none []
  | nothingToPop {granted : PopGrants} :
      Called none (.popCommand granted) (.result (.popped (.failed .contextIncorrect))) none []

variable {N}

/-- `init` does not mind what the pointer was. -/
theorem called_init {context context' : Option Context} {config : List (String × String)}
    {result : ApiResult} {calls : List ClientCall}
    (h : (ApiCall.init config).perform N context = some (result, context', calls)) :
    Called N context (.init config) result context' calls := by
  cases hinit : IoModule.init config with
  | none =>
    simp only [ApiCall.perform, hinit, Option.some.injEq, Prod.mk.injEq] at h
    obtain ⟨rfl, rfl, rfl⟩ := h
    exact .refused hinit
  | some made =>
    simp only [ApiCall.perform, hinit, init_context hinit, Option.some.injEq, Prod.mk.injEq] at h
    obtain ⟨rfl, rfl, rfl⟩ := h
    exact .made hinit

/-- What a call does to a null pointer. -/
theorem called_null {call : ApiCall} {result : ApiResult} {context : Option Context}
    {calls : List ClientCall} (h : call.perform N none = some (result, context, calls)) :
    Called N none call result context calls := by
  cases call with
  | init config => exact called_init h
  | destroy =>
    cases h
    exact .onNull (Or.inr (Or.inl ⟨rfl, rfl⟩))
  | commandAck command device =>
    cases h
    exact .onNull (Or.inr (Or.inr ⟨command, device, rfl⟩))
  | popCommand granted =>
    cases h
    exact .nothingToPop
  | _ =>
    cases h
    exact .onNull (Or.inl rfl)

/-- What a call does to a context. -/
theorem called_some {con : Context} {call : ApiCall} {result : ApiResult}
    {context : Option Context} {calls : List ClientCall}
    (h : call.perform N (some con) = some (result, context, calls)) :
    Called N (some con) call result context calls := by
  cases call with
  | init config => exact called_init h
  | destroy =>
    cases h
    exact .destroyed
  | popCommand granted =>
    cases hpop : con.popCommand N granted with
    | none =>
      simp only [ApiCall.perform, popCommand, hpop] at h
      cases h
    | some p =>
      obtain ⟨popped, con'⟩ := p
      simp only [ApiCall.perform, popCommand, hpop, Option.some.injEq, Prod.mk.injEq] at h
      obtain ⟨rfl, rfl, rfl⟩ := h
      refine .inSession rfl ?_
      simp only [Context.perform, hpop]
  | forwardStatus deviceStatus device sent =>
    cases h
    exact .inSession rfl rfl
  | forwardErrorMessage errorMsg device sent =>
    cases h
    exact .inSession rfl rfl
  | deviceDisconnected disconnectType device =>
    cases h
    exact .inSession rfl rfl
  | deviceConnected granted device =>
    cases h
    exact .inSession rfl rfl
  | waitForCommand answer =>
    cases h
    exact .inSession rfl rfl
  | commandAck command device =>
    cases h
    exact .inSession rfl rfl

/-- **One call.** -/
theorem Api.apply_cases {s s' : Api} {call : ApiCall} (h : s.apply N call = some s') :
    ∃ result calls, Called N s.context call result s'.context calls
      ∧ s'.clientCalls = s.clientCalls ++ calls ∧ s'.log = s.log ++ [(call, result)] := by
  unfold Api.apply at h
  split at h
  next result context calls hperform =>
    cases h
    refine ⟨result, calls, ?_, rfl, rfl⟩
    show Called N s.context call result context calls
    cases hcontext : s.context with
    | none => exact called_null (hcontext ▸ hperform)
    | some con => exact called_some (hcontext ▸ hperform)
  next => cases h

/-! ## What goes out -/

/-- A text that went out: by the client of which configuration, under which
device. -/
structure Sent where
  client : Option FleetApiClientConfig
  device : Option DeviceIdentification
  text : Bytes
  type : StatusType
deriving DecidableEq, Repr

/-- The client made last, the device it was told last, and everything that
went out so far. -/
structure Sender where
  client : Option FleetApiClientConfig
  device : Option DeviceIdentification
  sent : List Sent
deriving DecidableEq, Repr

/-- One call on a client. -/
def Sender.called (s : Sender) : ClientCall → Sender
  | .make fleetApiConfig _ => { s with client := some fleetApiConfig, device := none }
  | .setDeviceIdentification deviceId => { s with device := some deviceId }
  | .sendStatus status type sent =>
    if sent then { s with sent := s.sent ++ [⟨s.client, s.device, status, type⟩] } else s
  | .getCommands _ _ => s

/-- What the caller was told: the client its last `init` made, and the texts
whose forwarding was answered with `OK`. -/
structure Told where
  client : Option FleetApiClientConfig
  sent : List Sent
deriving DecidableEq, Repr

/-- One entry of the log. -/
def Told.answered (t : Told) : ApiCall × ApiResult → Told
  | (.init config, .pointer true) =>
    { t with client := (IoModule.init config).map InitResult.fleetApiConfig }
  | (.forwardStatus deviceStatus device _, .result (.code .ok)) =>
    { t with
      sent := t.sent ++ [⟨t.client, some { device with priority := 0 }, deviceStatus, .status⟩] }
  | (.forwardErrorMessage errorMsg device _, .result (.code .ok)) =>
    { t with
      sent := t.sent ++ [⟨t.client, some { device with priority := 0 }, errorMsg, .statusError⟩] }
  | _ => t

namespace Api

/-- The sender the calls on the clients add up to. -/
def sender (s : Api) : Sender := s.clientCalls.foldl Sender.called ⟨none, none, []⟩

/-- What the log adds up to. -/
def told (s : Api) : Told := s.log.foldl Told.answered ⟨none, []⟩

/-- What goes out is what the caller was told, and a context has a client. -/
structure Forwards (s : Api) : Prop where
  client_eq : s.sender.client = s.told.client
  sent_eq : s.sender.sent = s.told.sent
  client_made : s.context ≠ none → s.sender.client ≠ none
  sent_by : ∀ x ∈ s.sender.sent, x.client ≠ none

theorem forwards_start : Api.start.Forwards :=
  ⟨rfl, rfl, fun h => absurd rfl h, fun _ h => absurd h List.not_mem_nil⟩

end Api

/-- What a call of a session adds on either side: a text under its own device
if it is a forward that answers `OK`, nothing otherwise. -/
theorem forward_both {con con' : Context} {call : ApiCall} {inner : Call} {r : Result}
    (hcall : call.toCall = some inner) (h : con.perform N inner = some (r, con')) (s : Sender)
    (t : Told) :
    ∃ texts : List (DeviceIdentification × Bytes × StatusType), ∃ device,
      (call.clientCalls con).foldl Sender.called s = { s with
        device := device
        sent := s.sent ++ texts.map fun x => ⟨s.client, some x.1, x.2.1, x.2.2⟩ }
      ∧ t.answered (call, .result r) = { t with
        sent := t.sent ++ texts.map fun x => ⟨t.client, some x.1, x.2.1, x.2.2⟩ } := by
  have hnothing : { s with device := s.device, sent := s.sent ++ [] } = s := by
    rw [List.append_nil]
  cases call with
  | init config => cases hcall
  | destroy => cases hcall
  | forwardStatus deviceStatus device sent =>
    cases hcall
    cases h
    cases sent with
    | true => exact ⟨[({ device with priority := 0 }, deviceStatus, .status)], _, rfl, rfl⟩
    | false => exact ⟨[], _, by rw [List.map_nil, List.append_nil]; rfl, by simp [Told.answered]⟩
  | forwardErrorMessage errorMsg device sent =>
    cases hcall
    cases h
    cases sent with
    | true => exact ⟨[({ device with priority := 0 }, errorMsg, .statusError)], _, rfl, rfl⟩
    | false => exact ⟨[], _, by rw [List.map_nil, List.append_nil]; rfl, by simp [Told.answered]⟩
  | _ => exact ⟨[], _, hnothing.symm, by simp [Told.answered]⟩

namespace Api

/-- A call that leaves no context and nothing to tell. -/
theorem Forwards.kept {s s' : Api} (h : s.Forwards) (hcontext : s'.context = none)
    (hsender : s'.sender = s.sender) (htold : s'.told = s.told) : s'.Forwards where
  client_eq := by rw [hsender, htold, h.client_eq]
  sent_eq := by rw [hsender, htold, h.sent_eq]
  client_made hne := absurd hcontext hne
  sent_by := hsender ▸ h.sent_by

/-- A call keeps the two sides together. -/
theorem Forwards.apply {s s' : Api} {call : ApiCall} (h : s.Forwards)
    (hstep : s.apply N call = some s') : s'.Forwards := by
  obtain ⟨result, calls, hcalled, hclient, hlog⟩ := Api.apply_cases hstep
  have hsender : s'.sender = calls.foldl Sender.called s.sender := by
    unfold sender
    rw [hclient, List.foldl_append]
  have htold : s'.told = s.told.answered (call, result) := by
    unfold told
    rw [hlog, List.foldl_append]
    rfl
  generalize hbefore : s.context = before at hcalled
  generalize hafter : s'.context = after at hcalled
  cases hcalled with
  | made hinit =>
    refine ⟨?_, ?_, fun _ => ?_, ?_⟩
    · rw [hsender, htold]
      simp [Sender.called, Told.answered, hinit]
    · rw [hsender, htold]
      exact h.sent_eq
    · rw [hsender]
      exact Option.some_ne_none _
    · rw [hsender]
      exact h.sent_by
  | refused hinit => exact h.kept hafter hsender htold
  | destroyed => exact h.kept hafter hsender htold
  | inSession hcall hperform =>
    obtain ⟨texts, device, hcalls, hanswered⟩ := forward_both hcall hperform s.sender s.told
    have hmade : s.sender.client ≠ none := h.client_made (hbefore ▸ Option.some_ne_none _)
    rw [hcalls] at hsender
    rw [hanswered] at htold
    refine ⟨?_, ?_, fun _ => ?_, ?_⟩
    · rw [hsender, htold]
      exact h.client_eq
    · rw [hsender, htold, h.sent_eq, h.client_eq]
    · rw [hsender]
      exact hmade
    · rw [hsender]
      refine List.forall_mem_append.mpr ⟨h.sent_by, fun x hx => ?_⟩
      obtain ⟨text, -, rfl⟩ := List.mem_map.mp hx
      exact hmade
  | @onNull _ rc hrc =>
    refine h.kept hafter hsender (htold.trans ?_)
    rcases hrc with rfl | ⟨rfl, rfl⟩ | ⟨command, device, rfl⟩
    · cases call <;> rfl
    · rfl
    · rfl
  | nothingToPop => exact h.kept hafter hsender htold

/-- **Every text goes out under its own device.** In any run of the API, over
any number of contexts, what the clients have sent is exactly what was answered
with `OK`, in that order: each status and each error message by the client the
last `init` made, under the identification of its own device with priority 0,
whatever other devices were forwarded for and whatever was polled in between. -/
theorem forwards_delivered {allows : Api → ApiCall → Prop} {s : Api}
    (h : Run (Api.apply N) allows .start s) :
    s.sender.sent = s.told.sent ∧ ∀ x ∈ s.sender.sent, x.client ≠ none := by
  have hforwards : s.Forwards :=
    h.inv (fun _ _ ⟨_, _, hstep⟩ hs => hs.apply hstep) forwards_start
  exact ⟨hforwards.sent_eq, hforwards.sent_by⟩

/-- A status of one device, polls and a failed error message of another in
between, a new context, and a forward on no context at all. -/
def forwardCalls : List ApiCall :=
  [.init documentedConfig, .forwardStatus [91, 93] (gate 0) true, .waitForCommand .throws,
    .forwardErrorMessage [123, 125] (gate 1) false, .forwardStatus [48] (gate 2) true, .destroy,
    .forwardStatus [49] (gate 0) true, .init documentedConfig,
    .forwardErrorMessage [50] (gate 1) true]

/-- Three texts of these calls have gone out. -/
theorem forwards_delivered_three :
    ∃ s : Api, s.sender.sent.length = 3 ∧ s.sender.sent = s.told.sent
      ∧ ∀ x ∈ s.sender.sent, x.client ≠ none := by
  have hplayed : ((play (Api.apply .compact) (fun _ _ => True) forwardCalls .start).any
      fun s => s.sender.sent.length = 3) = true := by decide +kernel
  obtain ⟨s, hrun, hlength⟩ := exists_run_of_play hplayed
  exact ⟨s, of_decide_eq_true hlength, forwards_delivered hrun⟩

/-! ## One context after the other -/

/-- The log of the session on the current context, after one more entry. An
`init` starts a new one. -/
def sessionEntry (log : List (Call × Result)) : ApiCall × ApiResult → List (Call × Result)
  | (call, .result r) =>
    match call.toCall with
    | some inner => log ++ [(inner, r)]
    | none => log
  | (_, .pointer _) => []

/-- The log of the session on the current context. -/
def sessionLog (s : Api) : List (Call × Result) := s.log.foldl sessionEntry []

/-- Whether the pointer is not null, after one more entry. -/
def pointerAfter (before : Bool) : ApiCall × ApiResult → Bool
  | (.init _, .pointer nonNull) => nonNull
  | (.destroy, _) => false
  | _ => before

/-- The context is what the session since the last `init` has made of a fresh
one, and it is there between an `init` that made it and a `destroy`. -/
structure InSession (N : JsonText) (s : Api) : Prop where
  pointer : s.context.isSome = s.log.foldl pointerAfter false
  session : ∀ con, s.context = some con →
    Run (Session.apply N) (fun _ _ => True) (.start .initial) ⟨con, s.sessionLog⟩

theorem inSession_start : Api.start.InSession N := ⟨rfl, fun _ h => nomatch h⟩

/-- A call that is not `init` answers no pointer and leaves it, or nulls it. -/
theorem pointerAfter_inner {call : ApiCall} {inner : Call} (hcall : call.toCall = some inner)
    (before : Bool) (r : Result) : pointerAfter before (call, .result r) = before := by
  cases call with
  | init config => cases hcall
  | destroy => cases hcall
  | _ => rfl

/-- A call keeps a caller in its session. -/
theorem InSession.apply {s s' : Api} {call : ApiCall} (h : s.InSession N)
    (hstep : s.apply N call = some s') : s'.InSession N := by
  obtain ⟨result, calls, hcalled, -, hlog⟩ := Api.apply_cases hstep
  have hpointer : s'.log.foldl pointerAfter false = pointerAfter s.context.isSome (call, result) := by
    rw [hlog, List.foldl_append, h.pointer]
    rfl
  have hentry : s'.sessionLog = sessionEntry s.sessionLog (call, result) := by
    unfold sessionLog
    rw [hlog, List.foldl_append]
    rfl
  generalize hbefore : s.context = before at hcalled hpointer
  generalize hafter : s'.context = after at hcalled
  cases hcalled with
  | made hinit =>
    refine ⟨?_, fun con hcon => ?_⟩
    · rw [hpointer, hafter]
      rfl
    · -- a new context: the session starts over
      obtain rfl : Context.initial = con := Option.some.inj (hafter.symm.trans hcon)
      rw [hentry]
      exact .refl
  | refused hinit =>
    refine ⟨?_, fun con hcon => nomatch hafter.symm.trans hcon⟩
    rw [hpointer, hafter]
    rfl
  | destroyed =>
    refine ⟨?_, fun con hcon => nomatch hafter.symm.trans hcon⟩
    rw [hpointer, hafter]
    rfl
  | @inSession con con' _ inner r hcall hperform =>
    refine ⟨?_, fun con₁ hcon => ?_⟩
    · rw [hpointer, hafter, pointerAfter_inner hcall]
      rfl
    · obtain rfl : con' = con₁ := Option.some.inj (hafter.symm.trans hcon)
      have hlogged : s'.sessionLog = s.sessionLog ++ [(inner, r)] := by
        rw [hentry]
        simp only [sessionEntry, hcall]
      rw [hlogged]
      refine (h.session con hbefore).tail ⟨inner, trivial, ?_⟩
      simp only [Session.apply, hperform]
  | onNull hrc =>
    refine ⟨?_, fun con hcon => nomatch hafter.symm.trans hcon⟩
    rw [hpointer, hafter]
    cases call <;> rfl
  | nothingToPop =>
    refine ⟨?_, fun con hcon => nomatch hafter.symm.trans hcon⟩
    rw [hpointer, hafter]
    rfl

/-- **One context, one session.** In any run of the API there is a context
exactly between an `init` that made one and the next `init` or `destroy`, and it
is what a session of the calls since then has made of a fresh one, with the
answers they were given. Nothing of an earlier context is left in it. -/
theorem current_session {allows : Api → ApiCall → Prop} {s : Api}
    (h : Run (Api.apply N) allows .start s) : s.InSession N :=
  h.inv (fun _ _ ⟨_, _, hstep⟩ hs => hs.apply hstep) inSession_start

/-- A context with a command in the queue is destroyed, and the next one made
is polled once. -/
def contextCalls : List ApiCall :=
  [.init documentedConfig, .waitForCommand (.commands [] true),
    .waitForCommand (.commands mixedBatch true), .destroy, .popCommand ⟨true, true, true⟩,
    .init documentedConfig, .deviceConnected ⟨true, true, true⟩ (gate 0),
    .waitForCommand (.commands mixedBatch true)]

/-- After these calls nothing is queued. -/
theorem current_session_second :
    ∃ s : Api, s.context = some ⟨[gate 0], [], 9⟩ ∧ s.InSession .compact := by
  have hplayed : ((play (Api.apply .compact) (fun _ _ => True) contextCalls .start).any
      fun s => s.context = some ⟨[gate 0], [], 9⟩) = true := by decide +kernel
  obtain ⟨s, hrun, hcontext⟩ := exists_run_of_play hplayed
  exact ⟨s, of_decide_eq_true hcontext, current_session hrun⟩

end Api

end IoModule

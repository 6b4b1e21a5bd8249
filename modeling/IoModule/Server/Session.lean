import IoModule.Run
import IoModule.Server.Poll
import IoModule.Server.Registry

/-!
# A session with the external server

The calls a gateway makes on one context between `init` and `destroy`, in any
order, and a log of what each has answered. `Performed` is what a call does to
the context, by kind of call; the results about sessions are read off it and
the log.

- `registry_is_multiset`: whatever is called, the devices of the context are
  the bag of those connected and not disconnected.
- `pop_never_empty`: `pop_command` takes the last command without a look
  whether there is one. It is there if the caller pops only after a poll that
  answered `OK`, or after a pop that has left something.
-/

namespace IoModule

/-- A call on a context. The two that forward go to the client only, which
sends the text or throws. -/
inductive Call where
  | waitForCommand (answer : Answer)
  | popCommand (granted : PopGrants)
  | deviceConnected (granted : ConnectGrants) (device : DeviceIdentification)
  | deviceDisconnected (disconnectType : Int32) (device : DeviceIdentification)
  | forwardStatus (sent : Bool)
  | forwardErrorMessage (sent : Bool)
  | commandAck
deriving DecidableEq, Repr

/-- What a call answers. -/
inductive Result where
  | threw
  | code (rc : ReturnCode)
  | popped (p : Popped)
deriving DecidableEq, Repr

/-- The answer of a poll. -/
def Result.ofWait : Except JsonError ReturnCode → Result
  | .ok rc => .code rc
  | .error _ => .threw

theorem Result.ofWait_eq_ok {result : Except JsonError ReturnCode}
    (h : Result.ofWait result = .code .ok) : result = .ok .ok := by
  cases result with
  | error e => cases h
  | ok rc =>
    cases h
    rfl

/-- The answer of a pop. -/
def Result.ofPop : Except JsonError Popped → Result
  | .ok p => .popped p
  | .error _ => .threw

/-- The answer of a connect. -/
def Result.ofConnect : Option ReturnCode → Result
  | some rc => .code rc
  | none => .threw

variable (N : JsonText)

/-- A call on a context; nothing when it is undefined. -/
def Context.perform (con : Context) : Call → Option (Result × Context)
  | .waitForCommand answer =>
    let (result, con) := con.waitForCommand N fun _ => answer
    some (.ofWait result, con)
  | .popCommand granted =>
    match con.popCommand N granted with
    | some (result, con) => some (.ofPop result, con)
    | none => none
  | .deviceConnected granted device =>
    let (result, con) := con.deviceConnected granted device
    some (.ofConnect result, con)
  | .deviceDisconnected disconnectType device =>
    let (rc, con) := con.deviceDisconnected disconnectType device
    some (.code rc, con)
  | .forwardStatus sent => some (.code (if sent then .ok else .notOk), con)
  | .forwardErrorMessage sent => some (.code (if sent then .ok else .notOk), con)
  | .commandAck => some (.code .ok, con)

/-- A context, and the calls made on it with their answers. -/
structure Session where
  con : Context
  log : List (Call × Result)
deriving DecidableEq, Repr

namespace Session

/-- A session before its first call. -/
def start (con : Context) : Session := ⟨con, []⟩

/-- A session after one more call. -/
def apply (s : Session) (call : Call) : Option Session :=
  match s.con.perform N call with
  | some (result, con) => some ⟨con, s.log ++ [(call, result)]⟩
  | none => none

end Session

/-! ## One call -/

/-- What a call has done to a context, by kind of call. -/
inductive Performed : Context → Call → Result → Context → Prop where
  | waited {con con' : Context} {answer : Answer} {result : Except JsonError ReturnCode}
      (h : con.waitForCommand N (fun _ => answer) = (result, con')) :
      Performed con (.waitForCommand answer) (.ofWait result) con'
  | popped {con : Context} {granted : PopGrants} {front : List QueuedCommand} {e : QueuedCommand}
      (hvector : con.commandVector = front ++ [e]) :
      Performed con (.popCommand granted)
        (.popped (.done (N.dump e.command.commandDocument) e.device (Int32.ofNat front.length)))
        { con with commandVector := front }
  | kept {con : Context} {granted : PopGrants} :
      Performed con (.popCommand granted) (.popped (.failed .notOk)) con
  | connected {con : Context} {granted : ConnectGrants} {device : DeviceIdentification} :
      Performed con (.deviceConnected granted device) (.code .ok)
        { con with devices := con.devices ++ [device] }
  | unconnected {con : Context} {granted : ConnectGrants} {device : DeviceIdentification}
      {result : Result} (h : result ≠ .code .ok) :
      Performed con (.deviceConnected granted device) result con
  | disconnected {con : Context} {disconnectType : Int32} {device : DeviceIdentification}
      {before after : List DeviceIdentification} (hdevices : con.devices = before ++ device :: after) :
      Performed con (.deviceDisconnected disconnectType device) (.code .ok)
        { con with devices := before ++ after }
  | unknown {con : Context} {disconnectType : Int32} {device : DeviceIdentification} :
      Performed con (.deviceDisconnected disconnectType device) (.code .notOk) con
  | forwardedStatus {con : Context} {sent : Bool} {result : Result} :
      Performed con (.forwardStatus sent) result con
  | forwardedError {con : Context} {sent : Bool} {result : Result} :
      Performed con (.forwardErrorMessage sent) result con
  | acknowledged {con : Context} : Performed con .commandAck (.code .ok) con

variable {N}

theorem performed_of_perform {con con' : Context} {call : Call} {result : Result}
    (h : con.perform N call = some (result, con')) : Performed N con call result con' := by
  cases call with
  | waitForCommand answer =>
    cases h
    exact .waited rfl
  | popCommand granted =>
    cases hpop : con.popCommand N granted with
    | none =>
      simp only [Context.perform, hpop] at h
      cases h
    | some p =>
      obtain ⟨popped, con₁⟩ := p
      simp only [Context.perform, hpop, Option.some.injEq, Prod.mk.injEq] at h
      obtain ⟨rfl, rfl⟩ := h
      obtain ⟨front, e, hvector, ⟨-, rfl, rfl⟩ | ⟨-, rfl, rfl⟩⟩ := pop_cases hpop
      · exact .popped hvector
      · exact .kept
  | deviceConnected granted device =>
    rcases hconnect : con.deviceConnected granted device with ⟨rc, con₁⟩
    simp only [Context.perform, hconnect, Option.some.injEq, Prod.mk.injEq] at h
    obtain ⟨rfl, rfl⟩ := h
    rcases connect_cases hconnect with ⟨rfl, rfl⟩ | ⟨rfl | rfl, rfl⟩
    · exact .connected
    · exact .unconnected (by decide)
    · exact .unconnected (by decide)
  | deviceDisconnected disconnectType device =>
    rcases disconnect_cases disconnectType device con with
      ⟨before, after, hdevices, -, hcall⟩ | ⟨-, hcall⟩
    · simp only [Context.perform, hcall, Option.some.injEq, Prod.mk.injEq] at h
      obtain ⟨rfl, rfl⟩ := h
      exact .disconnected hdevices
    · simp only [Context.perform, hcall, Option.some.injEq, Prod.mk.injEq] at h
      obtain ⟨rfl, rfl⟩ := h
      exact .unknown
  | forwardStatus sent =>
    cases h
    exact .forwardedStatus
  | forwardErrorMessage sent =>
    cases h
    exact .forwardedError
  | commandAck =>
    cases h
    exact .acknowledged

/-- **One step of a session.** -/
theorem Session.apply_cases {s s' : Session} {call : Call} (h : s.apply N call = some s') :
    ∃ result, Performed N s.con call result s'.con ∧ s'.log = s.log ++ [(call, result)] := by
  unfold Session.apply at h
  split at h
  next result con hperform =>
    cases h
    exact ⟨result, performed_of_perform hperform, rfl⟩
  next => cases h

/-! ## The registry -/

/-- What a logged call did to the registry. -/
def registryChange : Call × Result → BagChange DeviceIdentification
  | (.deviceConnected _ device, .code .ok) => .added device
  | (.deviceDisconnected _ device, .code .ok) => .removed device
  | _ => .none

/-- The history of the registry. -/
def Session.registryHistory (s : Session) : List (BagChange DeviceIdentification) :=
  s.log.map registryChange

/-- A poll does not touch the registry. -/
theorem wait_devices {getCommands : Int64 → Answer} {con con' : Context}
    {result : Except JsonError ReturnCode}
    (h : con.waitForCommand N getCommands = (result, con')) : con'.devices = con.devices := by
  rcases wait_cases h with ⟨-, rfl⟩ | ⟨_, _, _, _, -, hpolled⟩
  · rfl
  · exact hpolled.devices_eq

/-- A connect that does not answer `OK` adds nothing. -/
theorem registryChange_unconnected {granted : ConnectGrants} {device : DeviceIdentification}
    {result : Result} (h : result ≠ .code .ok) :
    registryChange (.deviceConnected granted device, result) = .none := by
  unfold registryChange
  split
  next heq =>
    cases heq
    exact absurd rfl h
  next heq => cases heq
  next => rfl

/-- **A call changes the bag of devices** by what the log says of it. -/
theorem Performed.changes {con con' : Context} {call : Call} {result : Result}
    (h : Performed N con call result con') :
    Changes (registryChange (call, result)) (con.devices : Multiset DeviceIdentification)
      con'.devices := by
  cases h with
  | waited hwait =>
    rw [wait_devices hwait]
    exact .none _
  | popped hvector => exact .none _
  | kept => exact .none _
  | connected => exact changes_append _ _
  | unconnected hresult =>
    rw [registryChange_unconnected hresult]
    exact .none _
  | disconnected hdevices =>
    rw [hdevices]
    exact changes_split _ _ _
  | unknown => exact .none _
  | forwardedStatus => exact .none _
  | forwardedError => exact .none _
  | acknowledged => exact .none _

/-- The devices balance the history. -/
def Session.RegistryBalanced (s : Session) : Prop :=
  Balanced s.registryHistory (s.con.devices : Multiset DeviceIdentification)

/-- A step keeps the balance. -/
theorem Session.RegistryBalanced.apply {s s' : Session} {call : Call} (h : s.RegistryBalanced)
    (hstep : s.apply N call = some s') : s'.RegistryBalanced := by
  obtain ⟨result, hperformed, hlog⟩ := Session.apply_cases hstep
  unfold Session.RegistryBalanced Session.registryHistory at *
  rw [hlog, List.map_append]
  exact h.snoc hperformed.changes

/-- A call that answers `NOT_OK` leaves the registry as it was. -/
theorem Performed.notOk_devices {con con' : Context} {call : Call}
    (h : Performed N con call (.code .notOk) con') : con'.devices = con.devices := by
  generalize hresult : Result.code .notOk = result at h
  cases h with
  | waited hwait => exact wait_devices hwait
  | connected => cases hresult
  | disconnected hdevices => cases hresult
  | _ => rfl

/-- The registry of a session is the multiset of the devices connected and not
disconnected, and the calls on it work on single occurrences. -/
structure Session.IsMultiset (N : JsonText) (s : Session) : Prop where
  count_eq : ∀ device, s.con.devices.count device + s.registryHistory.count (.removed device)
    = s.registryHistory.count (.added device)
  disconnect_ok_iff : ∀ disconnectType device,
    (s.con.deviceDisconnected disconnectType device).1 = .ok ↔ device ∈ s.con.devices
  disconnect_erases : ∀ disconnectType device con',
    s.con.deviceDisconnected disconnectType device = (.ok, con') →
    ∃ before after, s.con.devices = before ++ device :: after ∧ device ∉ before
      ∧ con' = { s.con with devices := before ++ after }
  notOk_keeps : ∀ call con', s.con.perform N call = some (.code .notOk, con') →
    con'.devices = s.con.devices

/-- **The registry is a multiset of devices.** After any session, a device is
in the registry as often as it was connected and not disconnected, where only
calls that answered `OK` count. A disconnect answers `OK` exactly if the
device is there; then its first occurrence goes and the others keep their
order. Nothing that answers `NOT_OK` changes the registry. -/
theorem registry_is_multiset {allows : Session → Call → Prop} {s : Session}
    (h : Run (Session.apply N) allows (.start .initial) s) : s.IsMultiset N := by
  have hbalanced : s.RegistryBalanced :=
    h.inv (fun _ _ ⟨_, _, hstep⟩ hs => hs.apply hstep) balanced_nil
  refine ⟨fun device => ?_, fun disconnectType device => ?_, fun disconnectType device con' hcall => ?_,
    fun call con' hcall => (performed_of_perform hcall).notOk_devices⟩
  · have hcount := hbalanced device
    rw [Multiset.coe_count] at hcount
    exact hcount
  · rcases disconnect_cases disconnectType device s.con with
      ⟨before, after, hdevices, -, hcall⟩ | ⟨habsent, hcall⟩
    · rw [hcall]
      exact iff_of_true rfl (hdevices ▸ List.mem_append_right _ (List.mem_cons_self ..))
    · rw [hcall]
      exact iff_of_false (fun hcode => nomatch hcode) habsent
  · rcases disconnect_cases disconnectType device s.con with
      ⟨before, after, hdevices, hfirst, hok⟩ | ⟨-, hnotOk⟩
    · rw [hok] at hcall
      exact ⟨before, after, hdevices, hfirst, (Prod.mk.inj hcall).2.symm⟩
    · rw [hnotOk] at hcall
      cases hcall

/-- A gate of some priority. -/
def gate (priority : UInt32) : DeviceIdentification :=
  ⟨ioModuleNumber, arduinoOptaDeviceType, priority, Json.ascii "opta", []⟩

/-- A gate connected twice, another once and once in vain, the first
disconnected, and one that was never there. -/
def gateCalls : List Call :=
  [.deviceConnected ⟨true, true, true⟩ (gate 0), .deviceConnected ⟨true, true, true⟩ (gate 1),
    .deviceConnected ⟨true, true, true⟩ (gate 0), .deviceConnected ⟨true, false, true⟩ (gate 1),
    .deviceDisconnected 0 (gate 0), .deviceDisconnected 0 (gate 2)]

/-- What these calls leave: the other gate, and the first one once. -/
theorem registry_is_multiset_gates :
    ∃ s : Session, s.con.devices = [gate 1, gate 0] ∧ s.IsMultiset .compact := by
  have hplayed : ((play (Session.apply .compact) (fun _ _ => True) gateCalls (.start .initial)).any
      fun s => s.con.devices = [gate 1, gate 0]) = true := by decide +kernel
  obtain ⟨s, hrun, hdevices⟩ := exists_run_of_play hplayed
  exact ⟨s, of_decide_eq_true hdevices, registry_is_multiset hrun⟩

/-! ## The pop protocol -/

/-- Whether the caller may pop, after one more call: a poll that answers `OK`
says there is a command, a pop how many there are left. -/
def mayPopAfter (before : Bool) : Call × Result → Bool
  | (.waitForCommand _, result) => result = .code .ok
  | (.popCommand _, .popped (.done _ _ remaining)) => 0 < remaining
  | (.popCommand _, _) => false
  | _ => before

namespace Session

/-- The last poll or pop says that there is a command. -/
def mayPop (s : Session) : Bool := s.log.foldl mayPopAfter false

/-- A caller that pops only when it has been told there is a command. -/
def popsWhenTold (s : Session) : Call → Prop
  | .popCommand _ => s.mayPop = true
  | _ => True

instance (s : Session) (call : Call) : Decidable (s.popsWhenTold call) :=
  match call with
  | .popCommand _ => inferInstanceAs (Decidable (s.mayPop = true))
  | .waitForCommand _ => inferInstanceAs (Decidable True)
  | .deviceConnected _ _ => inferInstanceAs (Decidable True)
  | .deviceDisconnected _ _ => inferInstanceAs (Decidable True)
  | .forwardStatus _ => inferInstanceAs (Decidable True)
  | .forwardErrorMessage _ => inferInstanceAs (Decidable True)
  | .commandAck => inferInstanceAs (Decidable True)

/-- Who may pop finds a command. -/
def Armed (s : Session) : Prop := s.mayPop = true → s.con.commandVector ≠ []

end Session

/-- **What a call says is true of the queue**: if it lets the caller pop, it
leaves a command there. A call that says nothing leaves the queue alone. -/
theorem Performed.armed {con con' : Context} {call : Call} {result : Result}
    (h : Performed N con call result con') {before : Bool}
    (hbefore : before = true → con.commandVector ≠ [])
    (hafter : mayPopAfter before (call, result) = true) : con'.commandVector ≠ [] := by
  have hleft : ∀ {front : List QueuedCommand}, 0 < Int32.ofNat front.length → front ≠ [] := by
    intro front hpositive hnil
    subst hnil
    exact absurd hpositive (by decide)
  cases h with
  | waited hwait =>
    rw [Result.ofWait_eq_ok (of_decide_eq_true hafter)] at hwait
    exact wait_ok_nonempty hwait
  | popped hvector => exact hleft (of_decide_eq_true hafter)
  | kept => cases hafter
  | connected => exact hbefore hafter
  | unconnected hresult => exact hbefore hafter
  | disconnected hdevices => exact hbefore hafter
  | unknown => exact hbefore hafter
  | forwardedStatus => exact hbefore hafter
  | forwardedError => exact hbefore hafter
  | acknowledged => exact hbefore hafter

/-- A step keeps a session armed. -/
theorem Session.Armed.apply {s s' : Session} {call : Call} (h : s.Armed)
    (hstep : s.apply N call = some s') : s'.Armed := by
  obtain ⟨result, hperformed, hlog⟩ := Session.apply_cases hstep
  intro hmay
  unfold Session.mayPop at hmay
  rw [hlog, List.foldl_append] at hmay
  exact hperformed.armed h hmay

/-- What a pop on a context does: with all three allocations it takes exactly the
last command and answers how many are left; when one of them is refused it
answers `NOT_OK` and leaves the queue alone. -/
def Context.PopsOne (N : JsonText) (con : Context) (granted : PopGrants) : Prop :=
  ∃ p con', con.popCommand N granted = some (.ok p, con')
    ∧ ((granted = ⟨true, true, true⟩
        ∧ ∃ e command device remaining, p = .done command device remaining
        ∧ con.commandVector = con'.commandVector ++ [e]
        ∧ (con.commandVector.length < 2 ^ 31 → remaining.toInt = con'.commandVector.length))
      ∨ (granted ≠ ⟨true, true, true⟩ ∧ p = .failed .notOk
        ∧ con'.commandVector = con.commandVector))

theorem popsOne_of_nonempty {con : Context} (h : con.commandVector ≠ []) (granted : PopGrants) :
    con.PopsOne N granted := by
  obtain ⟨result, con', hpop⟩ := pop_defined h granted
  obtain ⟨front, e, hvector, ⟨hgranted, rfl, rfl⟩ | ⟨hrefused, rfl, rfl⟩⟩ := pop_cases hpop
  · refine ⟨_, _, hpop, Or.inl ⟨hgranted, e, _, _, _, rfl, hvector, fun hshort => ?_⟩⟩
    rw [hvector, List.length_append] at hshort
    exact Int32.toInt_ofNat_of_lt (Nat.lt_of_le_of_lt (Nat.le_add_right ..) hshort)
  · exact ⟨_, _, hpop, Or.inr ⟨hrefused, rfl, rfl⟩⟩

/-- **The pop protocol never reads an empty queue.** On any context, in every
session whose caller pops only when told so, wherever a pop is allowed there
is a command. The pop then takes exactly one and answers the number left, or an
allocation is refused, and it fails and leaves the queue as it was. -/
theorem pop_never_empty {con : Context} {s : Session}
    (h : Run (Session.apply N) Session.popsWhenTold (.start con) s) (hmay : s.mayPop = true) :
    s.con.commandVector ≠ [] ∧ ∀ granted, s.con.PopsOne N granted := by
  have harmed : s.Armed := by
    refine h.inv (fun _ _ ⟨_, _, hstep⟩ hs => hs.apply hstep) ?_
    intro hstart
    cases hstart
  exact ⟨harmed hmay, popsOne_of_nonempty (harmed hmay)⟩

/-- A first poll, a second one that brings two commands, a pop that fails and,
after another poll, one that takes the last of four. -/
def popCalls : List Call :=
  [.waitForCommand (.commands [.forOpta 0 5 switchOn] true),
    .waitForCommand (.commands mixedBatch true), .popCommand ⟨true, false, true⟩,
    .waitForCommand (.commands mixedBatch true), .popCommand ⟨true, true, true⟩]

/-- A session of these calls: three commands are left to pop. -/
theorem pop_never_empty_session :
    ∃ s : Session, s.con.commandVector.length = 3
      ∧ s.con.commandVector ≠ [] ∧ ∀ granted, s.con.PopsOne .compact granted := by
  have hplayed : ((play (Session.apply .compact) Session.popsWhenTold popCalls
      (.start .initial)).any fun s => s.con.commandVector.length = 3 && s.mayPop) = true := by
    decide +kernel
  obtain ⟨s, hrun, hfound⟩ := exists_run_of_play hplayed
  rw [Bool.and_eq_true, decide_eq_true_eq] at hfound
  exact ⟨s, hfound.1, pop_never_empty hrun hfound.2⟩

end IoModule

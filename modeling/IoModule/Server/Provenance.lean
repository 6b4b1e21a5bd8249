import Mathlib.Data.List.Perm.Subperm
import IoModule.Server.Api
import IoModule.Server.Drain

/-!
# Where the commands come from

A gateway makes a context, polls and pops, destroys it and makes another one, in
any order and with any failures. What it is told to do are the texts that the
pops have handed out. Each of them goes back to a message, and different ones to
different messages: `commands_received`.

The messages are those received on the current context, without the first batch:
the timestamp of a fresh context is 0, and what is received then is not parsed.
So after a restart nothing is handed out of the queue of the context before, nor
of what had piled up on the server and comes with the first batch; and a message
is handed out at most as often as it was received.
-/

namespace IoModule

/-! ## Batches and commands -/

/-- The batch that a logged call has received. -/
def batchOf : Call × Result → Option (List Message)
  | (.waitForCommand (.commands messages _), _) => some messages
  | _ => none

/-- The batches received, in order. -/
def batches (log : List (Call × Result)) : List (List Message) := log.filterMap batchOf

/-- What a pop has handed out is the command of a message, for the device that
the message names. -/
def CommandOf (N : JsonText) (p : Popped) (m : Message) : Prop :=
  ∃ text remaining c, p = .done text ⟨m.moduleId, m.type.toUInt32, 0, m.role, m.name⟩ remaining
    ∧ m.forIoModule = true
    ∧ DeviceCommand.fresh.deserializeFromBuffer N (.data m.payload) = (.ok .ok, c)
    ∧ DeviceCommand.fresh.deserializeFromBuffer N (.data text) = (.ok .ok, c)

/-- Every command handed out, and every one that is queued, has a message of
its own in a batch behind the first one. -/
structure Session.Traced (N : JsonText) (s : Session) (sources : List Message) : Prop where
  genuine : ∀ e ∈ s.con.commandVector, e.Genuine N
  /-- before the first batch the next one is not parsed -/
  unpolled : batches s.log = [] → s.con.lastCommandTimestamp = 0
  handed : List.Forall₂ (CommandOf N) s.handedOut sources
  received : (sources ++ s.con.commandVector.map QueuedCommand.source).Subperm
    (batches s.log).tail.flatten

namespace Session

variable {N : JsonText} {s s' : Session} {sources : List Message} {call : Call} {result : Result}

theorem traced_start : (start .initial).Traced N [] :=
  ⟨fun _ he => absurd he List.not_mem_nil, fun _ => rfl, .nil, List.Subperm.refl _⟩

/-- One more call receives one batch or none. -/
theorem batches_snoc {entry : Call × Result} (hlog : s'.log = s.log ++ [entry]) :
    batches s'.log = batches s.log ++ (batchOf entry).toList := by
  unfold batches
  rw [hlog, List.filterMap_append]
  cases hentry : batchOf entry <;> simp [hentry]

/-- A call that receives nothing, hands nothing out, and leaves the queue and
the timestamp. -/
theorem Traced.kept (h : s.Traced N sources) (hlog : s'.log = s.log ++ [(call, result)])
    (hbatch : batchOf (call, result) = none) (hhanded : handedOutBy (call, result) = none)
    (hvector : s'.con.commandVector = s.con.commandVector)
    (htime : s'.con.lastCommandTimestamp = s.con.lastCommandTimestamp) : s'.Traced N sources := by
  have hbatches : batches s'.log = batches s.log := by
    rw [batches_snoc hlog, hbatch, Option.toList_none, List.append_nil]
  have hout : s'.handedOut = s.handedOut := by
    rw [handedOut_snoc hlog, hhanded, Option.toList_none, List.append_nil]
  refine ⟨?_, ?_, ?_, ?_⟩
  · rw [hvector]
    exact h.genuine
  · rw [hbatches, htime]
    exact h.unpolled
  · rw [hout]
    exact h.handed
  · rw [hbatches, hvector]
    exact h.received

/-- A batch that is received. The first one is not parsed, and nothing has been
taken from it. -/
theorem Traced.polled {messages scanned : List Message} {taken : List QueuedCommand}
    {success : Bool} (h : s.Traced N sources)
    (hlog : s'.log = s.log ++ [(.waitForCommand (.commands messages success), result)])
    (hpolled : Polled N s.con messages s'.con scanned taken) : s'.Traced N sources := by
  have hbatches : batches s'.log = batches s.log ++ [messages] := batches_snoc hlog
  have hout : s'.handedOut = s.handedOut := (handedOut_snoc hlog).trans (List.append_nil _)
  refine ⟨fun e he => ?_, fun hnone => ?_, ?_, ?_⟩
  · rw [hpolled.vector_eq] at he
    rcases List.mem_append.mp he with hold | hnew
    · exact h.genuine e hold
    · exact hpolled.genuine e hnew
  · rw [hbatches] at hnone
    exact absurd hnone (List.append_ne_nil_of_right_ne_nil _ (List.cons_ne_nil _ _))
  · rw [hout]
    exact h.handed
  · rw [hbatches, hpolled.vector_eq, List.map_append, ← List.append_assoc]
    by_cases hfirst : batches s.log = []
    · obtain ⟨rfl, -, -⟩ := hpolled.first (h.unpolled hfirst)
      have hreceived := h.received
      rw [hfirst] at hreceived ⊢
      rw [List.map_nil, List.append_nil]
      exact hreceived
    · have htaken : (taken.map QueuedCommand.source).Subperm messages :=
        (hpolled.sublist.trans hpolled.initial.sublist).subperm
      rw [List.tail_append_of_ne_nil hfirst, List.flatten_append, List.flatten_singleton]
      exact h.received.append htaken

/-- A command that is handed out takes its message along. -/
theorem Traced.popped (hN : N.Lossless) {granted : PopGrants} {front : List QueuedCommand}
    {e : QueuedCommand} (h : s.Traced N sources)
    (hvector : s.con.commandVector = front ++ [e])
    (hlog : s'.log = s.log ++ [(.popCommand granted,
      .popped (.done (N.dump e.command.commandDocument) e.device (Int32.ofNat front.length)))])
    (hcon : s'.con = { s.con with commandVector := front }) :
    s'.Traced N (sources ++ [e.source]) := by
  have hbatches : batches s'.log = batches s.log :=
    (batches_snoc hlog).trans (List.append_nil _)
  have hout : s'.handedOut = s.handedOut ++
      [.done (N.dump e.command.commandDocument) e.device (Int32.ofNat front.length)] :=
    handedOut_snoc hlog
  have hgenuine : e.Genuine N :=
    h.genuine e (by rw [hvector]; exact List.mem_append_right _ (List.mem_singleton_self e))
  have hcommand : CommandOf N
      (.done (N.dump e.command.commandDocument) e.device (Int32.ofNat front.length)) e.source := by
    have hdevice : e.device = (e.source.queued e.command).device :=
      congrArg QueuedCommand.device hgenuine.queued_eq
    rw [hdevice]
    exact ⟨_, _, e.command, rfl, hgenuine.forIoModule, hgenuine.decoded,
      DeviceCommand.deserialize_dump N hN e.command⟩
  refine ⟨fun x hx => h.genuine x ?_, ?_, ?_, ?_⟩
  · rw [hcon] at hx
    rw [hvector]
    exact List.mem_append_left _ hx
  · rw [hbatches, hcon]
    exact h.unpolled
  · rw [hout]
    exact List.rel_append h.handed (.cons hcommand .nil)
  · have hreceived := h.received
    rw [hvector, List.map_append] at hreceived
    rw [hbatches, hcon, List.append_assoc]
    exact ((List.perm_append_comm.append_left sources).subperm).trans hreceived

/-- **One call.** -/
theorem Traced.apply (hN : N.Lossless) (h : s.Traced N sources) (hstep : s.apply N call = some s') :
    ∃ sources', s'.Traced N sources' := by
  obtain ⟨result, hperformed, hlog⟩ := apply_cases hstep
  generalize hafter : s'.con = con' at hperformed
  cases hperformed with
  | @waited _ answer _ hwait =>
    rcases wait_cases hwait with
      ⟨hthrows, hcon⟩ | ⟨messages, success, scanned, taken, hanswer, hpolled⟩
    · obtain rfl : answer = .throws := hthrows
      rw [hcon] at hafter
      exact ⟨sources, h.kept hlog rfl rfl (by rw [hafter]) (by rw [hafter])⟩
    · obtain rfl : answer = .commands messages success := hanswer
      rw [← hafter] at hpolled
      exact ⟨sources, h.polled hlog hpolled⟩
  | popped hvector => exact ⟨_, h.popped hN hvector hlog hafter⟩
  | unconnected hresult => exact ⟨sources, h.kept hlog rfl rfl (by rw [hafter]) (by rw [hafter])⟩
  | _ => exact ⟨sources, h.kept hlog rfl rfl (by rw [hafter]) (by rw [hafter])⟩

/-- In every session on a fresh context. -/
theorem run_traced (hN : N.Lossless) {allows : Session → Call → Prop}
    (h : Run (Session.apply N) allows (.start .initial) s) : ∃ sources, s.Traced N sources :=
  h.inv (P := fun s => ∃ sources, s.Traced N sources)
    (fun _ _ ⟨_, _, hstep⟩ ⟨_, hs⟩ => hs.apply hN hstep) ⟨[], traced_start⟩

end Session

/-- **Every command has been received.** In every run of the API, over any
number of contexts: the texts handed out on the current context are the commands
of messages, in this order, and these messages together with those of the
commands still queued are among the messages of the batches received on this
context behind the first one, each as often as it is there. -/
theorem commands_received {N : JsonText} (hN : N.Lossless) {allows : Api → ApiCall → Prop} {s : Api}
    (h : Run (Api.apply N) allows .start s) {con : Context} (hcon : s.context = some con) :
    ∃ sources, List.Forall₂ (CommandOf N) (s.sessionLog.filterMap handedOutBy) sources
      ∧ (sources ++ con.commandVector.map QueuedCommand.source).Subperm
        (batches s.sessionLog).tail.flatten := by
  have hsession : s.InSession N :=
    h.inv (fun _ _ ⟨_, _, hstep⟩ hs => hs.apply hstep) Api.inSession_start
  obtain ⟨sources, htraced⟩ := Session.run_traced hN (hsession.session con hcon)
  exact ⟨sources, htraced.handed, htraced.received⟩

/-- On the second context two batches are received and a command is handed
out. -/
theorem commands_received_second : ∃ (s : Api) (con : Context), s.context = some con
    ∧ (batches s.sessionLog).length = 2 ∧ (s.sessionLog.filterMap handedOutBy).length = 1
    ∧ ∃ sources, List.Forall₂ (CommandOf .compact) (s.sessionLog.filterMap handedOutBy) sources
      ∧ (sources ++ con.commandVector.map QueuedCommand.source).Subperm
        (batches s.sessionLog).tail.flatten := by
  have hplayed : ((play (Api.apply .compact) (fun _ _ => True)
      (Api.contextCalls ++
        [.waitForCommand (.commands mixedBatch true), .popCommand ⟨true, true, true⟩])
      .start).any fun s => s.context.isSome ∧ (batches s.sessionLog).length = 2
        ∧ (s.sessionLog.filterMap handedOutBy).length = 1) = true := by decide +kernel
  obtain ⟨s, hrun, hs⟩ := exists_run_of_play hplayed
  obtain ⟨hsome, hbatches, hhanded⟩ := of_decide_eq_true hs
  obtain ⟨con, hcon⟩ := Option.isSome_iff_exists.mp hsome
  exact ⟨s, con, hcon, hbatches, hhanded, commands_received JsonText.compact_lossless hrun hcon⟩

end IoModule

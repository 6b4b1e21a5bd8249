import IoModule.Server.Session

/-!
# What the pops between two polls hand out

`pop_command` copies role and name and writes the text before it takes a command
out of the queue. A pop that fails has taken nothing and can be made again; in
between, devices may come and go and statuses be forwarded.

`drain` is what is handed out of a queue when every pop succeeds: the commands
from the last one on, each with the number of those behind it. `pops_drain` says
that no failure and no other call can be seen in what is handed out. As long as
the client is not polled, what has been handed out of any queue, followed by the
`drain` of what is left of it, is its `drain`. So no command is lost, doubled or
overtaken between two polls, and the answer 0 comes with the last one.
-/

namespace IoModule

variable (N : JsonText)

/-- What the pops hand out of a queue, its last command first. -/
def drain : List QueuedCommand → List Popped
  | [] => []
  | e :: rest =>
    .done (N.dump e.command.commandDocument) e.device (Int32.ofNat rest.length) :: drain rest

/-- What a logged call handed out. -/
def handedOutBy : Call × Result → Option Popped
  | (.popCommand _, .popped (.done command device remaining)) =>
    some (.done command device remaining)
  | _ => none

/-- The client is not polled. -/
def Session.notPolled (_s : Session) : Call → Prop
  | .waitForCommand _ => False
  | _ => True

instance (s : Session) (call : Call) : Decidable (s.notPolled call) :=
  match call with
  | .waitForCommand _ => inferInstanceAs (Decidable False)
  | .popCommand _ => inferInstanceAs (Decidable True)
  | .deviceConnected _ _ => inferInstanceAs (Decidable True)
  | .deviceDisconnected _ _ => inferInstanceAs (Decidable True)
  | .forwardStatus _ => inferInstanceAs (Decidable True)
  | .forwardErrorMessage _ => inferInstanceAs (Decidable True)
  | .commandAck => inferInstanceAs (Decidable True)

/-- Everything handed out so far. -/
def Session.handedOut (s : Session) : List Popped := s.log.filterMap handedOutBy

variable {N}

/-- A call without a poll hands out the first part of the `drain`, of one
command or of none. -/
theorem Performed.drains {con con' : Context} {call : Call} {result : Result}
    (h : Performed N con call result con') (hcall : ∀ answer, call ≠ .waitForCommand answer) :
    (handedOutBy (call, result)).toList ++ drain N con'.commandVector.reverse
      = drain N con.commandVector.reverse := by
  cases h with
  | waited hwait => exact absurd rfl (hcall _)
  | popped hvector =>
    rw [hvector, List.reverse_append, List.reverse_singleton, List.singleton_append, drain,
      List.length_reverse]
    rfl
  | kept => rfl
  | connected => rfl
  | unconnected hresult => rfl
  | disconnected hdevices => rfl
  | unknown => rfl
  | forwardedStatus => rfl
  | forwardedError => rfl
  | acknowledged => rfl

/-- One more call hands out one command or none. -/
theorem Session.handedOut_snoc {s s' : Session} {entry : Call × Result}
    (hlog : s'.log = s.log ++ [entry]) :
    s'.handedOut = s.handedOut ++ (handedOutBy entry).toList := by
  unfold handedOut
  rw [hlog, List.filterMap_append]
  cases hentry : handedOutBy entry <;> simp [hentry]

/-- **Between two polls the queue is drained from its end.** In every session
on any context in which the client is not polled, whatever else is called and
whichever allocations fail: what the pops have handed out, followed by what they
would still hand out of the queue that is left, is what they would hand out of
the queue at the start. -/
theorem pops_drain {con : Context} {s : Session}
    (h : Run (Session.apply N) Session.notPolled (.start con) s) :
    s.handedOut ++ drain N s.con.commandVector.reverse = drain N con.commandVector.reverse := by
  refine h.inv (P := fun s => s.handedOut ++ drain N s.con.commandVector.reverse
    = drain N con.commandVector.reverse) (fun s s' hstep hs => ?_) rfl
  obtain ⟨call, hallowed, happly⟩ := hstep
  obtain ⟨result, hperformed, hlog⟩ := Session.apply_cases happly
  have hcall : ∀ answer, call ≠ .waitForCommand answer := by
    intro answer heq
    subst heq
    exact hallowed
  rw [Session.handedOut_snoc hlog, List.append_assoc, hperformed.drains hcall, hs]

/-- Three commands in the queue; the first pop fails, a gate connects, and two
pops succeed. -/
theorem pops_drain_three : ∃ s : Session, s.handedOut.length = 2
    ∧ s.handedOut ++ drain .compact s.con.commandVector.reverse
      = drain .compact (Context.mk [] (received .compact
        [.forOpta 0 10 switchOn, .forOpta 1 20 switchOff, .forOpta 2 30 switchOn])
        30).commandVector.reverse := by
  have hplay : (play (Session.apply .compact) Session.notPolled
      [.popCommand ⟨true, true, false⟩, .deviceConnected ⟨true, true, true⟩ (gate 0),
        .popCommand ⟨true, true, true⟩, .popCommand ⟨true, true, true⟩]
      (.start ⟨[], received .compact
        [.forOpta 0 10 switchOn, .forOpta 1 20 switchOff, .forOpta 2 30 switchOn], 30⟩)).any
      (fun s => s.handedOut.length = 2) = true := by decide +kernel
  obtain ⟨s, hrun, hs⟩ := exists_run_of_play hplay
  exact ⟨s, of_decide_eq_true hs, pops_drain hrun⟩

end IoModule

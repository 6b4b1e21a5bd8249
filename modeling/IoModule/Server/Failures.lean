import IoModule.Server.Independence

/-!
# Failed calls leave no trace

A connect may find no memory, a disconnect no device, a pop no memory and a
forward no server. None of them has changed the context by then: a session goes
on as if the call had not been made, and the caller may make it again
(`failed_calls_vanish`). The same is true of a poll on which the client throws,
and of the calls that go to the client only.

A poll that has received a batch is not among them, whatever it answers: it has
raised the timestamp, and the commands in front of an undecodable one are queued.
-/

namespace IoModule

/-- What a logged call may have done to the context, going by its answer: a poll
if it received a batch, the others if they answered that they did it. -/
def heeded : Call × Result → Bool
  | (.waitForCommand (.commands _ _), _) => true
  | (.popCommand _, .popped (.done _ _ _)) => true
  | (.deviceConnected _ _, .code .ok) => true
  | (.deviceDisconnected _ _, .code .ok) => true
  | _ => false

variable {N : JsonText}

/-- A call that is not heeded leaves the context as it is. -/
theorem Performed.idle {con con' : Context} {call : Call} {result : Result}
    (h : Performed N con call result con') (hidle : heeded (call, result) = false) :
    con' = con := by
  cases h with
  | @waited _ answer _ hwait =>
    rcases wait_cases hwait with ⟨-, hcon⟩ | ⟨messages, success, scanned, taken, hanswer, -⟩
    · exact hcon
    · obtain rfl : answer = .commands messages success := hanswer
      cases hidle
  | popped hvector => cases hidle
  | connected => cases hidle
  | disconnected hdevices => cases hidle
  | kept => rfl
  | unconnected hresult => rfl
  | unknown => rfl
  | forwardedStatus => rfl
  | forwardedError => rfl
  | acknowledged => rfl

/-- **Failed calls leave no trace.** In every session on any context: make only
the calls again that were heeded, the polls that received a batch and the calls
that answered that they did what they are for. They all get the same answers, and
the context is the same in the end. -/
theorem failed_calls_vanish {con : Context} {calls : List Call} {s : Session}
    (h : calls.foldlM (Session.apply N) (.start con) = some s) :
    ((s.log.filter heeded).map Prod.fst).foldlM (Session.apply N) (.start con)
      = some ⟨s.con, s.log.filter heeded⟩ := by
  rw [session_transcript] at h ⊢
  obtain ⟨⟨log, con'⟩, hrun, rfl⟩ := Option.map_eq_some_iff.mp h
  have herased : transcript (Context.perform N) ((log.filter heeded).map Prod.fst) con
      = some (log.filter heeded, con') :=
    transcript_erase (fun hperform => (performed_of_perform hperform).idle) hrun
  show (transcript (Context.perform N) ((log.filter heeded).map Prod.fst) con).map _ = _
  rw [herased]
  rfl

/-- A gate connects at the second attempt, the client throws, and another gate
disconnects that was never connected: one call of five is heeded. -/
theorem failed_calls_vanish_gate : ∃ s : Session, s.log.length = 5
    ∧ (s.log.filter heeded).length = 1
    ∧ ((s.log.filter heeded).map Prod.fst).foldlM (Session.apply .compact) (.start .initial)
      = some ⟨s.con, s.log.filter heeded⟩ := by
  have hplay : ([Call.deviceConnected ⟨true, false, true⟩ (gate 0),
      .deviceConnected ⟨true, true, true⟩ (gate 0), .waitForCommand .throws,
      .deviceDisconnected 0 (gate 1), .forwardStatus false].foldlM (Session.apply .compact)
      (.start .initial)).any
      (fun s => s.log.length = 5 ∧ (s.log.filter heeded).length = 1) = true := by decide +kernel
  obtain ⟨s, hrun, hs⟩ := (Option.any_eq_true _ _).mp hplay
  obtain ⟨hlog, hheeded⟩ := of_decide_eq_true hs
  exact ⟨s, hlog, hheeded, failed_calls_vanish hrun⟩

end IoModule

import IoModule.Run
import IoModule.Server.Context

/-!
# The server, the module and its caller

A system is the HTTP server's messages, the module's context, and what has
come out of the module so far. Three kinds of event move it: a message is
posted to the server, the caller polls with `wait_for_command`, the caller
takes a command with `pop_command`. In which states which event may happen
is left to an environment (`Run`); each result about runs states its own.

`enqueued` is the history of `command_vector`: every entry ever appended, in
order. `returned` is what the successful pops handed out.

- `apply_cases`: what one step does, by kind of event.
- `Sound`: in every run, whatever the environment, each queued command is
  what its message decodes to, what was queued is still in the queue or was
  handed out, and a handed-out text is the document of its command
  (`run_sound`).
-/

namespace IoModule

/-- One successful pop: the entry it took and what it handed out. -/
structure Returned where
  command : QueuedCommand
  text : Bytes
  device : DeviceIdentification
deriving DecidableEq, Repr

/-- The server and the module, with the history of the module's queue. -/
structure System where
  posted : List Message
  con : Context
  enqueued : List QueuedCommand
  returned : List Returned
deriving DecidableEq, Repr

/-- A server that already holds some messages, and the context made by
`init`. -/
def System.withBacklog (backlog : List Message) : System := ⟨backlog, .initial, [], []⟩

/-- Nothing posted, nothing polled. -/
def System.initial : System := .withBacklog []

/-- What can happen: a post, a poll the client answers, a pop. -/
inductive Event where
  | post (m : Message)
  | wait (answer : Answer)
  | pop (granted : PopGrants)
deriving DecidableEq, Repr

namespace System

variable (N : JsonText)

/-- What a pop on a context hands out. -/
def handedOut (con : Context) : Except JsonError Popped → List Returned
  | .ok (.done command device _) =>
    con.commandVector.getLast?.toList.map fun e => ⟨e, command, device⟩
  | _ => []

/-- The system after an event; nothing when the event is undefined. -/
def apply (s : System) : Event → Option System
  | .post m => some { s with posted := s.posted ++ [m] }
  | .wait answer =>
    match waitForCommand N (fun _ => answer) (some s.con) with
    -- a poll only appends, so what it queued is what lies behind the old end
    | (_, some con) => some { s with
        con := con
        enqueued := s.enqueued ++ con.commandVector.drop s.con.commandVector.length }
    | (_, none) => none
  | .pop granted =>
    match popCommand N granted (some s.con) with
    | some (result, some con) => some { s with
        con := con
        returned := s.returned ++ handedOut s.con result }
    | _ => none

variable {N}

/-- **One step.** -/
theorem apply_cases {s s' : System} {e : Event} (h : s.apply N e = some s') :
    (∃ m, e = .post m ∧ s' = { s with posted := s.posted ++ [m] })
    ∨ (e = .wait .throws ∧ s' = s)
    ∨ (∃ messages success scanned taken con, e = .wait (.commands messages success)
        ∧ Polled N s.con messages con scanned taken
        ∧ s' = { s with con := con, enqueued := s.enqueued ++ taken })
    ∨ (∃ front c, e = .pop ⟨true, true, true⟩ ∧ s.con.commandVector = front ++ [c]
        ∧ s' = { s with
          con := { s.con with commandVector := front }
          returned := s.returned ++ [⟨c, N.dump c.command.commandDocument, c.device⟩] })
    ∨ (∃ granted, e = .pop granted ∧ s' = s) := by
  cases e with
  | post m => exact Or.inl ⟨m, rfl, (Option.some.inj h).symm⟩
  | wait answer =>
    rcases hwait : s.con.waitForCommand N (fun _ => answer) with ⟨result, con⟩
    simp only [apply, waitForCommand, hwait, Option.some.injEq] at h
    rcases wait_cases hwait with
      ⟨hthrows, rfl⟩ | ⟨messages, success, scanned, taken, hbatch, hpolled⟩
    · refine Or.inr (Or.inl ⟨congrArg _ hthrows, ?_⟩)
      rw [← h, List.drop_length, List.append_nil]
    · refine Or.inr (Or.inr (Or.inl
        ⟨messages, success, scanned, taken, con, congrArg _ hbatch, hpolled, ?_⟩))
      rw [← h, hpolled.vector_eq, List.drop_left]
  | pop granted =>
    cases hpop : s.con.popCommand N granted with
    | none =>
      simp only [apply, popCommand, hpop] at h
      cases h
    | some p =>
      obtain ⟨result, con⟩ := p
      simp only [apply, popCommand, hpop, Option.some.injEq] at h
      obtain ⟨front, c, hvector, ⟨rfl, rfl, rfl⟩ | ⟨-, rfl, rfl⟩⟩ := pop_cases hpop
      · refine Or.inr (Or.inr (Or.inr (Or.inl ⟨front, c, rfl, hvector, ?_⟩)))
        rw [← h]
        simp [handedOut, hvector]
      · refine Or.inr (Or.inr (Or.inr (Or.inr ⟨granted, rfl, ?_⟩)))
        rw [← h]
        show { s with returned := s.returned ++ [] } = s
        rw [List.append_nil]

/-! ## What holds in every run -/

/-- Queued commands are genuine, none is lost or doubled between the queue
and the caller, and each handed-out text is the document of its command. -/
structure Sound (N : JsonText) (s : System) : Prop where
  genuine : ∀ c ∈ s.enqueued, c.Genuine N
  conserved : (s.returned.map Returned.command ++ s.con.commandVector).Perm s.enqueued
  text_eq : ∀ r ∈ s.returned, r.text = N.dump r.command.command.commandDocument

theorem sound_withBacklog (backlog : List Message) : (withBacklog backlog).Sound N :=
  ⟨fun _ h => absurd h List.not_mem_nil, .refl _, fun _ h => absurd h List.not_mem_nil⟩

/-- A poll appends the same commands to the queue and to its history. -/
theorem Sound.wait {s : System} (h : s.Sound N) {messages scanned : List Message}
    {taken : List QueuedCommand} {con : Context}
    (hpolled : Polled N s.con messages con scanned taken) :
    Sound N { s with con := con, enqueued := s.enqueued ++ taken } where
  genuine := List.forall_mem_append.mpr ⟨h.genuine, hpolled.genuine⟩
  conserved := by
    show (s.returned.map Returned.command ++ con.commandVector).Perm (s.enqueued ++ taken)
    rw [hpolled.vector_eq, ← List.append_assoc]
    exact h.conserved.append_right taken
  text_eq := h.text_eq

/-- A pop moves the last command of the queue to what was returned. -/
theorem Sound.pop {s : System} (h : s.Sound N) {front : List QueuedCommand} {c : QueuedCommand}
    (hvector : s.con.commandVector = front ++ [c]) :
    Sound N { s with
      con := { s.con with commandVector := front }
      returned := s.returned ++ [⟨c, N.dump c.command.commandDocument, c.device⟩] } where
  genuine := h.genuine
  conserved := by
    have hbefore := h.conserved
    rw [hvector] at hbefore
    refine .trans ?_ hbefore
    rw [List.map_append, List.map_singleton, List.append_assoc]
    exact List.Perm.append_left _ List.perm_append_comm
  text_eq := List.forall_mem_append.mpr ⟨h.text_eq, List.forall_mem_singleton.mpr rfl⟩

/-- **Soundness of a step.** -/
theorem Sound.apply {s s' : System} {e : Event} (h : s.Sound N) (hs : s.apply N e = some s') :
    s'.Sound N := by
  rcases apply_cases hs with ⟨m, -, rfl⟩ | ⟨-, rfl⟩ |
    ⟨_, _, _, _, _, -, hpolled, rfl⟩ | ⟨_, _, -, hvector, rfl⟩ | ⟨_, -, rfl⟩
  · exact ⟨h.genuine, h.conserved, h.text_eq⟩
  · exact h
  · exact h.wait hpolled
  · exact h.pop hvector
  · exact h

/-- **Soundness of every run**, in any environment. -/
theorem run_sound {allows : System → Event → Prop} {s s' : System}
    (h : Run (System.apply N) allows s s') (hs : s.Sound N) : s'.Sound N :=
  h.inv (fun _ _ ⟨_, _, happly⟩ hsound => hsound.apply happly) hs

end System

end IoModule

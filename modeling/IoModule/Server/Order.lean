import IoModule.Server.System

/-!
# The order commands are handed out in

`wait_for_command` appends at the end of `command_vector` and `pop_command`
takes from the end, so the queue is a stack: a caller that lets two commands
wait gets the younger one first (`pop_takes_younger`).

As long as every successful pop finds a single command, the end is also the
front, and the commands handed out are a prefix of the commands queued
(`returned_in_order`). The invariant is that what was returned, followed by
what is queued, is the history of the queue (`InOrder`).
-/

namespace IoModule

namespace System

variable (N : JsonText)

/-- Any posts, any polls whose commands decode, any pops. -/
def decodableBatches (_s : System) : Event → Prop
  | .wait (.commands messages _) => ∀ m ∈ messages, m.forIoModule = true → m.Decodable N
  | _ => True

instance (s : System) (e : Event) : Decidable (s.decodableBatches N e) :=
  match e with
  | .post _ => inferInstanceAs (Decidable True)
  | .wait .throws => inferInstanceAs (Decidable True)
  | .wait (.commands messages _) =>
    inferInstanceAs (Decidable (∀ m ∈ messages, m.forIoModule = true → m.Decodable N))
  | .pop _ => inferInstanceAs (Decidable True)

/-- A pop that hands a command out finds only that command. -/
def oneAtATime (s : System) (e : Event) : Prop :=
  s.decodableBatches N e ∧ (e = .pop ⟨true, true, true⟩ → s.con.commandVector.length = 1)

instance (s : System) (e : Event) : Decidable (s.oneAtATime N e) :=
  inferInstanceAs (Decidable (_ ∧ (_ → _)))

variable {N}

/-- What was returned, followed by what is queued, is what was queued. -/
def InOrder (s : System) : Prop :=
  s.returned.map Returned.command ++ s.con.commandVector = s.enqueued

/-- A step that pops one command at a time keeps the order. -/
theorem InOrder.step {s s' : System} (h : s.InOrder)
    (hstep : Step (System.apply N) (oneAtATime N) s s') : s'.InOrder := by
  obtain ⟨e, hallowed, happly⟩ := hstep
  rcases apply_cases happly with ⟨m, -, rfl⟩ | ⟨-, rfl⟩ |
    ⟨_, _, _, taken, con, -, hpolled, rfl⟩ | ⟨front, c, rfl, hvector, rfl⟩ | ⟨_, -, rfl⟩
  · exact h
  · exact h
  · show s.returned.map Returned.command ++ con.commandVector = s.enqueued ++ taken
    rw [hpolled.vector_eq, ← List.append_assoc, h]
  · -- the one command queued is first and last at once
    have hone := hallowed.2 rfl
    rw [hvector, List.length_append, List.length_singleton] at hone
    have hfront : front = [] := List.eq_nil_of_length_eq_zero (by omega)
    have hbefore : s.returned.map Returned.command ++ (front ++ [c]) = s.enqueued := hvector ▸ h
    show (s.returned ++ [_]).map Returned.command ++ front = s.enqueued
    rw [← hbefore, hfront, List.map_append, List.append_nil]
    rfl
  · exact h

/-- **In order, one at a time.** In every run in which each successful pop
finds exactly one command queued, the commands handed out are a prefix of the
commands queued. -/
theorem returned_in_order {s : System} (h : Run (System.apply N) (oneAtATime N) .initial s) :
    s.returned.map Returned.command <+: s.enqueued := by
  have hinit : System.initial.InOrder := rfl
  have hs : s.InOrder := h.inv (fun _ _ hstep hin => hin.step hstep) hinit
  exact ⟨s.con.commandVector, hs⟩

/-- A caller that takes each command before it polls for the next. -/
theorem returned_in_order_two :
    ∃ s, Run (System.apply .compact) (oneAtATime .compact) .initial s
      ∧ s.returned.length = 2 ∧ s.returned.map Returned.command <+: s.enqueued := by
  have hplay : (play (System.apply .compact) (oneAtATime .compact)
      [.wait (.commands [] true),
        .wait (.commands [.forOpta 0 10 switchOn] true), .pop ⟨true, true, true⟩,
        .wait (.commands [.forOpta 1 20 switchOff] true), .pop ⟨true, true, true⟩] .initial).any
      (fun s => s.returned.length = 2) = true := by decide +kernel
  obtain ⟨s, hrun, hlen⟩ := exists_run_of_play hplay
  exact ⟨s, hrun, of_decide_eq_true hlen, returned_in_order hrun⟩

/-- **The younger command first.** One batch switches output 1 on and then
off; the first command handed out is the second of the two. -/
theorem pop_takes_younger :
    ∃ s, Run (System.apply .compact) (decodableBatches .compact) .initial s
      ∧ ¬ s.returned.map Returned.command <+: s.enqueued := by
  have hplay : (play (System.apply .compact) (decodableBatches .compact)
      [.wait (.commands [] true),
        .wait (.commands [.forOpta 0 10 switchOn, .forOpta 1 20 switchOff] true),
        .pop ⟨true, true, true⟩] .initial).any
      (fun s => ¬ s.returned.map Returned.command <+: s.enqueued) = true := by decide +kernel
  obtain ⟨s, hrun, hs⟩ := exists_run_of_play hplay
  exact ⟨s, hrun, of_decide_eq_true hs⟩

end System

end IoModule

import IoModule.Server.Delivery

/-!
# The backlog

Commands that were on the server before the module first polled are stale.
The first poll is meant to read past them: it parses nothing and leaves the
timestamp at the last of them, so that no later poll asks for them again.

`backlog_discarded` is that argument. It holds in every run in which no call
of `getCommands` made while the timestamp is still zero reports failure. A
call that throws leaves the timestamp alone, but a failing return code is not
looked at: the empty batch that comes with it counts as a first poll without
commands, sets the timestamp to 1, and the next poll asks for the whole
backlog and queues it (`backlog_queued`). Nor may a poll be made at the last
timestamp there is: what it would ask for from then on overflows.
-/

namespace IoModule

namespace System

/-- A server that throws, fails without messages, or answers with everything
it was asked for. -/
def backlogServer (s : System) : Event → Prop
  | .post m => m ∉ s.posted
  | .wait .throws => True
  | .wait (.commands messages false) => messages = []
  | .wait (.commands messages true) =>
    (∀ m ∈ messages, m ∈ s.posted ∧ s.con.since ≤ m.timestamp)
      ∧ ∀ m ∈ s.posted, s.con.since ≤ m.timestamp → m ∈ messages
  | .pop _ => True

instance (s : System) (e : Event) : Decidable (s.backlogServer e) :=
  match e with
  | .post m => inferInstanceAs (Decidable (m ∉ s.posted))
  | .wait .throws => inferInstanceAs (Decidable True)
  | .wait (.commands messages false) => inferInstanceAs (Decidable (messages = []))
  | .wait (.commands messages true) => inferInstanceAs (Decidable
      ((∀ m ∈ messages, m ∈ s.posted ∧ s.con.since ≤ m.timestamp)
        ∧ ∀ m ∈ s.posted, s.con.since ≤ m.timestamp → m ∈ messages))
  | .pop _ => inferInstanceAs (Decidable True)

/-- No call reports failure while the timestamp is zero. -/
def firstPollSucceeds (s : System) : Event → Prop
  | .wait (.commands _ false) => s.con.lastCommandTimestamp ≠ 0
  | _ => True

instance (s : System) (e : Event) : Decidable (s.firstPollSucceeds e) :=
  match e with
  | .post _ => inferInstanceAs (Decidable True)
  | .wait .throws => inferInstanceAs (Decidable True)
  | .wait (.commands _ false) => inferInstanceAs (Decidable (s.con.lastCommandTimestamp ≠ 0))
  | .wait (.commands _ true) => inferInstanceAs (Decidable True)
  | .pop _ => inferInstanceAs (Decidable True)

/-- No poll is made while the timestamp is the last one there is. -/
def pollsInRange (s : System) : Event → Prop
  | .wait _ => s.con.lastCommandTimestamp.toInt < 2 ^ 63 - 1
  | _ => True

instance (s : System) (e : Event) : Decidable (s.pollsInRange e) :=
  match e with
  | .post _ => inferInstanceAs (Decidable True)
  | .wait _ => inferInstanceAs (Decidable (s.con.lastCommandTimestamp.toInt < 2 ^ 63 - 1))
  | .pop _ => inferInstanceAs (Decidable True)

/-- A backlog server whose first poll is not mistaken. -/
def heededServer (s : System) (e : Event) : Prop :=
  s.backlogServer e ∧ s.firstPollSucceeds e ∧ s.pollsInRange e

instance (s : System) (e : Event) : Decidable (s.heededServer e) :=
  inferInstanceAs (Decidable (_ ∧ _))

variable {N : JsonText}

/-- The backlog is out of reach: nothing has been polled or queued yet, or
the mark has passed it by. -/
structure Discards (backlog : List Message) (s : System) : Prop where
  posted : ∀ m ∈ backlog, m ∈ s.posted
  mark : 0 ≤ s.con.lastCommandTimestamp.toInt
  unpolled : s.con.lastCommandTimestamp = 0 → s.enqueued = []
  passed : s.con.lastCommandTimestamp ≠ 0 → ∀ m ∈ backlog, m.forIoModule = true →
    Consumer.PassedBy Message.key s.consumer m

end System

/-- A first poll that received all commands with a positive timestamp has
passed every command by. -/
theorem Polled.first_passes {N : JsonText} {con con' : Context} {messages scanned : List Message}
    {taken : List QueuedCommand} (h : Polled N con messages con' scanned taken)
    (hlast : con.lastCommandTimestamp = 0) (hpositive : ∀ m ∈ messages, 0 < m.key) :
    0 < con'.lastCommandTimestamp.toInt
      ∧ ∀ m ∈ messages, m.forIoModule = true → m.key ≤ con'.lastCommandTimestamp.toInt := by
  rw [(h.first hlast).2.2]
  split
  next hany =>
    obtain ⟨m, hm, -⟩ := List.any_eq_true.mp hany
    have hreached : ∀ x ∈ messages, x.key ≤ (messages.foldl raise 0).toInt :=
      fun x hx => timestamp_le_foldl_raise 0 hx
    exact ⟨lt_of_lt_of_le (hpositive m hm) (hreached m hm), fun x hx _ => hreached x hx⟩
  next hnone =>
    refine ⟨by decide, fun m hm hio => absurd (List.any_eq_true.mpr ⟨m, hm, hio⟩) hnone⟩

namespace System

variable {N : JsonText} {backlog : List Message} {s s' : System}

theorem discards_withBacklog (backlog : List Message) : (withBacklog backlog).Discards backlog where
  posted _ hm := hm
  mark := show 0 ≤ (0 : Int64).toInt by decide
  unpolled _ := rfl
  passed h := absurd rfl h

/-- Whatever is answered was asked for. -/
theorem backlogServer_asked {messages : List Message} {success : Bool}
    (h : s.backlogServer (.wait (.commands messages success))) :
    ∀ m ∈ messages, m ∈ s.posted ∧ s.con.since ≤ m.timestamp := by
  cases success with
  | false =>
    have hnil : messages = [] := h
    rw [hnil]
    exact fun _ hm => absurd hm List.not_mem_nil
  | true => exact h.1

/-- The first poll that is answered passes the backlog by. -/
theorem Discards.first_poll (hs : s.Discards backlog) {messages scanned : List Message}
    {success : Bool} {taken : List QueuedCommand} {con : Context}
    (hallowed : s.heededServer (.wait (.commands messages success)))
    (h : Polled N s.con messages con scanned taken) (hlast : s.con.lastCommandTimestamp = 0) :
    Discards backlog { s with con := con, enqueued := s.enqueued ++ taken } := by
  have hasked := backlogServer_asked hallowed.1
  have hsince : ∀ m : Message, s.con.since ≤ m.timestamp ↔ 0 < m.key := by
    intro m
    unfold Context.since
    rw [int64_add_one_le_iff hallowed.2.2, hlast]
    rfl
  obtain ⟨hpositive, hpassed⟩ :=
    h.first_passes hlast fun m hm => (hsince m).mp (hasked m hm).2
  have hall : ∀ m ∈ s.posted, 0 < m.key → m ∈ messages := by
    cases success with
    | false => exact absurd hlast hallowed.2.1
    | true => exact fun m hm hkey => hallowed.1.2 m hm ((hsince m).mpr hkey)
  have hnothing : s.enqueued ++ taken = [] := by rw [hs.unpolled hlast, (h.first hlast).1]; rfl
  refine ⟨hs.posted, Int.le_of_lt hpositive, fun _ => hnothing, fun _ m hm hio => ⟨?_, ?_⟩⟩
  · by_cases hkey : 0 < m.key
    · exact hpassed m (hall m (hs.posted m hm) hkey) hio
    · exact le_trans (not_lt.mp hkey) (le_of_lt hpositive)
  · show m ∉ (s.enqueued ++ taken).map QueuedCommand.source
    rw [hnothing]
    exact List.not_mem_nil

/-- Every later poll starts above the mark, and so above the backlog. -/
theorem Discards.later_poll (hs : s.Discards backlog) {messages scanned : List Message}
    {success : Bool} {taken : List QueuedCommand} {con : Context}
    (hallowed : s.heededServer (.wait (.commands messages success)))
    (h : Polled N s.con messages con scanned taken) (hlast : s.con.lastCommandTimestamp ≠ 0) :
    Discards backlog { s with con := con, enqueued := s.enqueued ++ taken } := by
  have hasked := backlogServer_asked hallowed.1
  have hadvances := h.advances hallowed.2.2 (fun m hm => (hasked m hm).2) s.posted s.enqueued
  have hpositive : 0 < s.con.lastCommandTimestamp.toInt :=
    lt_of_le_of_ne hs.mark fun heq => hlast (Int64.toInt_inj.mp heq.symm)
  have hrises := h.le_timestamp
  refine ⟨hs.posted, le_trans hs.mark hrises, fun hzero => ?_,
    fun _ m hm hio => hadvances.passedBy (hs.passed hlast m hm hio)⟩
  have hmark : con.lastCommandTimestamp.toInt = 0 := congrArg Int64.toInt hzero
  omega

/-- **A step keeps the backlog out of reach.** -/
theorem Discards.step (hs : s.Discards backlog)
    (hstep : Step (System.apply N) heededServer s s') : s'.Discards backlog := by
  obtain ⟨e, hallowed, happly⟩ := hstep
  rcases apply_cases happly with ⟨m, rfl, rfl⟩ | ⟨-, rfl⟩ |
    ⟨messages, _, _, taken, con, rfl, hpolled, rfl⟩ | ⟨_, _, -, _, rfl⟩ | ⟨_, -, rfl⟩
  · exact ⟨fun x hx => List.mem_append_left _ (hs.posted x hx), hs.mark, hs.unpolled, hs.passed⟩
  · exact hs
  · by_cases hlast : s.con.lastCommandTimestamp = 0
    · exact hs.first_poll hallowed hpolled hlast
    · exact hs.later_poll hallowed hpolled hlast
  · exact ⟨hs.posted, hs.mark, hs.unpolled, hs.passed⟩
  · exact hs

/-- **The backlog is discarded.** In every run from a fresh context in which
no `getCommands` call reports failure while the timestamp is zero, and none is
made at the last timestamp there is, no message that was on the server before is
ever queued. -/
theorem backlog_discarded (h : Run (System.apply N) heededServer (.withBacklog backlog) s) :
    ∀ c ∈ s.enqueued, c.source ∉ backlog := by
  intro c hc hm
  have hs : s.Discards backlog :=
    h.inv (fun _ _ hstep hs => hs.step hstep) (discards_withBacklog backlog)
  have hsound : s.Sound N := run_sound h (sound_withBacklog backlog)
  by_cases hlast : s.con.lastCommandTimestamp = 0
  · rw [hs.unpolled hlast] at hc
    exact absurd hc List.not_mem_nil
  · exact (hs.passed hlast c.source hm (hsound.genuine c hc).forIoModule).2
      (List.mem_map_of_mem hc)

/-- A backlog of one, a poll that throws, one that is answered, and a command
posted later: only the later one is queued. -/
theorem backlog_discarded_one :
    ∃ s, Run (System.apply .compact) heededServer (.withBacklog [.forOpta 0 10 switchOn]) s
      ∧ s.enqueued.length = 1 ∧ ∀ c ∈ s.enqueued, c.source ∉ [Message.forOpta 0 10 switchOn] := by
  have hplay : (play (System.apply .compact) heededServer
      [.wait .throws, .wait (.commands [.forOpta 0 10 switchOn] true),
        .post (.forOpta 1 20 switchOff), .wait (.commands [.forOpta 1 20 switchOff] true)]
      (.withBacklog [.forOpta 0 10 switchOn])).any
      (fun s => s.enqueued.length = 1) = true := by decide +kernel
  obtain ⟨s, hrun, hlen⟩ := exists_run_of_play hplay
  exact ⟨s, hrun, of_decide_eq_true hlen, backlog_discarded hrun⟩

/-- **A failing first poll queues the backlog.** The client fails once and
then answers: the stale command is in the queue. -/
theorem backlog_queued :
    ∃ s, Run (System.apply .compact) backlogServer (.withBacklog [.forOpta 0 10 switchOn]) s
      ∧ ∃ c ∈ s.enqueued, c.source ∈ [Message.forOpta 0 10 switchOn] := by
  have hplay : (play (System.apply .compact) backlogServer
      [.wait (.commands [] false), .wait (.commands [.forOpta 0 10 switchOn] true)]
      (.withBacklog [.forOpta 0 10 switchOn])).any
      (fun s => ∃ c ∈ s.enqueued, c.source ∈ [Message.forOpta 0 10 switchOn]) = true := by
    decide +kernel
  obtain ⟨s, hrun, hs⟩ := exists_run_of_play hplay
  exact ⟨s, hrun, of_decide_eq_true hs⟩

end System

end IoModule

import IoModule.Server.System
import IoModule.Watermark

/-!
# Each command once

How the module reads the server: the context's timestamp is a mark, a poll
asks for what lies above it, and the mark is raised to everything the poll
has looked at. `System.consumer` forgets the rest of a system and leaves a
`Consumer` of messages, keyed by their timestamps; a poll is one of its steps
(`Polled.advances`, `Polled.covers`).

- `enqueued_once`: however the server answers, with any subset of what was
  asked for in any order, with polls that throw and payloads that do not
  decode, no message is queued twice. The first poll, which overwrites the
  timestamp with 1 when it sees no command, still only moves it up.
- `nothing_lost`: when the server answers with everything asked for, no
  command is missed between two polls whose message was posted above the mark,
  wherever the other messages were posted.
- `tie_lost`: a message that ties with the last one fetched is never asked
  for.
-/

namespace IoModule

/-- The timestamp as a number. -/
def Message.key (m : Message) : Int := m.timestamp.toInt

/-! ## One poll -/

section Poll

variable {N : JsonText} {con con' : Context} {messages scanned : List Message}
  {taken : List QueuedCommand}

/-- The timestamp never falls, the first poll's reset included. -/
theorem Polled.le_timestamp (h : Polled N con messages con' scanned taken) :
    con.lastCommandTimestamp.toInt ≤ con'.lastCommandTimestamp.toInt := by
  by_cases hlast : con.lastCommandTimestamp = 0
  · rw [(h.first hlast).2.2, hlast]
    split
    next => exact le_foldl_raise messages 0
    -- no command: the timestamp goes from 0 to 1
    next => decide
  · rw [h.later hlast]
    exact le_foldl_raise scanned _

/-- It comes from the context, from the batch, or is the first poll's 1. -/
theorem Polled.timestamp_from (h : Polled N con messages con' scanned taken) :
    con'.lastCommandTimestamp = con.lastCommandTimestamp ∨ con'.lastCommandTimestamp = 1
      ∨ ∃ m ∈ messages, con'.lastCommandTimestamp = m.timestamp := by
  by_cases hlast : con.lastCommandTimestamp = 0
  · rw [(h.first hlast).2.2, hlast]
    split
    next =>
      rcases foldl_raise_eq messages 0 with heq | hmem
      · exact Or.inl heq
      · exact Or.inr (Or.inr hmem)
    next => exact Or.inr (Or.inl rfl)
  · rw [h.later hlast]
    rcases foldl_raise_eq scanned con.lastCommandTimestamp with heq | ⟨m, hm, heq⟩
    · exact Or.inl heq
    · exact Or.inr (Or.inr ⟨m, h.initial.subset hm, heq⟩)

/-- What was taken is among what was received. -/
theorem Polled.taken_received (h : Polled N con messages con' scanned taken) {m : Message}
    (hm : m ∈ taken.map QueuedCommand.source) : m ∈ messages :=
  h.initial.subset (h.sublist.subset hm)

/-- The timestamp has reached what was taken. -/
theorem Polled.caught_up (h : Polled N con messages con' scanned taken) {m : Message}
    (hm : m ∈ taken.map QueuedCommand.source) : m.key ≤ con'.lastCommandTimestamp.toInt := by
  by_cases hlast : con.lastCommandTimestamp = 0
  · rw [(h.first hlast).1] at hm
    exact absurd hm List.not_mem_nil
  · rw [h.later hlast]
    exact timestamp_le_foldl_raise _ (h.sublist.subset hm)

/-- **A poll advances the consumer**, provided the timestamp asked for does
not overflow and the server answers with nothing older. -/
theorem Polled.advances (h : Polled N con messages con' scanned taken)
    (hmax : con.lastCommandTimestamp.toInt < 2 ^ 63 - 1)
    (hsince : ∀ m ∈ messages, con.since ≤ m.timestamp) (posted : List Message)
    (enqueued : List QueuedCommand) :
    Consumer.Advances Message.key
      ⟨posted, con.lastCommandTimestamp.toInt, enqueued.map QueuedCommand.source⟩
      ⟨posted, con'.lastCommandTimestamp.toInt, (enqueued ++ taken).map QueuedCommand.source⟩
      (taken.map QueuedCommand.source) where
  mark_le := h.le_timestamp
  taken_eq := List.map_append
  above m hm := (int64_add_one_le_iff hmax).mp (hsince m (h.taken_received hm))
  caught_up _ hm := h.caught_up hm

end Poll

namespace System

/-- The module as a consumer of messages. -/
def consumer (s : System) : Consumer Message Int :=
  ⟨s.posted, s.con.lastCommandTimestamp.toInt, s.enqueued.map QueuedCommand.source⟩

/-! ## At most once -/

/-- A server that answers with some of what it was asked for, each message
once, in any order. Timestamps are positive and short of the last one. -/
def anyServer (s : System) : Event → Prop
  | .post m => m ∉ s.posted ∧ 1 ≤ m.key ∧ m.key < 2 ^ 63 - 1
  | .wait .throws => True
  | .wait (.commands messages _) =>
    messages.Nodup ∧ ∀ m ∈ messages, m ∈ s.posted ∧ s.con.since ≤ m.timestamp
  | .pop _ => True

instance (s : System) (e : Event) : Decidable (s.anyServer e) :=
  match e with
  | .post m => inferInstanceAs (Decidable (m ∉ s.posted ∧ 1 ≤ m.key ∧ m.key < 2 ^ 63 - 1))
  | .wait .throws => inferInstanceAs (Decidable True)
  | .wait (.commands messages _) => inferInstanceAs (Decidable
      (messages.Nodup ∧ ∀ m ∈ messages, m ∈ s.posted ∧ s.con.since ≤ m.timestamp))
  | .pop _ => inferInstanceAs (Decidable True)

/-- Every timestamp around is short of the last one. -/
structure NoOverflow (s : System) : Prop where
  posted : ∀ m ∈ s.posted, m.key < 2 ^ 63 - 1
  mark : s.con.lastCommandTimestamp.toInt < 2 ^ 63 - 1

theorem noOverflow_initial : System.initial.NoOverflow :=
  ⟨fun _ h => absurd h List.not_mem_nil, by decide⟩

/-- A poll of posted messages does not reach the last timestamp. -/
theorem NoOverflow.poll {N : JsonText} {s : System} (hs : s.NoOverflow) {con : Context}
    {messages scanned : List Message} {taken : List QueuedCommand}
    (h : Polled N s.con messages con scanned taken) (hposted : ∀ m ∈ messages, m ∈ s.posted)
    (enqueued : List QueuedCommand) :
    NoOverflow { s with con := con, enqueued := enqueued } where
  posted := hs.posted
  mark := by
    show con.lastCommandTimestamp.toInt < 2 ^ 63 - 1
    rcases h.timestamp_from with heq | heq | ⟨m, hm, heq⟩
    · rw [heq]
      exact hs.mark
    · rw [heq]
      decide
    · rw [heq]
      exact hs.posted m (hposted m hm)

variable {N : JsonText}

/-- **A step advances the consumer** and takes no message twice. -/
theorem NoOverflow.step {s s' : System} (hs : s.NoOverflow)
    (hstep : Step (System.apply N) anyServer s s') :
    s'.NoOverflow ∧ ∃ new, Consumer.Advances Message.key s.consumer s'.consumer new ∧ new.Nodup := by
  obtain ⟨e, hallowed, happly⟩ := hstep
  rcases apply_cases happly with ⟨m, rfl, rfl⟩ | ⟨-, rfl⟩ |
    ⟨messages, _, _, taken, con, rfl, hpolled, rfl⟩ | ⟨_, _, -, _, rfl⟩ | ⟨_, -, rfl⟩
  · exact ⟨⟨List.forall_mem_append.mpr ⟨hs.posted, List.forall_mem_singleton.mpr hallowed.2.2⟩,
      hs.mark⟩, [], .idle rfl rfl, List.nodup_nil⟩
  · exact ⟨hs, [], .idle rfl rfl, List.nodup_nil⟩
  · -- taken in the order of the batch, which lists no message twice
    obtain ⟨hnodup, hanswer⟩ := hallowed
    refine ⟨hs.poll hpolled (fun m hm => (hanswer m hm).1) _, _,
      hpolled.advances hs.mark (fun m hm => (hanswer m hm).2) s.posted s.enqueued, ?_⟩
    exact (hpolled.sublist.trans hpolled.initial.sublist).nodup hnodup
  · exact ⟨⟨hs.posted, hs.mark⟩, [], .idle rfl rfl, List.nodup_nil⟩
  · exact ⟨hs, [], .idle rfl rfl, List.nodup_nil⟩

/-- A run of the system is a run of the consumer. -/
theorem run_consumer {s : System} (h : Run (System.apply N) anyServer .initial s) :
    s.NoOverflow ∧ Relation.ReflTransGen
      (fun a b => ∃ new, Consumer.Advances Message.key a b new ∧ new.Nodup)
      System.initial.consumer s.consumer := by
  induction h with
  | refl => exact ⟨noOverflow_initial, .refl⟩
  | tail _ hstep ih =>
    obtain ⟨hs, hrun⟩ := ih
    obtain ⟨hs', hadvances⟩ := hs.step hstep
    exact ⟨hs', hrun.tail hadvances⟩

/-- **At most once.** In every run from the context made by `init`, no
message is appended to `command_vector` twice. -/
theorem enqueued_once {s : System} (h : Run (System.apply N) anyServer .initial s) :
    (s.enqueued.map QueuedCommand.source).Nodup :=
  Consumer.run_nodup (run_consumer h).2 (fun _ hx => absurd hx List.not_mem_nil) List.nodup_nil

/-- Two commands of one timestamp, fetched out of order around one that does
not decode, with a poll that throws before. -/
theorem enqueued_once_ties : ∃ s, Run (System.apply .compact) anyServer .initial s
    ∧ s.enqueued.length = 1 ∧ (s.enqueued.map QueuedCommand.source).Nodup := by
  have hplay : (play (System.apply .compact) anyServer
      [.post (.forOpta 0 5 switchOn), .wait (.commands [.forOpta 0 5 switchOn] true),
        .post (.forOpta 1 7 noCommand), .post (.forOpta 2 6 switchOn),
        .post (.forOpta 3 6 switchOff), .wait .throws,
        .wait (.commands [.forOpta 3 6 switchOff, .forOpta 1 7 noCommand,
          .forOpta 2 6 switchOn] true),
        .pop ⟨true, true, true⟩, .wait (.commands [] true)] .initial).any
      (fun s => s.enqueued.length = 1) = true := by decide +kernel
  obtain ⟨s, hrun, hlen⟩ := exists_run_of_play hplay
  exact ⟨s, hrun, of_decide_eq_true hlen, enqueued_once hrun⟩

/-! ## At least once -/

variable (N)

/-- A server of commands that decode, posted in the order of their
timestamps, which answers with everything it was asked for. -/
def orderedServer (s : System) : Event → Prop
  | .post m => m ∉ s.posted ∧ (∀ x ∈ s.posted, x.key ≤ m.key)
    ∧ (m.forIoModule = true → m.Decodable N)
  | .wait .throws => True
  | .wait (.commands messages _) =>
    messages = s.posted.filter fun m => s.con.since ≤ m.timestamp
  | .pop _ => True

instance (s : System) (e : Event) : Decidable (s.orderedServer N e) :=
  match e with
  | .post m => inferInstanceAs (Decidable (m ∉ s.posted ∧ (∀ x ∈ s.posted, x.key ≤ m.key)
      ∧ (m.forIoModule = true → m.Decodable N)))
  | .wait .throws => inferInstanceAs (Decidable True)
  | .wait (.commands messages _) => inferInstanceAs (Decidable
      (messages = s.posted.filter fun m => s.con.since ≤ m.timestamp))
  | .pop _ => inferInstanceAs (Decidable True)

/-- If the message is posted, it is above the mark. -/
def postsAboveMark (m : Message) (s : System) : Event → Prop
  | .post x => x = m → s.con.lastCommandTimestamp.toInt < m.key
  | _ => True

instance (m : Message) (s : System) (e : Event) : Decidable (s.postsAboveMark m e) :=
  match e with
  | .post x => inferInstanceAs (Decidable (x = m → s.con.lastCommandTimestamp.toInt < m.key))
  | .wait _ => inferInstanceAs (Decidable True)
  | .pop _ => inferInstanceAs (Decidable True)

/-- An ordered server that posts one message above the mark. The others may tie
with it, or with what has been fetched. -/
def untiedServer (m : Message) (s : System) (e : Event) : Prop :=
  s.orderedServer N e ∧ s.postsAboveMark m e

instance (m : Message) (s : System) (e : Event) : Decidable (s.untiedServer N m e) :=
  inferInstanceAs (Decidable (_ ∧ _))

/-- The message is in the queue or has been handed out. -/
def Delivered (s : System) (m : Message) : Prop :=
  (∃ c ∈ s.con.commandVector, c.source = m) ∨ ∃ r ∈ s.returned, r.command.source = m

instance (s : System) (m : Message) : Decidable (s.Delivered m) :=
  inferInstanceAs (Decidable (_ ∨ _))

/-- Every command on the server decodes. -/
def AllDecode (s : System) : Prop := ∀ m ∈ s.posted, m.forIoModule = true → m.Decodable N

variable {N}

/-- What was queued has been delivered. -/
theorem Sound.delivered {s : System} (h : s.Sound N) {m : Message}
    (hm : m ∈ s.consumer.taken) : s.Delivered m := by
  obtain ⟨c, hc, hsource⟩ := List.mem_map.mp hm
  rcases List.mem_append.mp (h.conserved.mem_iff.mpr hc) with hret | hvec
  · obtain ⟨r, hr, hrc⟩ := List.mem_map.mp hret
    exact Or.inr ⟨r, hr, hrc ▸ hsource⟩
  · exact Or.inl ⟨c, hvec, hsource⟩

/-- A poll that is answered in full takes every command above the mark. -/
theorem takes_all {s : System} {con : Context} {scanned : List Message}
    {taken : List QueuedCommand}
    (h : Polled N s.con (s.posted.filter fun m => s.con.since ≤ m.timestamp) con scanned taken)
    (hdecode : s.AllDecode N) (hprimed : s.con.lastCommandTimestamp ≠ 0) {m : Message}
    (hm : m ∈ s.posted) (hio : m.forIoModule = true)
    (habove : s.con.lastCommandTimestamp.toInt < m.key) :
    m ∈ taken.map QueuedCommand.source := by
  -- a message lies above the mark, so the mark's successor does not overflow
  have hmax : s.con.lastCommandTimestamp.toInt < 2 ^ 63 - 1 := by
    have hlt := m.timestamp.toInt_lt
    unfold Message.key at habove
    omega
  have hasked : s.con.since ≤ m.timestamp := (int64_add_one_le_iff hmax).mpr habove
  obtain ⟨-, hsources⟩ := h.complete hprimed
    fun x hx => hdecode x (List.mem_of_mem_filter hx)
  rw [hsources]
  exact List.mem_filter.mpr ⟨List.mem_filter.mpr ⟨hm, by simpa using hasked⟩, hio⟩

/-- Posts keep everything on the server decodable, and nothing else touches
it. -/
theorem AllDecode.step {s s' : System} (hs : s.AllDecode N)
    (hstep : Step (System.apply N) (orderedServer N) s s') : s'.AllDecode N := by
  obtain ⟨e, hordered, happly⟩ := hstep
  rcases apply_cases happly with ⟨m, rfl, rfl⟩ | ⟨-, rfl⟩ |
    ⟨_, _, _, _, _, -, -, rfl⟩ | ⟨_, _, -, _, rfl⟩ | ⟨_, -, rfl⟩
  · exact List.forall_mem_append.mpr ⟨hs, List.forall_mem_singleton.mpr hordered.2.2⟩
  all_goals exact hs

/-- A primed system: polled, and with nothing on the server that does not
decode. -/
structure Primed (N : JsonText) (s : System) : Prop where
  sound : s.Sound N
  decode : s.AllDecode N
  mark : 0 < s.con.lastCommandTimestamp.toInt

theorem Primed.ne_zero {s : System} (h : s.Primed N) : s.con.lastCommandTimestamp ≠ 0 := by
  intro hzero
  have hmark := h.mark
  rw [hzero] at hmark
  exact absurd hmark (by decide)

/-- **A step covers the consumer**, as far as one command is concerned: if the
mark moves past it, it is queued. -/
theorem Primed.step {s s' : System} (hs : s.Primed N) {m : Message} (hio : m.forIoModule = true)
    (before : List Message) (hstep : Step (System.apply N) (untiedServer N m) s s') :
    s'.Primed N ∧ Consumer.Covers Message.key (fun x => x = m ∧ x ∉ before)
      s.consumer s'.consumer := by
  obtain ⟨e, ⟨hordered, habove⟩, happly⟩ := hstep
  have hdecode := hs.decode.step ⟨e, hordered, happly⟩
  have hsound := hs.sound.apply happly
  rcases apply_cases happly with ⟨m, rfl, rfl⟩ | ⟨-, rfl⟩ |
    ⟨messages, _, _, taken, con, rfl, hpolled, rfl⟩ | ⟨_, _, -, _, rfl⟩ | ⟨_, -, rfl⟩
  · exact ⟨⟨hsound, hdecode, hs.mark⟩, .post fun hrel => hrel.1 ▸ habove hrel.1⟩
  · exact ⟨hs, .idle rfl⟩
  · have hall : messages = s.posted.filter fun m => s.con.since ≤ m.timestamp := hordered
    subst hall
    refine ⟨⟨hsound, hdecode, lt_of_lt_of_le hs.mark hpolled.le_timestamp⟩,
      fun x hx => ?_, fun x hx hrel hlt _ => ?_, fun x hx _ => Or.inl hx⟩
    · show x ∈ (s.enqueued ++ taken).map QueuedCommand.source
      rw [List.map_append]
      exact List.mem_append_left _ hx
    · show x ∈ (s.enqueued ++ taken).map QueuedCommand.source
      rw [List.map_append]
      exact List.mem_append_right _
        (takes_all hpolled hs.decode hs.ne_zero hx (hrel.1 ▸ hio) hlt)
  · exact ⟨⟨hsound, hdecode, hs.mark⟩, .idle rfl⟩
  · exact ⟨hs, .idle rfl⟩

/-- A primed run of the system is a covering run of the consumer. -/
theorem Primed.run {s s' : System} (hs : s.Primed N) {m : Message} (hio : m.forIoModule = true)
    (before : List Message) (h : Run (System.apply N) (untiedServer N m) s s') :
    s'.Primed N ∧ Relation.ReflTransGen
      (Consumer.Covers Message.key (fun x => x = m ∧ x ∉ before))
      s.consumer s'.consumer := by
  induction h with
  | refl => exact ⟨hs, .refl⟩
  | tail _ hstep ih =>
    obtain ⟨hmid, hrun⟩ := ih
    obtain ⟨hs', hcovers⟩ := hmid.step hio before hstep
    exact ⟨hs', hrun.tail hcovers⟩

/-- The step that makes the timestamp non-zero primes the system. -/
theorem primed_of_first {s₀ s₁ : System}
    (hstart : Run (System.apply N) (orderedServer N) .initial s₀)
    (hunpolled : s₀.con.lastCommandTimestamp = 0)
    (hfirst : Step (System.apply N) (orderedServer N) s₀ s₁)
    (hpolled : s₁.con.lastCommandTimestamp ≠ 0) : s₁.Primed N := by
  have hrun : Run (System.apply N) (orderedServer N) .initial s₁ := hstart.tail hfirst
  refine ⟨run_sound hrun (sound_withBacklog []),
    hrun.inv (fun _ _ hstep hs => hs.step hstep) fun _ h => absurd h List.not_mem_nil, ?_⟩
  have hrises : s₀.con.lastCommandTimestamp.toInt ≤ s₁.con.lastCommandTimestamp.toInt := by
    obtain ⟨e, -, happly⟩ := hfirst
    rcases apply_cases happly with ⟨m, -, rfl⟩ | ⟨-, rfl⟩ |
      ⟨_, _, _, _, _, -, hpoll, rfl⟩ | ⟨_, _, -, _, rfl⟩ | ⟨_, -, rfl⟩
    case inr.inr.inl => exact hpoll.le_timestamp
    all_goals exact Int.le_refl _
  rw [hunpolled] at hrises
  refine lt_of_le_of_ne hrises fun heq => hpolled ?_
  exact Int64.toInt_inj.mp heq.symm

/-- **At least once.** Once the first poll has made the timestamp non-zero,
every poll that is answered leaves every command posted since that first poll
in the queue or with the caller, provided it was posted above the mark. It does
not matter where the others were posted. -/
theorem nothing_lost {s₀ s₁ s₂ s₃ : System} {messages : List Message} {success : Bool}
    (hstart : Run (System.apply N) (orderedServer N) .initial s₀)
    (hunpolled : s₀.con.lastCommandTimestamp = 0)
    (hfirst : Step (System.apply N) (orderedServer N) s₀ s₁)
    (hpolled : s₁.con.lastCommandTimestamp ≠ 0) {m : Message}
    (hrun : Run (System.apply N) (untiedServer N m) s₁ s₂)
    (hallowed : s₂.orderedServer N (.wait (.commands messages success)))
    (hwait : s₂.apply N (.wait (.commands messages success)) = some s₃) (hm : m ∈ s₃.posted)
    (hnew : m ∉ s₁.posted) (hio : m.forIoModule = true) : s₃.Delivered m := by
  have hprimed : s₁.Primed N := primed_of_first hstart hunpolled hfirst hpolled
  obtain ⟨hprimed₂, hcovers⟩ := hprimed.run hio s₁.posted hrun
  have hkept : Consumer.NothingMissed Message.key (fun x => x = m ∧ x ∉ s₁.posted) s₂.consumer :=
    Consumer.run_taken hcovers fun x hx hrel _ => absurd hx hrel.2
  have hsound : s₃.Sound N := hprimed₂.sound.apply hwait
  refine hsound.delivered ?_
  have hall : messages = s₂.posted.filter fun m => s₂.con.since ≤ m.timestamp := hallowed
  rcases apply_cases hwait with ⟨_, h, -⟩ | ⟨h, -⟩ |
    ⟨_, _, _, taken, con, h, hpoll, rfl⟩ | ⟨_, _, h, -⟩ | ⟨_, h, -⟩
  case inr.inr.inl =>
    cases h
    subst hall
    show m ∈ (s₂.enqueued ++ taken).map QueuedCommand.source
    rw [List.map_append]
    -- at or below the mark it has been taken before, above it it is taken now
    rcases le_or_gt m.key s₂.con.lastCommandTimestamp.toInt with hle | hgt
    · exact List.mem_append_left _ (hkept m hm ⟨rfl, hnew⟩ hle)
    · exact List.mem_append_right _ (takes_all hpoll hprimed₂.decode hprimed₂.ne_zero hm hio hgt)
  all_goals cases h

/-- One command is fetched, a second one ties with it, and a third one is
posted above: the next poll delivers it, and the second one is lost. -/
theorem nothing_lost_one : ∃ s₃ : System, s₃.Delivered (.forOpta 2 20 switchOn)
    ∧ Message.forOpta 1 10 switchOff ∈ s₃.posted ∧ ¬ s₃.Delivered (.forOpta 1 10 switchOff) := by
  have hfirst : Step (System.apply .compact) (orderedServer .compact) .initial
      ⟨[], ⟨[], [], 1⟩, [], []⟩ :=
    ⟨.wait (.commands [] true), by decide +kernel, by decide +kernel⟩
  have hplay : (play (System.apply .compact) (untiedServer .compact (.forOpta 2 20 switchOn))
      [.post (.forOpta 0 10 switchOn), .wait (.commands [.forOpta 0 10 switchOn] true),
        .post (.forOpta 1 10 switchOff), .post (.forOpta 2 20 switchOn)]
      ⟨[], ⟨[], [], 1⟩, [], []⟩).any
      (fun s => s.orderedServer .compact (.wait (.commands [.forOpta 2 20 switchOn] true))
        ∧ (s.apply .compact (.wait (.commands [.forOpta 2 20 switchOn] true))).any fun s₃ =>
          Message.forOpta 2 20 switchOn ∈ s₃.posted ∧ Message.forOpta 1 10 switchOff ∈ s₃.posted
            ∧ ¬ s₃.Delivered (.forOpta 1 10 switchOff))
      = true := by decide +kernel
  obtain ⟨s₂, hrun, hs₂⟩ := exists_run_of_play hplay
  obtain ⟨hallowed, hafter⟩ := of_decide_eq_true hs₂
  obtain ⟨s₃, hwait, hs₃⟩ := (Option.any_eq_true _ _).mp hafter
  obtain ⟨hm, hposted, hlost⟩ := of_decide_eq_true hs₃
  exact ⟨s₃, nothing_lost .refl rfl hfirst (by decide) hrun hallowed hwait hm List.not_mem_nil rfl,
    hposted, hlost⟩

/-- **A tie is lost.** Two commands carry the same timestamp and a poll comes
between them: the second is never asked for. -/
theorem tie_lost : ∃ (s₀ s₁ s₂ s₃ : System) (messages : List Message) (success : Bool),
    Run (System.apply .compact) (orderedServer .compact) .initial s₀
      ∧ s₀.con.lastCommandTimestamp = 0
      ∧ Step (System.apply .compact) (orderedServer .compact) s₀ s₁
      ∧ s₁.con.lastCommandTimestamp ≠ 0
      ∧ Run (System.apply .compact) (orderedServer .compact) s₁ s₂
      ∧ s₂.orderedServer .compact (.wait (.commands messages success))
      ∧ s₂.apply .compact (.wait (.commands messages success)) = some s₃
      ∧ ∃ m ∈ s₃.posted, m ∉ s₁.posted ∧ m.forIoModule = true ∧ ¬ s₃.Delivered m := by
  have hfirst : Step (System.apply .compact) (orderedServer .compact) .initial
      ⟨[], ⟨[], [], 1⟩, [], []⟩ :=
    ⟨.wait (.commands [] true), by decide +kernel, by decide +kernel⟩
  have hplay : (play (System.apply .compact) (orderedServer .compact)
      [.post (.forOpta 0 10 switchOn), .wait (.commands [.forOpta 0 10 switchOn] true),
        .post (.forOpta 1 10 switchOff)] ⟨[], ⟨[], [], 1⟩, [], []⟩).any
      (fun s => s.orderedServer .compact (.wait (.commands [] true))
        ∧ (s.apply .compact (.wait (.commands [] true))).any fun s₃ =>
          ∃ m ∈ s₃.posted, m ∉ ([] : List Message) ∧ m.forIoModule = true ∧ ¬ s₃.Delivered m)
      = true := by decide +kernel
  obtain ⟨s₂, hrun, hs₂⟩ := exists_run_of_play hplay
  obtain ⟨hallowed, hlost⟩ := of_decide_eq_true hs₂
  cases hwait : s₂.apply .compact (.wait (.commands [] true)) with
  | none => rw [hwait] at hlost; cases hlost
  | some s₃ =>
    rw [hwait] at hlost
    exact ⟨_, _, s₂, s₃, [], true, .refl, rfl, hfirst, by decide, hrun, hallowed, hwait,
      of_decide_eq_true hlost⟩

end System

end IoModule

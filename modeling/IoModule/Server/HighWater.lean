import IoModule.Server.Session

/-!
# The timestamp and what was seen

`last_command_timestamp` is a high-water mark: the loop raises it to every
message it looks at, those of other modules included, and to one that is bad
before it returns from the middle of the batch (`lookedAt`). What a poll asks
for next is above the mark.

One assignment goes the other way. After a first poll without a command the
timestamp is set to 1, whatever the loop has raised it to, and the flag that
decides on it counts the messages for this module only. A first batch of
messages for others with timestamps above 1 leaves the mark behind them
(`Context.Overwrites`; `first_poll_overwrites` is a batch of one).

Apart from that the mark keeps up: `watermarkKept_iff` is one poll, and
`watermark_never_behind` any session from `init` on.
-/

namespace IoModule

variable (N : JsonText)

/-- What a loop that parses looks at: the batch up to its first bad command. -/
def lookedAt : List Message → List Message
  | [] => []
  | m :: ms => if m.forIoModule = true ∧ ¬ m.Decodable N then [m] else m :: lookedAt ms

/-- The messages a logged call has seen. A poll that answers `NOT_OK` or
throws has left its batch at a bad command, any other has seen all of it. -/
def seenBy : Call × Result → List Message
  | (.waitForCommand (.commands messages _), .code rc) =>
    if rc = .notOk then lookedAt N messages else messages
  | (.waitForCommand (.commands messages _), _) => lookedAt N messages
  | _ => []

/-- All messages the polls of a session have seen. -/
def Session.seen (s : Session) : List Message := s.log.flatMap (seenBy N)

/-- A first poll whose batch has no command, but a message with a timestamp
above 1. -/
def Context.Overwrites (con : Context) : Answer → Prop
  | .throws => False
  | .commands messages _ => con.lastCommandTimestamp = 0
    ∧ messages.any Message.forIoModule = false ∧ ∃ m ∈ messages, 1 < m.timestamp

instance (con : Context) (answer : Answer) : Decidable (con.Overwrites answer) :=
  match answer with
  | .throws => inferInstanceAs (Decidable False)
  | .commands messages _ => inferInstanceAs (Decidable (con.lastCommandTimestamp = 0
    ∧ messages.any Message.forIoModule = false ∧ ∃ m ∈ messages, 1 < m.timestamp))

/-- The timestamp has not fallen in a poll, and has reached every message the
poll has seen. -/
structure WatermarkKept (con : Context) (answer : Answer) (result : Except JsonError ReturnCode)
    (con' : Context) : Prop where
  not_fallen : con.lastCommandTimestamp ≤ con'.lastCommandTimestamp
  reached : ∀ m ∈ seenBy N (.waitForCommand answer, .ofWait result),
    m.timestamp ≤ con'.lastCommandTimestamp

variable {N}

/-! ## One poll -/

/-- A batch is looked at up to its first bad command. -/
theorem lookedAt_broken {before : List Message} {bad : Message} (hbefore : Clean N before)
    (hio : bad.forIoModule = true) (hbad : ¬ bad.Decodable N) (after : List Message) :
    lookedAt N (before ++ bad :: after) = before ++ [bad] := by
  induction before with
  | nil => exact if_pos ⟨hio, hbad⟩
  | cons m before ih =>
    have hm : ¬ (m.forIoModule = true ∧ ¬ m.Decodable N) := by
      intro hbroken
      exact hbroken.2 (hbefore m (List.mem_cons_self ..) hbroken.1)
    have hrest : Clean N before := fun x hx => hbefore x (List.mem_cons_of_mem _ hx)
    rw [List.cons_append, lookedAt, if_neg hm, ih hrest, List.cons_append]

/-- **The mark after a poll.** A first poll without a command sets it to 1;
any other has raised it to what it has seen. -/
theorem wait_timestamp {con con' : Context} {answer : Answer} {result : Except JsonError ReturnCode}
    (h : con.waitForCommand N (fun _ => answer) = (result, con')) :
    con'.lastCommandTimestamp
        = (seenBy N (.waitForCommand answer, .ofWait result)).foldl raise con.lastCommandTimestamp
      ∨ ∃ messages success, answer = .commands messages success
        ∧ con.lastCommandTimestamp = 0 ∧ messages.any Message.forIoModule = false
        ∧ con'.lastCommandTimestamp = 1
        ∧ seenBy N (.waitForCommand answer, .ofWait result) = messages := by
  cases answer with
  | throws =>
    rw [wait_throws] at h
    cases h
    exact Or.inl rfl
  | commands messages success =>
    by_cases hlast : con.lastCommandTimestamp = 0
    · rw [wait_first hlast] at h
      cases h
      cases hany : messages.any Message.forIoModule with
      | true =>
        refine Or.inl ?_
        rw [hlast]
        rfl
      | false => exact Or.inr ⟨messages, success, rfl, hlast, hany, rfl, rfl⟩
    · refine Or.inl ?_
      rcases clean_or_broken N messages with hclean | ⟨before, bad, after, rfl, hbefore, hio, hbad⟩
      · rw [wait_clean hlast hclean] at h
        cases h
        cases messages.any Message.forIoModule <;> rfl
      · rw [wait_broken hlast hbefore hio hbad] at h
        obtain ⟨rfl, rfl⟩ := Prod.mk.inj h
        have hseen : seenBy N (.waitForCommand (.commands (before ++ bad :: after) success),
            .ofWait (DeviceCommand.fresh.deserializeFromBuffer N (.data bad.payload)).1)
            = lookedAt N (before ++ bad :: after) := by
          cases hresult : (DeviceCommand.fresh.deserializeFromBuffer N (.data bad.payload)).1 with
          | error e => rfl
          | ok rc =>
            rw [(refused_of_returned hbad hresult).2]
            rfl
        rw [hseen, lookedAt_broken hbefore hio hbad after]

/-- A mark that was raised has not fallen, and has reached what it was raised
to. -/
theorem WatermarkKept.of_raised {con con' : Context} {answer : Answer}
    {result : Except JsonError ReturnCode} (h : con'.lastCommandTimestamp
      = (seenBy N (.waitForCommand answer, .ofWait result)).foldl raise con.lastCommandTimestamp) :
    WatermarkKept N con answer result con' where
  not_fallen := by
    rw [h]
    exact Int64.le_iff_toInt_le.mpr (le_foldl_raise _ _)
  reached m hm := by
    rw [h]
    exact Int64.le_iff_toInt_le.mpr (timestamp_le_foldl_raise _ hm)

/-- **When a poll keeps the mark.** -/
theorem watermarkKept_iff {con con' : Context} {answer : Answer}
    {result : Except JsonError ReturnCode}
    (h : con.waitForCommand N (fun _ => answer) = (result, con')) :
    WatermarkKept N con answer result con' ↔ ¬ con.Overwrites answer := by
  constructor
  · intro hkept hover
    cases answer with
    | throws => exact hover
    | commands messages success =>
      obtain ⟨hlast, hany, m, hm, hlate⟩ := hover
      rw [wait_first hlast] at h
      cases h
      have hreached := hkept.reached m hm
      simp only [hany] at hreached
      exact Int64.lt_irrefl (Int64.lt_of_lt_of_le hlate hreached)
  · intro hnot
    rcases wait_timestamp h with hraised | ⟨messages, success, rfl, hlast, hany, hone, hseen⟩
    · exact .of_raised hraised
    · refine ⟨by rw [hlast, hone]; decide, fun m hm => ?_⟩
      rw [hseen] at hm
      rw [hone]
      exact Int64.not_lt.mp fun hlate => hnot ⟨hlast, hany, m, hm, hlate⟩

/-- **The first poll overwrites the mark**: it sees one message, for another
module, and leaves the timestamp below it. -/
theorem first_poll_overwrites :
    ∃ con', Context.initial.waitForCommand .compact (fun _ => .commands [.forOther 0 10] true)
        = (.ok .timeoutOccurred, con')
      ∧ con'.lastCommandTimestamp < Message.timestamp (.forOther 0 10) := by
  refine ⟨_, wait_first rfl _ _, ?_⟩
  decide +kernel

/-! ## A session -/

namespace Session

/-- An environment in which no poll overwrites the mark. -/
def noneOverwrites (s : Session) : Call → Prop
  | .waitForCommand answer => ¬ s.con.Overwrites answer
  | _ => True

instance (s : Session) (call : Call) : Decidable (s.noneOverwrites call) :=
  match call with
  | .waitForCommand answer => inferInstanceAs (Decidable (¬ s.con.Overwrites answer))
  | .popCommand _ => inferInstanceAs (Decidable True)
  | .deviceConnected _ _ => inferInstanceAs (Decidable True)
  | .deviceDisconnected _ _ => inferInstanceAs (Decidable True)
  | .forwardStatus _ => inferInstanceAs (Decidable True)
  | .forwardErrorMessage _ => inferInstanceAs (Decidable True)
  | .commandAck => inferInstanceAs (Decidable True)

/-- The mark has reached all that was seen. -/
def CaughtUp (N : JsonText) (s : Session) : Prop :=
  ∀ m ∈ s.seen N, m.timestamp ≤ s.con.lastCommandTimestamp

end Session

/-- A call that is no poll sees nothing and leaves the mark alone; a poll that
does not overwrite the mark keeps it. -/
theorem Performed.mark {con con' : Context} {call : Call} {result : Result}
    (h : Performed N con call result con')
    (hkeeps : ∀ answer, call = .waitForCommand answer → ¬ con.Overwrites answer) :
    con.lastCommandTimestamp ≤ con'.lastCommandTimestamp
      ∧ ∀ m ∈ seenBy N (call, result), m.timestamp ≤ con'.lastCommandTimestamp := by
  have hnothing : ∀ m ∈ ([] : List Message), m.timestamp ≤ con'.lastCommandTimestamp :=
    fun m hm => absurd hm List.not_mem_nil
  cases h with
  | waited hwait =>
    have hkept := (watermarkKept_iff hwait).mpr (hkeeps _ rfl)
    exact ⟨hkept.not_fallen, hkept.reached⟩
  | popped hvector => exact ⟨Int64.le_refl _, hnothing⟩
  | kept => exact ⟨Int64.le_refl _, hnothing⟩
  | connected => exact ⟨Int64.le_refl _, hnothing⟩
  | unconnected hresult => exact ⟨Int64.le_refl _, hnothing⟩
  | disconnected hdevices => exact ⟨Int64.le_refl _, hnothing⟩
  | unknown => exact ⟨Int64.le_refl _, hnothing⟩
  | forwardedStatus => exact ⟨Int64.le_refl _, hnothing⟩
  | forwardedError => exact ⟨Int64.le_refl _, hnothing⟩
  | acknowledged => exact ⟨Int64.le_refl _, hnothing⟩

/-- A step that does not overwrite the mark keeps it caught up. -/
theorem Session.CaughtUp.apply {s s' : Session} {call : Call} (h : s.CaughtUp N)
    (hallowed : s.noneOverwrites call) (hstep : s.apply N call = some s') : s'.CaughtUp N := by
  obtain ⟨result, hperformed, hlog⟩ := Session.apply_cases hstep
  have hmark := hperformed.mark fun answer hcall => by
    subst hcall
    exact hallowed
  intro m hm
  unfold Session.seen at hm
  rw [hlog, List.flatMap_append, List.flatMap_singleton] at hm
  rcases List.mem_append.mp hm with hold | hnew
  · exact Int64.le_trans (h m hold) hmark.1
  · exact hmark.2 m hnew

/-- **The mark never falls behind what was seen**, in any session from `init`
on in which no first poll overwrites it. One poll, on whatever context and
whatever it brings, keeps the mark exactly if it does not overwrite it. -/
theorem watermark_never_behind {s : Session}
    (h : Run (Session.apply N) Session.noneOverwrites (.start .initial) s) :
    s.CaughtUp N ∧ ∀ con answer result con',
      Context.waitForCommand N (fun _ => answer) con = (result, con') →
      (WatermarkKept N con answer result con' ↔ ¬ con.Overwrites answer) := by
  refine ⟨?_, fun _ _ _ _ hwait => watermarkKept_iff hwait⟩
  refine h.inv (fun _ _ ⟨_, hallowed, hstep⟩ hs => hs.apply hallowed hstep) ?_
  exact fun m hm => absurd hm List.not_mem_nil

/-- A session with a first poll that sees one command, a message for another
module behind it, and a batch that is left at a bad command. -/
theorem watermark_never_behind_session :
    ∃ s : Session, s.con.lastCommandTimestamp = 8 ∧ s.CaughtUp .compact
      ∧ ∀ con answer result con',
        Context.waitForCommand .compact (fun _ => answer) con = (result, con') →
        (WatermarkKept .compact con answer result con' ↔ ¬ con.Overwrites answer) := by
  have hplayed : ((play (Session.apply .compact) Session.noneOverwrites
      [.waitForCommand (.commands [.forOpta 0 5 switchOn, .forOther 1 6] true),
        .waitForCommand (.commands halfAppliedBatch true)] (.start .initial)).any
      fun s => s.con.lastCommandTimestamp = 8) = true := by decide +kernel
  obtain ⟨s, hrun, hfound⟩ := exists_run_of_play hplayed
  exact ⟨s, of_decide_eq_true hfound, watermark_never_behind hrun⟩

end IoModule

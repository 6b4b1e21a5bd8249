import IoModule.Server.Context

/-!
# What a poll makes of a batch

`wait_for_command` in closed form. A batch is `Clean` when every command in it
decodes; otherwise it has a first command that does not, and splits there into
what came before, the bad one and the rest (`clean_or_broken`). With that, a
poll that receives a batch does one of three things:

- `wait_first`: the first poll reads the timestamps and queues nothing.
- `wait_clean`: a later poll queues the commands of a clean batch
  (`received`), in order.
- `wait_broken`: it leaves a broken batch at the bad command. What came before
  is queued, the rest is not looked at, and the timestamp has been raised to
  the bad one, since that is done before decoding.

The last is where the loop returns from the middle. `notOk_queues_nothing_iff`
says when a poll that does not report `OK` has queued commands all the same;
`others_not_lost_iff` when the rest of the batch is out of reach of the next
poll.
-/

namespace IoModule

/-! ## Batches -/

/-- The command in the payload of a message. -/
def Message.decoded (N : JsonText) (m : Message) : DeviceCommand :=
  (DeviceCommand.fresh.deserializeFromBuffer N (.data m.payload)).2

/-- The payload decodes to `NOT_OK`. -/
def Message.Refused (N : JsonText) (m : Message) : Prop :=
  (DeviceCommand.fresh.deserializeFromBuffer N (.data m.payload)).1 = .ok .notOk

instance (N : JsonText) (m : Message) : Decidable (m.Refused N) :=
  inferInstanceAs (Decidable (_ = _))

/-- Every command of the batch decodes. -/
def Clean (N : JsonText) (messages : List Message) : Prop :=
  ∀ m ∈ messages, m.forIoModule = true → m.Decodable N

instance (N : JsonText) (messages : List Message) : Decidable (Clean N messages) :=
  inferInstanceAs (Decidable (∀ m ∈ messages, _ → _))

/-- The commands of a batch, in order, each with the device of its message. -/
def received (N : JsonText) (messages : List Message) : List QueuedCommand :=
  (messages.filter Message.forIoModule).map fun m => m.queued (m.decoded N)

variable {N : JsonText}

/-- What is genuine is known by its source. -/
theorem QueuedCommand.Genuine.eq_queued {e : QueuedCommand} (h : e.Genuine N) :
    e.source.queued (e.source.decoded N) = e := by
  have hcommand : e.source.decoded N = e.command := congrArg Prod.snd h.decoded
  rw [hcommand, ← h.queued_eq]

/-- What the loop took is what it received. -/
theorem eq_received {messages : List Message} {taken : List QueuedCommand}
    (hgenuine : ∀ e ∈ taken, e.Genuine N)
    (hsources : taken.map QueuedCommand.source = messages.filter Message.forIoModule) :
    taken = received N messages := by
  unfold received
  rw [← hsources, List.map_map]
  exact ((List.map_congr_left fun e he => (hgenuine e he).eq_queued).trans (List.map_id taken)).symm

theorem received_eq_nil_iff (messages : List Message) :
    received N messages = [] ↔ messages.any Message.forIoModule = false := by
  unfold received
  rw [List.map_eq_nil_iff, List.filter_eq_nil_iff, List.any_eq_false]

/-- Only a batch without a command adds nothing to a queue. -/
theorem append_received_eq_iff (queue : List QueuedCommand) (messages : List Message) :
    queue ++ received N messages = queue ↔ messages.any Message.forIoModule = false := by
  rw [List.append_right_eq_self, received_eq_nil_iff]

/-- A batch is clean or splits at its first bad command. -/
theorem clean_or_broken (N : JsonText) (messages : List Message) :
    Clean N messages ∨ ∃ before bad after, messages = before ++ bad :: after
      ∧ Clean N before ∧ bad.forIoModule = true ∧ ¬ bad.Decodable N := by
  induction messages with
  | nil =>
    refine Or.inl ?_
    intro m hm
    exact absurd hm List.not_mem_nil
  | cons m ms ih =>
    by_cases hm : m.forIoModule = true → m.Decodable N
    · rcases ih with hclean | ⟨before, bad, after, rfl, hbefore, hbad⟩
      · exact Or.inl (List.forall_mem_cons.mpr ⟨hm, hclean⟩)
      · exact Or.inr ⟨m :: before, bad, after, rfl, List.forall_mem_cons.mpr ⟨hm, hbefore⟩, hbad⟩
    · rw [Classical.not_imp] at hm
      exact Or.inr ⟨[], m, ms, rfl, fun _ h => absurd h List.not_mem_nil, hm⟩

theorem Message.Refused.not_decodable {m : Message} (h : m.Refused N) : ¬ m.Decodable N := by
  intro hex
  obtain ⟨c, hc⟩ := hex
  unfold Message.Refused at h
  rw [hc] at h
  cases h

/-- What ends a poll that returns is a refusal. -/
theorem refused_of_returned {bad : Message} (hbad : ¬ bad.Decodable N) {rc : ReturnCode}
    (h : (DeviceCommand.fresh.deserializeFromBuffer N (.data bad.payload)).1 = .ok rc) :
    bad.Refused N ∧ rc = .notOk := by
  rcases DeviceCommand.deserialize_code (Prod.ext h rfl) with rfl | rfl
  · exact absurd ⟨_, Prod.ext h rfl⟩ hbad
  · exact ⟨h, rfl⟩

/-! ## The loop -/

/-- A loop that does not parse reads the timestamps only. -/
theorem scan_unparsed (messages : List Message) (s : Scan) :
    forEach (scanCommand N false) messages s
      = (none, ⟨{ s.con with
          lastCommandTimestamp := messages.foldl raise s.con.lastCommandTimestamp },
        s.receivedNoCommands && !messages.any Message.forIoModule⟩) := by
  obtain ⟨scanned, taken, h⟩ := scan_spec (N := N) false messages s
  have hstop := h.runs_through fun hparse => nomatch hparse
  obtain ⟨rfl, -, hreceived⟩ := h.finished hstop
  have hvector := h.vector_eq
  rw [h.unprimed rfl, List.append_nil] at hvector
  exact Prod.ext hstop
    (Scan.ext (Context.ext h.devices_eq hvector h.timestamp_eq) hreceived)

/-- A loop over a clean batch takes what it receives. -/
theorem scan_clean {messages : List Message} (hclean : Clean N messages) (s : Scan) :
    forEach (scanCommand N true) messages s
      = (none, ⟨{ s.con with
          commandVector := s.con.commandVector ++ received N messages
          lastCommandTimestamp := messages.foldl raise s.con.lastCommandTimestamp },
        s.receivedNoCommands && !messages.any Message.forIoModule⟩) := by
  obtain ⟨scanned, taken, h⟩ := scan_spec (N := N) true messages s
  have hstop := h.runs_through fun _ => hclean
  obtain ⟨rfl, hsources, hreceived⟩ := h.finished hstop
  have hvector := h.vector_eq
  rw [eq_received h.genuine (hsources rfl)] at hvector
  exact Prod.ext hstop
    (Scan.ext (Context.ext h.devices_eq hvector h.timestamp_eq) hreceived)

/-- A bad command ends the loop with what its decoding answers. -/
theorem scanCommand_bad {bad : Message} (hio : bad.forIoModule = true) (hbad : ¬ bad.Decodable N)
    (s : Scan) :
    scanCommand N true bad s
      = (some (DeviceCommand.fresh.deserializeFromBuffer N (.data bad.payload)).1,
        ⟨{ s.con with lastCommandTimestamp := raise s.con.lastCommandTimestamp bad }, false⟩) := by
  unfold scanCommand
  rw [if_pos hio, if_pos rfl]
  rcases hdec : DeviceCommand.fresh.deserializeFromBuffer N (.data bad.payload) with ⟨e | rc, c⟩
  · rfl
  · rcases DeviceCommand.deserialize_code hdec with rfl | rfl
    · exact absurd ⟨c, hdec⟩ hbad
    · rfl

/-- A loop over a broken batch takes what came before the bad command. -/
theorem scan_broken {before : List Message} {bad : Message} (hbefore : Clean N before)
    (hio : bad.forIoModule = true) (hbad : ¬ bad.Decodable N) (after : List Message) (s : Scan) :
    forEach (scanCommand N true) (before ++ bad :: after) s
      = (some (DeviceCommand.fresh.deserializeFromBuffer N (.data bad.payload)).1,
        ⟨{ s.con with
          commandVector := s.con.commandVector ++ received N before
          lastCommandTimestamp := (before ++ [bad]).foldl raise s.con.lastCommandTimestamp },
        false⟩) := by
  rw [forEach_append_next _ _ (scan_clean hbefore s), forEach_cons_stop (scanCommand_bad hio hbad _),
    List.foldl_append]
  rfl

/-! ## The poll -/

/-- A poll whose client throws does nothing. -/
theorem wait_throws (con : Context) :
    con.waitForCommand N (fun _ => .throws) = (.ok .timeoutOccurred, con) := rfl

/-- **The first poll** queues nothing. Without a command in the batch the
timestamp becomes 1, else the highest of the batch. -/
theorem wait_first {con : Context} (hlast : con.lastCommandTimestamp = 0)
    (messages : List Message) (success : Bool) :
    con.waitForCommand N (fun _ => .commands messages success)
      = (.ok .timeoutOccurred, { con with
        lastCommandTimestamp :=
          if messages.any Message.forIoModule then messages.foldl raise 0 else 1 }) := by
  have hparse : (con.lastCommandTimestamp != 0) = false := by simp [hlast]
  simp only [Context.waitForCommand, hparse, scan_unparsed]
  rw [hlast]
  cases messages.any Message.forIoModule <;> rfl

/-- **A later poll of a clean batch** queues its commands and answers `OK` if
there are any. -/
theorem wait_clean {con : Context} (hlast : con.lastCommandTimestamp ≠ 0)
    {messages : List Message} (hclean : Clean N messages) (success : Bool) :
    con.waitForCommand N (fun _ => .commands messages success)
      = (.ok (if messages.any Message.forIoModule then .ok else .timeoutOccurred), { con with
        commandVector := con.commandVector ++ received N messages
        lastCommandTimestamp := messages.foldl raise con.lastCommandTimestamp }) := by
  have hparse : (con.lastCommandTimestamp != 0) = true := by simp [hlast]
  simp only [Context.waitForCommand, hparse, scan_clean hclean]
  cases messages.any Message.forIoModule <;> rfl

/-- **A later poll of a broken batch** queues what came before the bad
command, and has raised the timestamp to the bad one. -/
theorem wait_broken {con : Context} (hlast : con.lastCommandTimestamp ≠ 0)
    {before : List Message} {bad : Message} (hbefore : Clean N before)
    (hio : bad.forIoModule = true) (hbad : ¬ bad.Decodable N) (after : List Message)
    (success : Bool) :
    con.waitForCommand N (fun _ => .commands (before ++ bad :: after) success)
      = ((DeviceCommand.fresh.deserializeFromBuffer N (.data bad.payload)).1, { con with
        commandVector := con.commandVector ++ received N before
        lastCommandTimestamp := (before ++ [bad]).foldl raise con.lastCommandTimestamp }) := by
  have hparse : (con.lastCommandTimestamp != 0) = true := by simp [hlast]
  simp only [Context.waitForCommand, hparse, scan_broken hbefore hio hbad]

/-- A poll that answers `OK` leaves a command in the queue. -/
theorem wait_ok_nonempty {con con' : Context} {answer : Answer}
    (h : con.waitForCommand N (fun _ => answer) = (.ok .ok, con')) : con'.commandVector ≠ [] := by
  cases answer with
  | throws =>
    rw [wait_throws] at h
    cases h
  | commands messages success =>
    by_cases hlast : con.lastCommandTimestamp = 0
    · rw [wait_first hlast] at h
      cases h
    · rcases clean_or_broken N messages with hclean | ⟨before, bad, after, rfl, hbefore, hio, hbad⟩
      · rw [wait_clean hlast hclean] at h
        obtain ⟨hcode, rfl⟩ := Prod.mk.inj h
        intro hnil
        rw [(received_eq_nil_iff messages).mp (List.append_eq_nil_iff.mp hnil).2] at hcode
        cases hcode
      · rw [wait_broken hlast hbefore hio hbad] at h
        have hrefused := refused_of_returned hbad (Prod.mk.inj h).1
        cases hrefused.2

/-! ## A clean batch -/

/-- An entry of `command_vector` that is made for a message: the command in its
payload, and the device it names. -/
structure QueuedCommand.IsFor (N : JsonText) (e : QueuedCommand) (m : Message) : Prop where
  decoded : DeviceCommand.fresh.deserializeFromBuffer N (.data m.payload) = (.ok .ok, e.command)
  moduleId : e.device.moduleId = m.moduleId
  deviceType : e.device.deviceType = m.type.toUInt32
  priority : e.device.priority = 0
  deviceRole : e.device.deviceRole = m.role
  deviceName : e.device.deviceName = m.name

/-- What is received of a clean batch is made for its commands, one by one. -/
theorem received_isFor {messages : List Message} (hclean : Clean N messages) :
    List.Forall₂ (QueuedCommand.IsFor N) (received N messages)
      (messages.filter Message.forIoModule) := by
  unfold received
  rw [List.forall₂_map_left_iff, List.forall₂_same]
  intro m hm
  obtain ⟨hmem, hio⟩ := List.mem_filter.mp hm
  obtain ⟨c, hc⟩ := hclean m hmem hio
  have hcommand : m.decoded N = c := congrArg Prod.snd hc
  rw [hcommand]
  exact ⟨hc, rfl, rfl, rfl, rfl, rfl⟩

/-- **A clean batch is polled exactly.** After the first poll, the commands of
the batch are queued in order, each with its device, the timestamp becomes the
highest of the batch and its own old value, and `OK` says that there was a
command. The first poll queues nothing and answers `TIMEOUT_OCCURRED`. -/
theorem clean_batch_polled (con : Context) {messages : List Message} (success : Bool)
    (hclean : Clean N messages) :
    (con.lastCommandTimestamp ≠ 0 → ∃ rc con',
      con.waitForCommand N (fun _ => .commands messages success) = (.ok rc, con')
      ∧ con'.commandVector = con.commandVector ++ received N messages
      ∧ List.Forall₂ (QueuedCommand.IsFor N) (received N messages)
        (messages.filter Message.forIoModule)
      ∧ con.lastCommandTimestamp ≤ con'.lastCommandTimestamp
      ∧ (∀ m ∈ messages, m.timestamp ≤ con'.lastCommandTimestamp)
      ∧ (con'.lastCommandTimestamp = con.lastCommandTimestamp
        ∨ ∃ m ∈ messages, con'.lastCommandTimestamp = m.timestamp)
      ∧ rc = if messages.any Message.forIoModule then .ok else .timeoutOccurred)
    ∧ (con.lastCommandTimestamp = 0 → ∃ con',
      con.waitForCommand N (fun _ => .commands messages success) = (.ok .timeoutOccurred, con')
      ∧ con'.commandVector = con.commandVector) := by
  constructor
  · intro hlast
    refine ⟨_, _, wait_clean hlast hclean success, rfl, received_isFor hclean, ?_, ?_,
      foldl_raise_eq messages _, rfl⟩
    · exact Int64.le_iff_toInt_le.mpr (le_foldl_raise messages _)
    · intro m hm
      exact Int64.le_iff_toInt_le.mpr (timestamp_le_foldl_raise _ hm)
  · intro hlast
    exact ⟨_, wait_first hlast messages success, rfl⟩

/-- A message for another module. -/
def Message.forOther (id : Nat) (timestamp : Int64) : Message :=
  ⟨id, timestamp, 3, 0, [], [], []⟩

/-- Two commands and, between them, the newest message, for another module. -/
def mixedBatch : List Message := [.forOpta 0 7 switchOn, .forOther 1 9, .forOpta 2 8 switchOff]

/-- A later poll that brings them. -/
theorem clean_batch_polled_mixed :
    ((6 : Int64) ≠ 0 → ∃ rc con',
      (Context.mk [] [] 6).waitForCommand .compact (fun _ => .commands mixedBatch true)
        = (.ok rc, con')
      ∧ con'.commandVector = [] ++ received .compact mixedBatch
      ∧ List.Forall₂ (QueuedCommand.IsFor .compact) (received .compact mixedBatch)
        (mixedBatch.filter Message.forIoModule)
      ∧ 6 ≤ con'.lastCommandTimestamp
      ∧ (∀ m ∈ mixedBatch, m.timestamp ≤ con'.lastCommandTimestamp)
      ∧ (con'.lastCommandTimestamp = 6 ∨ ∃ m ∈ mixedBatch, con'.lastCommandTimestamp = m.timestamp)
      ∧ rc = if mixedBatch.any Message.forIoModule then .ok else .timeoutOccurred)
    ∧ ((6 : Int64) = 0 → ∃ con',
      (Context.mk [] [] 6).waitForCommand .compact (fun _ => .commands mixedBatch true)
        = (.ok .timeoutOccurred, con')
      ∧ con'.commandVector = []) := by
  have hclean : Clean .compact mixedBatch := by decide +kernel
  exact clean_batch_polled ⟨[], [], 6⟩ true hclean

/-! ## A broken batch -/

/-- The first command of the batch that does not decode is refused, and there
is a command before it. -/
def HalfApplied (N : JsonText) (messages : List Message) : Prop :=
  ∃ before bad after, messages = before ++ bad :: after ∧ Clean N before
    ∧ before.any Message.forIoModule = true ∧ bad.forIoModule = true ∧ bad.Refused N

/-- **When a poll that does not report `OK` queues nothing**: unless it is a
later poll whose batch has a command before the one that is refused. -/
theorem notOk_queues_nothing_iff (con : Context) (messages : List Message) (success : Bool) :
    (∀ rc con', con.waitForCommand N (fun _ => .commands messages success) = (.ok rc, con') →
      rc ≠ .ok → con'.commandVector = con.commandVector)
    ↔ ¬ (con.lastCommandTimestamp ≠ 0 ∧ HalfApplied N messages) := by
  constructor
  · intro h hex
    obtain ⟨hlast, before, bad, after, rfl, hbefore, hany, hio, hrefused⟩ := hex
    have hwait := wait_broken hlast hbefore hio hrefused.not_decodable after success
    rw [hrefused] at hwait
    have hsame := h .notOk _ hwait (by decide)
    rw [(append_received_eq_iff _ before).mp hsame] at hany
    cases hany
  · intro h rc con' hwait hrc
    by_cases hlast : con.lastCommandTimestamp = 0
    · rw [wait_first hlast] at hwait
      cases hwait
      rfl
    · rcases clean_or_broken N messages with hclean | ⟨before, bad, after, rfl, hbefore, hio, hbad⟩
      · rw [wait_clean hlast hclean] at hwait
        cases hwait
        refine (append_received_eq_iff _ messages).mpr (Bool.eq_false_iff.mpr ?_)
        -- a command would have made it `OK`
        intro hany
        exact hrc (if_pos hany)
      · rw [wait_broken hlast hbefore hio hbad] at hwait
        obtain ⟨hresult, rfl⟩ := Prod.mk.inj hwait
        have hrefused := (refused_of_returned hbad hresult).1
        refine (append_received_eq_iff _ before).mpr (Bool.eq_false_iff.mpr ?_)
        intro hany
        exact h ⟨hlast, before, bad, after, rfl, hbefore, hany, hio, hrefused⟩

/-- A good command, and one behind it whose payload is no command. -/
def halfAppliedBatch : List Message := [.forOpta 0 7 switchOn, .forOpta 1 8 noCommand]

/-- **A half-applied batch.** The poll answers `NOT_OK` and has queued the
first command. -/
theorem notOk_queues_one :
    ((Context.mk [] [] 6).waitForCommand .compact (fun _ => .commands halfAppliedBatch true)).1
        = .ok .notOk
      ∧ ((Context.mk [] [] 6).waitForCommand .compact
        (fun _ => .commands halfAppliedBatch true)).2.commandVector.map QueuedCommand.source
        = [.forOpta 0 7 switchOn] := by
  constructor
  · decide +kernel
  · decide +kernel

/-! ## Behind a bad command -/

/-- The command of a message is queued. -/
def Context.Holds (N : JsonText) (con : Context) (m : Message) : Prop :=
  m.queued (m.decoded N) ∈ con.commandVector

instance (N : JsonText) (con : Context) (m : Message) : Decidable (con.Holds N m) :=
  inferInstanceAs (Decidable (_ ∈ _))

/-- A batch is received with its commands and nothing else. -/
theorem mem_received_iff {messages : List Message} {m : Message} :
    m.queued (m.decoded N) ∈ received N messages ↔ m ∈ messages ∧ m.forIoModule = true := by
  unfold received
  rw [List.mem_map, ← List.mem_filter]
  constructor
  · intro hex
    obtain ⟨x, hx, hqueued⟩ := hex
    have hsource : x = m := congrArg QueuedCommand.source hqueued
    exact hsource ▸ hx
  · intro hm
    exact ⟨m, hm, rfl⟩

/-- The timestamp stays below what is newer than all it was raised to. -/
theorem foldl_raise_lt_iff (messages : List Message) (last t : Int64) :
    messages.foldl raise last < t ↔ last < t ∧ ∀ x ∈ messages, x.timestamp < t := by
  simp only [Int64.lt_iff_toInt_lt]
  constructor
  · intro h
    refine ⟨Int.lt_of_le_of_lt (le_foldl_raise messages last) h, fun x hx => ?_⟩
    exact Int.lt_of_le_of_lt (timestamp_le_foldl_raise last hx) h
  · intro hex
    obtain ⟨hlast, hall⟩ := hex
    rcases foldl_raise_eq messages last with heq | ⟨m, hm, heq⟩
    · rw [heq]
      exact hlast
    · rw [heq]
      exact hall m hm

/-- Behind a first command that is refused, every good command is queued
already, or it also came before, or it is newer than all that did. -/
def RestIsNewer (N : JsonText) (con : Context) (messages : List Message) : Prop :=
  ∀ before bad after, messages = before ++ bad :: after → Clean N before →
    bad.forIoModule = true → bad.Refused N →
    ∀ m ∈ after, m.forIoModule = true → m.Decodable N →
      con.Holds N m ∨ m ∈ before ∨ ∀ x ∈ before ++ [bad], x.timestamp < m.timestamp

/-- What a later poll of a broken batch leaves of a good command: it is queued,
or out of the reach of the timestamp. -/
theorem holds_or_newer_iff {con con' : Context} {before : List Message} {bad m : Message}
    (hvector : con'.commandVector = con.commandVector ++ received N before)
    (htime : con'.lastCommandTimestamp = (before ++ [bad]).foldl raise con.lastCommandTimestamp)
    (hio : m.forIoModule = true) (hnewer : con.lastCommandTimestamp < m.timestamp) :
    (con'.Holds N m ∨ con'.lastCommandTimestamp < m.timestamp)
      ↔ con.Holds N m ∨ m ∈ before ∨ ∀ x ∈ before ++ [bad], x.timestamp < m.timestamp := by
  unfold Context.Holds
  rw [hvector, List.mem_append, mem_received_iff, htime, foldl_raise_lt_iff, or_assoc]
  simp only [hio, hnewer, and_true, true_and]

/-- **When a bad command does not cost the others**: after a later poll whose
messages are above the timestamp, every good command of the batch is queued or
still above the timestamp exactly if the rest of the batch is newer than the
bad command and all before it. -/
theorem others_not_lost_iff (con : Context) (messages : List Message) (success : Bool)
    (hlast : con.lastCommandTimestamp ≠ 0)
    (hnewer : ∀ m ∈ messages, con.lastCommandTimestamp < m.timestamp) :
    (∀ rc con', con.waitForCommand N (fun _ => .commands messages success) = (.ok rc, con') →
      ∀ m ∈ messages, m.forIoModule = true → m.Decodable N →
        con'.Holds N m ∨ con'.lastCommandTimestamp < m.timestamp)
    ↔ RestIsNewer N con messages := by
  constructor
  · intro h before bad after hsplit hbefore hio hrefused m hm hmio hdecodes
    subst hsplit
    have hwait := wait_broken hlast hbefore hio hrefused.not_decodable after success
    rw [hrefused] at hwait
    have hmem : m ∈ before ++ bad :: after :=
      List.mem_append_right _ (List.mem_cons_of_mem _ hm)
    exact (holds_or_newer_iff rfl rfl hmio (hnewer m hmem)).mp
      (h .notOk _ hwait m hmem hmio hdecodes)
  · intro hrest rc con' hwait m hm hmio hdecodes
    rcases clean_or_broken N messages with hclean | ⟨before, bad, after, rfl, hbefore, hio, hbad⟩
    · rw [wait_clean hlast hclean] at hwait
      obtain ⟨-, rfl⟩ := Prod.mk.inj hwait
      exact Or.inl (List.mem_append_right _ (mem_received_iff.mpr ⟨hm, hmio⟩))
    · rw [wait_broken hlast hbefore hio hbad] at hwait
      obtain ⟨hresult, rfl⟩ := Prod.mk.inj hwait
      have hrefused := (refused_of_returned hbad hresult).1
      refine (holds_or_newer_iff rfl rfl hmio (hnewer m hm)).mpr ?_
      rcases List.mem_append.mp hm with hbefore' | hm
      · exact Or.inr (Or.inl hbefore')
      · rcases List.mem_cons.mp hm with rfl | hafter
        · exact absurd hdecodes hbad
        · exact hrest before bad after rfl hbefore hio hrefused m hafter hmio hdecodes

/-- A command that is refused, its payload being none, and an older good one
behind it. -/
def staleBatch : List Message := [.forOpta 0 20 noCommand, .forOpta 1 10 switchOn]

/-- A later poll that brings them. -/
theorem others_not_lost_iff_stale :
    (∀ rc con', (Context.mk [] [] 6).waitForCommand .compact (fun _ => .commands staleBatch true)
        = (.ok rc, con') →
      ∀ m ∈ staleBatch, m.forIoModule = true → m.Decodable .compact →
        con'.Holds .compact m ∨ con'.lastCommandTimestamp < m.timestamp)
    ↔ RestIsNewer .compact ⟨[], [], 6⟩ staleBatch :=
  others_not_lost_iff ⟨[], [], 6⟩ staleBatch true (by decide) (by decide)

/-- **A lost command.** The poll answers `NOT_OK`. The good command is not
queued, and the timestamp has been raised past it. -/
theorem other_lost :
    ((Context.mk [] [] 6).waitForCommand .compact (fun _ => .commands staleBatch true)).1
        = .ok .notOk
      ∧ Message.Decodable .compact (.forOpta 1 10 switchOn)
      ∧ ((Context.mk [] [] 6).waitForCommand .compact
        (fun _ => .commands staleBatch true)).2.commandVector = []
      ∧ ((Context.mk [] [] 6).waitForCommand .compact
        (fun _ => .commands staleBatch true)).2.lastCommandTimestamp = 20 := by
  refine ⟨?_, ?_, ?_, ?_⟩
  · decide +kernel
  · decide +kernel
  · decide +kernel
  · decide +kernel

end IoModule

import IoModule.Tally
import IoModule.Devices.ErrorAggregation

/-!
# Which presses an error message loses

`ErrorAggregation` follows the calls that answer `OK`. A gateway goes on after
one that does not: it keeps the error message it has (`keepError`), and calls
`aggregate_error` again with the next status. The calls may come with any text
as a status, and `allocate` may fail in any of them.

Seen so, the aggregator is a tally of the presses that is full once its sum
reads negative as an `int`. In every run the statuses that are valid, with
memory for the answer, split into a first part that is counted and a second
part that is lost, the second part starting where the presses of the first one
arrive at `2^31` modulo `2^32` (`errors_tallied`). Nothing else ever counts, and
a tally that is full never recovers.
-/

namespace IoModule

variable (N : JsonText)

/-- One call of `aggregate_error` with the error message so far: the message
after it, which is the old one unless the call answers `OK`. The first
component of a call says whether its `allocate` succeeds. -/
def keepError (deviceType : UInt32) (message : Buffer) (call : Bool × Buffer) : Buffer :=
  match aggregateError N call.1 message call.2 deviceType with
  | .ok (some b) => .data b
  | _ => message

/-- A call that can count: memory for the answer, and a valid status. -/
def countable (deviceType : UInt32) (call : Bool × Buffer) : Bool :=
  call.1 && statusDataValid N call.2 deviceType = .ok .ok

/-- A count that reads negative as an `int`. -/
def ErrorFull (count : Nat) : Prop := 2 ^ 31 ≤ count % 2 ^ 32

instance : DecidablePred ErrorFull := fun _ => inferInstanceAs (Decidable (_ ≤ _))

/-- The error message that shows a tally: none before the first count. -/
def tallyMessage : Option Nat → Buffer
  | none => .null
  | some count => .data (countMessage N count)

variable {N}

/-! ## One call -/

namespace Device

variable {I O : Nat} {granted : Bool} {m b : Buffer} {message : Bytes}

/-- A status that reads with anything but `NOT_OK` decodes. -/
theorem exists_decodeStatus {rc : ReturnCode} {s : DeviceStatus I O}
    (h : readStatus N I O b = .ok (rc, s)) (hrc : rc ≠ .notOk) :
    ∃ s, decodeStatus N I O b = some s := by
  rcases readStatus_cases h with ⟨-, hdecoded⟩ | ⟨hnot, -⟩
  · exact ⟨s, hdecoded⟩
  · exact absurd hnot hrc

theorem granted_of_serializeError {presses : Int32}
    (h : serializeError N granted presses = .ok (some message)) : granted = true := by
  rw [serializeError_eq] at h
  cases granted with
  | false => cases h
  | true => rfl

/-- A call that answers `OK` was granted its memory, and its status decodes. -/
theorem aggregateError_some (h : aggregateError N I O granted m b = .ok (some message)) :
    granted = true ∧ ∃ s, decodeStatus N I O b = some s := by
  cases m with
  | null =>
    obtain ⟨⟨rc, s⟩, hread, h⟩ := bind_ok_iff.mp h
    dsimp only at h
    split at h
    next => cases h
    next hrc => exact ⟨granted_of_serializeError h, exists_decodeStatus hread hrc⟩
  | data current =>
    obtain ⟨count, -, h⟩ := bind_ok_iff.mp h
    obtain ⟨⟨rc, s⟩, hread, h⟩ := bind_ok_iff.mp h
    dsimp only at h
    split at h
    next => cases h
    next hrc =>
      exact ⟨granted_of_serializeError h, exists_decodeStatus hread fun hnot => hrc (Or.inr hnot)⟩

end Device

section Calls

variable {deviceType : UInt32} {call : Bool × Buffer}

/-- A call that cannot count leaves the message as it is. -/
theorem keepError_other (ht : CountsPresses deviceType) (h : countable N deviceType call = false)
    (message : Buffer) : keepError N deviceType message call = message := by
  obtain ⟨granted, status⟩ := call
  obtain ⟨I, O, changed, hacts, herr⟩ := ht.actsAs (N := N)
  unfold keepError
  split
  next b hcall =>
    rw [herr] at hcall
    obtain ⟨rfl, hdecodes⟩ := Device.aggregateError_some hcall
    have hvalid : statusDataValid N status deviceType = .ok .ok := (hacts.valid_iff _).mpr hdecodes
    simp [countable, hvalid] at h
  next => rfl

/-- A call that can count is a step of the tally. -/
theorem keepError_countable (hN : N.Lossless) (ht : CountsPresses deviceType)
    (h : countable N deviceType call = true) (tally : Option Nat) :
    keepError N deviceType (tallyMessage N tally) call
      = tallyMessage N (Tally.add ErrorFull tally (decodedPresses N deviceType call.2)) := by
  obtain ⟨granted, status⟩ := call
  obtain ⟨rfl, hvalid⟩ : granted = true ∧ statusDataValid N status deviceType = .ok .ok := by
    simpa [countable] using h
  cases tally with
  | none =>
    unfold keepError tallyMessage
    rw [aggregateError_first ht hvalid]
    rfl
  | some count =>
    unfold keepError tallyMessage
    rw [aggregateError_next hN ht hvalid count]
    by_cases hroom : count % 2 ^ 32 < 2 ^ 31
    · have hnot : ¬ ErrorFull count := Nat.not_le.mpr hroom
      rw [if_pos hroom]
      simp only [Tally.add, if_neg hnot]
    · have hfull : ErrorFull count := Nat.not_lt.mp hroom
      rw [if_neg hroom]
      simp only [Tally.add, if_pos hfull]

end Calls

/-! ## A run -/

/-- What a count reads as, once it is in a message. -/
theorem deserializeError_countMessage_eq (hN : N.Lossless) (count : Nat) :
    ∃ n, deserializeError N (countMessage N count) = .ok n
      ∧ n.toInt = (count : Int).bmod (2 ^ 32) := by
  refine ⟨_, deserializeError_dump N hN _, ?_⟩
  rw [toInt_toInt32, UInt32.toNat_ofNat', Int.bmod_def]
  split <;> split <;> omega

/-- **Presses are counted until the count is full, and lost from then on.** In
every run of a device that counts presses, from no error message, over calls
with any texts as statuses and any failures of `allocate`: the valid statuses
that were granted memory are a first part that is counted and a second part
that is lost. There is a message exactly if something was counted. It reads as
the presses of the first part, modulo `2^32` and with a sign. Nothing is lost
unless this number is negative, and it was not negative before the last status
that was counted. -/
theorem errors_tallied (hN : N.Lossless) {deviceType : UInt32} (ht : CountsPresses deviceType)
    (calls : List (Bool × Buffer)) :
    ∃ counted lost : List Buffer,
      (calls.filter (countable N deviceType)).map Prod.snd = counted ++ lost
      ∧ (counted = [] → lost = [] ∧ calls.foldl (keepError N deviceType) .null = .null)
      ∧ (counted ≠ [] → ∃ message n,
        calls.foldl (keepError N deviceType) .null = .data message
        ∧ deserializeError N message = .ok n
        ∧ n.toInt = (totalPresses N deviceType counted : Int).bmod (2 ^ 32)
        ∧ (lost ≠ [] → n < 0))
      ∧ ∀ front, front ≠ [] → front <+: counted → front ≠ counted →
        totalPresses N deviceType front % 2 ^ 32 < 2 ^ 31 := by
  have hrun : calls.foldl (keepError N deviceType) (tallyMessage N none)
      = tallyMessage N (((calls.filter (countable N deviceType)).map fun i =>
        decodedPresses N deviceType i.2).foldl (Tally.add ErrorFull) none) :=
    Tally.run_simulates (fun t _ h => keepError_countable hN ht h t)
      (fun t _ h => keepError_other ht h (tallyMessage N t)) calls none
  obtain ⟨sums, lostSums, hsplit, htally⟩ := Tally.run_split ErrorFull
    ((calls.filter (countable N deviceType)).map fun i => decodedPresses N deviceType i.2)
  rw [htally] at hrun
  -- the presses split like the statuses they come from
  have hsums := hsplit.append_eq
  rw [show (fun i : Bool × Buffer => decodedPresses N deviceType i.2)
    = decodedPresses N deviceType ∘ Prod.snd from rfl, ← List.map_map] at hsums
  obtain ⟨counted, lost, hstatuses, rfl, rfl⟩ := List.map_eq_append_iff.mp hsums
  refine ⟨counted, lost, hstatuses, fun hnone => ?_, fun hsome => ?_,
    fun front hne hfront hother => ?_⟩
  · subst hnone
    refine ⟨?_, hrun⟩
    by_contra hlost
    exact (hsplit.full_of_lost (mt List.map_eq_nil_iff.mp hlost)).1 rfl
  · obtain ⟨n, hn, hcount⟩ :=
      deserializeError_countMessage_eq hN (totalPresses N deviceType counted)
    refine ⟨_, n, ?_, hn, hcount, fun hlost => ?_⟩
    · rw [Tally.sum?_of_ne_nil (mt List.map_eq_nil_iff.mp hsome)] at hrun
      exact hrun
    · have hfull : 2 ^ 31 ≤ totalPresses N deviceType counted % 2 ^ 32 :=
        (hsplit.full_of_lost (mt List.map_eq_nil_iff.mp hlost)).2
      rw [Int32.lt_iff_toInt_lt, hcount, Int32.toInt_zero, Int.bmod_def]
      split <;> omega
  · have hlength : front.length ≠ counted.length := fun heq => hother (hfront.eq_of_length heq)
    refine Nat.not_le.mp (hsplit.room (front.map _) (mt List.map_eq_nil_iff.mp hne)
      (hfront.map _) fun heq => hlength ?_)
    simpa using congrArg List.length heq

/-- An Opta whose first status fills the count: the text that is no status and
the call without memory change nothing, and the last press is lost. -/
theorem errors_tallied_opta :
    ∃ counted lost : List Buffer,
      ([(true, .data []), (true, Device.restingStatus .compact 6 4 2147483648),
          (false, Device.restingStatus .compact 6 4 5),
          (true, Device.restingStatus .compact 6 4 1)].filter (countable .compact 1)).map Prod.snd
        = counted ++ lost
      ∧ (counted = [] → lost = []
        ∧ [(true, .data []), (true, Device.restingStatus .compact 6 4 2147483648),
          (false, Device.restingStatus .compact 6 4 5),
          (true, Device.restingStatus .compact 6 4 1)].foldl (keepError .compact 1) .null = .null)
      ∧ (counted ≠ [] → ∃ message n,
        [(true, .data []), (true, Device.restingStatus .compact 6 4 2147483648),
          (false, Device.restingStatus .compact 6 4 5),
          (true, Device.restingStatus .compact 6 4 1)].foldl (keepError .compact 1) .null
          = .data message
        ∧ deserializeError .compact message = .ok n
        ∧ n.toInt = (totalPresses .compact 1 counted : Int).bmod (2 ^ 32)
        ∧ (lost ≠ [] → n < 0))
      ∧ ∀ front, front ≠ [] → front <+: counted → front ≠ counted →
        totalPresses .compact 1 front % 2 ^ 32 < 2 ^ 31 :=
  errors_tallied JsonText.compact_lossless (Or.inl rfl) _

end IoModule

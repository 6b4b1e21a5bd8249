import IoModule.Devices.ModuleManager

/-!
# Error aggregation counts presses

Opta, Mega and Uno aggregate their errors into one number: the presses of
all statuses so far, fed back through a JSON text at every call
(`foldErrors`). The presses are `uint32_t`, the number is handed to
`serialize_error` as an `int`, and on the way back a negative number means
"unreadable".

The message a run arrives at is `countMessage` of the presses it has seen
(`foldErrors_count`): nothing but that number, taken modulo `2^32` and with a
sign, is kept. One call either adds to it or, once the number reads negative,
rejects its own message (`aggregateError_next`).

- `aggregateError_counts`: as long as the presses stay below `2^31` every
  call answers `OK` and the count is exact, in whatever order the statuses
  come.
- `aggregateError_continues_iff`: after any run, the next call answers `OK`
  exactly when the presses so far are below `2^31` modulo `2^32`.
  `aggregateError_stuck` is a run of one status that ends aggregation for
  good.
-/

namespace IoModule

variable (N : JsonText)

/-- The device types that count presses in their errors. -/
def CountsPresses (deviceType : UInt32) : Prop :=
  deviceType = arduinoOptaDeviceType ∨ deviceType = arduinoMegaDeviceType
    ∨ deviceType = arduinoUnoDeviceType

/-- One call of `aggregate_error`, its message kept for the next call. No
message when the call does not answer `OK`. -/
def feedBack (deviceType : UInt32) (currentErrorMessage status : Buffer) : Option Buffer :=
  match aggregateError N true currentErrorMessage status deviceType with
  | .ok (some b) => some (.data b)
  | _ => none

/-- `aggregate_error` over a sequence of statuses, from no message. -/
def foldErrors (deviceType : UInt32) (statuses : List Buffer) : Option Buffer :=
  statuses.foldlM (feedBack N deviceType) .null

/-- The message that stores a count: the count as `uint32_t`, read as `int`. -/
def countMessage (count : Nat) : Bytes :=
  N.dump (errorDocument (UInt32.ofNat count).toInt32)

variable {N}

/-- A counting device type is its sizes, its comparison and the counting
handler. -/
theorem CountsPresses.actsAs {deviceType : UInt32} (h : CountsPresses deviceType) :
    ∃ (I O : Nat) (changed : DeviceStatus I O → DeviceStatus I O → Bool),
      ActsAs N deviceType changed ∧ ∀ granted m b,
        aggregateError N granted m b deviceType = Device.aggregateError N I O granted m b := by
  rcases h with rfl | rfl | rfl
  · exact ⟨_, _, _, arduinoOpta_actsAs N, fun _ _ _ => rfl⟩
  · exact ⟨_, _, _, arduinoMega_actsAs N, fun _ _ _ => rfl⟩
  · exact ⟨_, _, _, arduinoUno_actsAs N, fun _ _ _ => rfl⟩

/-- A supported device counts presses, or it is a Button. -/
theorem countsPresses_or_button {deviceType : UInt32} (h : isDeviceTypeSupported deviceType = .ok) :
    CountsPresses deviceType ∨ deviceType = buttonDeviceType := by
  rcases supported_cases h with rfl | rfl | rfl | rfl
  · exact Or.inl (Or.inl rfl)
  · exact Or.inl (Or.inr (Or.inl rfl))
  · exact Or.inl (Or.inr (Or.inr rfl))
  · exact Or.inr rfl

/-- The presses of a status that decodes. -/
theorem ActsAs.decodedPresses_eq {deviceType : UInt32} {I O : Nat}
    {changed : DeviceStatus I O → DeviceStatus I O → Bool} (h : ActsAs N deviceType changed)
    {b : Buffer} {s : DeviceStatus I O} (hs : Device.decodeStatus N I O b = some s) :
    decodedPresses N deviceType b = s.buttonPresses.toNat := by
  unfold decodedPresses
  rw [h.decoded_eq, hs]
  rfl

/-! ## One call -/

section Calls

variable {deviceType : UInt32} {b : Buffer}

/-- The first call stores the presses of the status. -/
theorem aggregateError_first (ht : CountsPresses deviceType)
    (hb : statusDataValid N b deviceType = .ok .ok) :
    aggregateError N true .null b deviceType
      = .ok (some (countMessage N (decodedPresses N deviceType b))) := by
  obtain ⟨I, O, changed, hacts, herr⟩ := ht.actsAs (N := N)
  obtain ⟨s, hs⟩ := (hacts.valid_iff b).mp hb
  rw [herr, Device.aggregateError_null hs, hacts.decodedPresses_eq hs]
  unfold countMessage
  rw [UInt32.ofNat_toNat]
  rfl

/-- A later call adds the presses of the status to the count, unless the
count reads negative. -/
theorem aggregateError_next (hN : N.Lossless) (ht : CountsPresses deviceType)
    (hb : statusDataValid N b deviceType = .ok .ok) (count : Nat) :
    aggregateError N true (.data (countMessage N count)) b deviceType
      = .ok (if count % 2 ^ 32 < 2 ^ 31
          then some (countMessage N (count + decodedPresses N deviceType b)) else none) := by
  obtain ⟨I, O, changed, hacts, herr⟩ := ht.actsAs (N := N)
  obtain ⟨s, hs⟩ := (hacts.valid_iff b).mp hb
  -- back and forth between `int` and `uint32_t` nothing is lost modulo `2^32`
  have hsum : (UInt32.ofNat count).toInt32.toUInt32 + s.buttonPresses
      = UInt32.ofNat (count + s.buttonPresses.toNat) := by
    rw [UInt32.toUInt32_toInt32, UInt32.ofNat_add, UInt32.ofNat_toNat]
  have hneg : ¬ (UInt32.ofNat count).toInt32 < 0 ↔ count % 2 ^ 32 < 2 ^ 31 := by
    rw [toInt32_nonneg_iff, UInt32.toNat_ofNat']
  rw [herr, countMessage, Device.aggregateError_data hN hs, hsum, hacts.decodedPresses_eq hs]
  by_cases hlt : count % 2 ^ 32 < 2 ^ 31
  · rw [if_pos hlt, if_neg (hneg.mpr hlt)]
    rfl
  · rw [if_neg hlt, if_pos (not_not.mp (mt hneg.mp hlt))]

end Calls

/-! ## A run -/

section Runs

variable {deviceType : UInt32}

theorem feedBack_first (ht : CountsPresses deviceType) {b : Buffer}
    (hb : statusDataValid N b deviceType = .ok .ok) :
    feedBack N deviceType .null b
      = some (.data (countMessage N (decodedPresses N deviceType b))) := by
  unfold feedBack
  rw [aggregateError_first ht hb]

theorem feedBack_next (hN : N.Lossless) (ht : CountsPresses deviceType) {b : Buffer}
    (hb : statusDataValid N b deviceType = .ok .ok) (count : Nat) :
    feedBack N deviceType (.data (countMessage N count)) b
      = if count % 2 ^ 32 < 2 ^ 31
        then some (.data (countMessage N (count + decodedPresses N deviceType b))) else none := by
  unfold feedBack
  rw [aggregateError_next hN ht hb]
  by_cases hlt : count % 2 ^ 32 < 2 ^ 31
  · rw [if_pos hlt, if_pos hlt]
  · rw [if_neg hlt, if_neg hlt]

/-- From a stored count, a run that goes through arrives at the count plus
the presses it has seen. -/
theorem foldlM_feedBack (hN : N.Lossless) (ht : CountsPresses deviceType) :
    ∀ {statuses : List Buffer} (count : Nat) {message : Buffer},
      (∀ b ∈ statuses, statusDataValid N b deviceType = .ok .ok) →
      statuses.foldlM (feedBack N deviceType) (.data (countMessage N count)) = some message →
      message = .data (countMessage N (count + totalPresses N deviceType statuses))
  | [], count, message, _, h => (Option.some.inj h).symm
  | b :: bs, count, message, hvalid, h => by
    rw [List.foldlM_cons, feedBack_next hN ht (hvalid b (List.mem_cons_self ..))] at h
    by_cases hlt : count % 2 ^ 32 < 2 ^ 31
    · rw [if_pos hlt] at h
      have hrest := foldlM_feedBack hN ht _
        (fun c hc => hvalid c (List.mem_cons_of_mem _ hc)) h
      rw [hrest, totalPresses_cons, Nat.add_assoc]
    · -- a rejected message ends the run
      rw [if_neg hlt] at h
      cases h

/-- From a stored count, a run goes through as long as the sum fits. -/
theorem foldlM_feedBack_of_lt (hN : N.Lossless) (ht : CountsPresses deviceType) :
    ∀ {statuses : List Buffer} (count : Nat),
      (∀ b ∈ statuses, statusDataValid N b deviceType = .ok .ok) →
      count + totalPresses N deviceType statuses < 2 ^ 31 →
      statuses.foldlM (feedBack N deviceType) (.data (countMessage N count))
        = some (.data (countMessage N (count + totalPresses N deviceType statuses)))
  | [], _, _, _ => rfl
  | b :: bs, count, hvalid, hsum => by
    rw [totalPresses_cons, ← Nat.add_assoc] at hsum
    rw [List.foldlM_cons, feedBack_next hN ht (hvalid b (List.mem_cons_self ..)),
      if_pos (by omega), totalPresses_cons, ← Nat.add_assoc]
    exact foldlM_feedBack_of_lt hN ht _ (fun c hc => hvalid c (List.mem_cons_of_mem _ hc)) hsum

/-- The message a run arrives at is the count of its presses. -/
theorem foldErrors_count (hN : N.Lossless) (ht : CountsPresses deviceType)
    {statuses : List Buffer} (hvalid : ∀ b ∈ statuses, statusDataValid N b deviceType = .ok .ok)
    {message : Bytes} (hrun : foldErrors N deviceType statuses = some (.data message)) :
    message = countMessage N (totalPresses N deviceType statuses) := by
  unfold foldErrors at hrun
  cases statuses with
  | nil => cases hrun
  | cons b bs =>
    rw [List.foldlM_cons, feedBack_first ht (hvalid b (List.mem_cons_self ..))] at hrun
    have hmessage := foldlM_feedBack hN ht _
      (fun c hc => hvalid c (List.mem_cons_of_mem _ hc)) hrun
    exact Buffer.data.inj hmessage

/-- A non-empty run whose presses fit goes through. -/
theorem foldErrors_of_lt (hN : N.Lossless) (ht : CountsPresses deviceType)
    {statuses : List Buffer} (hne : statuses ≠ [])
    (hvalid : ∀ b ∈ statuses, statusDataValid N b deviceType = .ok .ok)
    (hsum : totalPresses N deviceType statuses < 2 ^ 31) :
    foldErrors N deviceType statuses
      = some (.data (countMessage N (totalPresses N deviceType statuses))) := by
  unfold foldErrors
  cases statuses with
  | nil => exact absurd rfl hne
  | cons b bs =>
    rw [List.foldlM_cons, feedBack_first ht (hvalid b (List.mem_cons_self ..))]
    exact foldlM_feedBack_of_lt hN ht _ (fun c hc => hvalid c (List.mem_cons_of_mem _ hc)) hsum

/-- A count below `2^31` is stored exactly. -/
theorem deserializeError_countMessage (hN : N.Lossless) {count : Nat} (h : count < 2 ^ 31) :
    ∃ n, deserializeError N (countMessage N count) = .ok n ∧ n.toInt = count := by
  have hcount : (UInt32.ofNat count).toNat = count :=
    UInt32.toNat_ofNat_of_lt' (Nat.lt_trans h (by decide))
  refine ⟨_, deserializeError_dump N hN _, ?_⟩
  rw [toInt_toInt32, hcount, if_pos h]

/-- The presses do not depend on the order of the statuses. -/
theorem totalPresses_perm {ss ss' : List Buffer} (h : ss.Perm ss') :
    totalPresses N deviceType ss = totalPresses N deviceType ss' :=
  (h.map _).sum_nat

/-- **Errors count presses exactly.** On a non-empty sequence of valid
statuses whose presses sum to at most `2^31 - 1`, every call answers `OK`,
the last message decodes to the sum, and any other order of the statuses
gives the same message. -/
theorem aggregateError_counts (hN : N.Lossless) (ht : CountsPresses deviceType)
    (statuses : List Buffer) (hne : statuses ≠ [])
    (hvalid : ∀ b ∈ statuses, statusDataValid N b deviceType = .ok .ok)
    (hsum : totalPresses N deviceType statuses ≤ 2 ^ 31 - 1) :
    ∃ message n, foldErrors N deviceType statuses = some (.data message)
      ∧ deserializeError N message = .ok n
      ∧ n.toInt = totalPresses N deviceType statuses
      ∧ ∀ statuses' : List Buffer, statuses'.Perm statuses →
        foldErrors N deviceType statuses' = some (.data message) := by
  have hlt : totalPresses N deviceType statuses < 2 ^ 31 := by omega
  obtain ⟨n, hn, hcount⟩ := deserializeError_countMessage hN hlt
  refine ⟨_, n, foldErrors_of_lt hN ht hne hvalid hlt, hn, hcount, fun statuses' hperm => ?_⟩
  have htotal : totalPresses N deviceType statuses' = totalPresses N deviceType statuses :=
    totalPresses_perm hperm
  have hne' : statuses' ≠ [] := fun h => hne (List.nil_perm.mp (h ▸ hperm))
  rw [foldErrors_of_lt hN ht hne' (fun b hb => hvalid b (hperm.mem_iff.mp hb)) (htotal ▸ hlt),
    htotal]

/-- An Uno pressed three times, then not at all, then four times. -/
theorem aggregateError_counts_uno :
    ∃ message n, foldErrors .compact 3 [Device.restingStatus .compact 6 7 3,
          Device.restingStatus .compact 6 7 0, Device.restingStatus .compact 6 7 4]
        = some (.data message)
      ∧ deserializeError .compact message = .ok n
      ∧ n.toInt = totalPresses .compact 3 [Device.restingStatus .compact 6 7 3,
          Device.restingStatus .compact 6 7 0, Device.restingStatus .compact 6 7 4]
      ∧ ∀ statuses' : List Buffer, statuses'.Perm [Device.restingStatus .compact 6 7 3,
          Device.restingStatus .compact 6 7 0, Device.restingStatus .compact 6 7 4] →
        foldErrors .compact 3 statuses' = some (.data message) :=
  aggregateError_counts JsonText.compact_lossless (Or.inr (Or.inr rfl)) _ (by decide)
    (fun b hb => by
      have hvalid := (arduinoUno_actsAs .compact).valid_restingStatus JsonText.compact_lossless
      simp only [List.mem_cons, List.not_mem_nil, or_false] at hb
      rcases hb with rfl | rfl | rfl
      · exact hvalid 3
      · exact hvalid 0
      · exact hvalid 4)
    (by decide +kernel)

/-- **When the next error is aggregated.** After any run over valid statuses,
the next call answers `OK` exactly when the presses counted so far are below
`2^31` modulo `2^32`. -/
theorem aggregateError_continues_iff (hN : N.Lossless) (ht : CountsPresses deviceType)
    (statuses : List Buffer) (hvalid : ∀ b ∈ statuses, statusDataValid N b deviceType = .ok .ok)
    (message : Bytes) (hrun : foldErrors N deviceType statuses = some (.data message))
    (status : Buffer) (hstatus : statusDataValid N status deviceType = .ok .ok) :
    (∃ b, aggregateError N true (.data message) status deviceType = .ok (some b))
      ↔ totalPresses N deviceType statuses % 2 ^ 32 < 2 ^ 31 := by
  rw [foldErrors_count hN ht hvalid hrun, aggregateError_next hN ht hstatus]
  by_cases hlt : totalPresses N deviceType statuses % 2 ^ 32 < 2 ^ 31
  · rw [if_pos hlt]
    exact iff_of_true ⟨_, rfl⟩ hlt
  · rw [if_neg hlt]
    exact iff_of_false (fun ⟨_, h⟩ => nomatch h) hlt

/-- An Opta after one press less than the count can hold, and one press
more. -/
theorem aggregateError_continues_iff_opta :
    (∃ b, aggregateError .compact true
        (.data (Json.ascii "\x7b\"aggregatedButtonPresses\":2147483647\x7d"))
        (Device.restingStatus .compact 6 4 1) 1 = .ok (some b))
      ↔ totalPresses .compact 1 [Device.restingStatus .compact 6 4 2147483647] % 2 ^ 32
        < 2 ^ 31 := by
  have hvalid := (arduinoOpta_actsAs .compact).valid_restingStatus JsonText.compact_lossless
  have hrun : foldErrors .compact 1 [Device.restingStatus .compact 6 4 2147483647]
      = some (.data (Json.ascii "\x7b\"aggregatedButtonPresses\":2147483647\x7d")) := by
    decide +kernel
  have hone : statusDataValid .compact (Device.restingStatus .compact 6 4 1) 1 = .ok .ok := hvalid 1
  have hfull : ∀ b ∈ [Device.restingStatus .compact 6 4 2147483647],
      statusDataValid .compact b 1 = .ok .ok := by
    intro b hb
    rw [List.mem_singleton.mp hb]
    exact hvalid 2147483647
  have hopta : CountsPresses 1 := Or.inl rfl
  exact aggregateError_continues_iff JsonText.compact_lossless hopta _ hfull _ hrun _ hone

/-- One valid status with `2^31` presses, and the message it leaves is
rejected from then on. -/
theorem aggregateError_stuck :
    statusDataValid .compact (Device.restingStatus .compact 6 4 2147483648) 1 = .ok .ok
      ∧ statusDataValid .compact (Device.restingStatus .compact 6 4 0) 1 = .ok .ok
      ∧ foldErrors .compact 1 [Device.restingStatus .compact 6 4 2147483648]
        = some (.data (Json.ascii "\x7b\"aggregatedButtonPresses\":-2147483648\x7d"))
      ∧ aggregateError .compact true
          (.data (Json.ascii "\x7b\"aggregatedButtonPresses\":-2147483648\x7d"))
          (Device.restingStatus .compact 6 4 0) 1 = .ok none :=
  ⟨by decide +kernel, by decide +kernel, by decide +kernel, by decide +kernel⟩

end Runs

end IoModule

import IoModule.Utils.StatusColumns

/-!
# A status is decoded by number

The entries of a status document carry their numbers with them, so it does
not matter in which order a device lists them: as long as the first entries of
the two columns are numbered in full (`InAnyOrder`), decoding sets each input
and each output to what the entry of its number says, and the presses to the
number in the document (`SaysByNumber`).

That determines the whole object, so nothing of what it held before is left,
and a reordering decodes to the same status (`deserialize_by_number`).
-/

namespace IoModule

/-- The number of presses in a status document. -/
def Json.pressesNumber (doc : Json) : Option Rat :=
  match doc.atIndex buttonPressesIndex with
  | .ok e => e.memberNumber "butPr"
  | .error _ => none

namespace DeviceStatus

variable {I O : Nat}

/-- The entries the input loop reads. -/
def inputEntries (I : Nat) (doc : Json) : List Json := (doc.column inputStatesIndex).take I

/-- The entries the output loop reads. -/
def outputEntries (O : Nat) (doc : Json) : List Json := (doc.column outputStatesIndex).take O

/-- A well-typed document whose first `I` inputs and first `O` outputs carry
the numbers of the device, in any order. Whatever comes behind them is not
looked at. -/
structure InAnyOrder (I O : Nat) (doc : Json) : Prop where
  inputNumbers : NumberedInFull "inNum" I (inputEntries I doc)
  inputStates : ∀ e ∈ inputEntries I doc, ∃ st, e.atKey "inSt" = .ok (.boolean st)
  outputNumbers : NumberedInFull "outNum" O (outputEntries O doc)
  outputErrors : ∀ e ∈ outputEntries O doc, ∃ err, e.atKey "outErr" = .ok (.boolean err)
  outputStates : ∀ e ∈ outputEntries O doc, ∃ st, e.atKey "outSt" = .ok (.boolean st)
  presses : ∃ p : Int, doc.pressesNumber = some (p : Rat)

/-- The status says of every input and output what the entry of its number
says, and has the presses of the document. -/
structure SaysByNumber (doc : Json) (s : DeviceStatus I O) : Prop where
  inputs : ∀ e ∈ inputEntries I doc, ∀ (k : Nat) (hk : k < I),
    e.memberNumber "inNum" = some ((k + 1 : Nat) : Rat) →
      e.atKey "inSt" = .ok (.boolean s.inputStates[k])
  outputs : ∀ e ∈ outputEntries O doc, ∀ (k : Nat) (hk : k < O),
    e.memberNumber "outNum" = some ((k + 1 : Nat) : Rat) →
      e.atKey "outErr" = .ok (.boolean s.outputStates[k].outputError)
        ∧ e.atKey "outSt" = .ok (.boolean s.outputStates[k].outputState)
  presses : ∀ p : Int, doc.pressesNumber = some (p : Rat) →
    (s.buttonPresses.toNat : Int) = p % 2 ^ 32

/-- The entries of the device in another order, and the same presses. -/
structure Reordered (I O : Nat) (doc doc' : Json) : Prop where
  inputs : (inputEntries I doc').Perm (inputEntries I doc)
  outputs : (outputEntries O doc').Perm (outputEntries O doc)
  presses : doc'.pressesNumber = doc.pressesNumber

/-! ## What an entry says -/

theorem getBool_ok_iff {v : Json} {b : Bool} : v.getBool = .ok b ↔ v = .boolean b := by
  cases v <;> simp [Json.getBool]

theorem inputState_ok_iff {e : Json} {st : Bool} :
    inputState e = .ok st ↔ e.atKey "inSt" = .ok (.boolean st) := by
  unfold inputState
  simp only [bind_ok_iff, getBool_ok_iff, exists_eq_right]

theorem outputState_ok_iff {e : Json} {x : OutputStatus} :
    outputState e = .ok x
      ↔ e.atKey "outErr" = .ok (.boolean x.outputError)
        ∧ e.atKey "outSt" = .ok (.boolean x.outputState) := by
  obtain ⟨err, st⟩ := x
  constructor
  · intro h
    obtain ⟨v, hv, h⟩ := bind_ok_iff.mp h
    obtain ⟨err', herr, h⟩ := bind_ok_iff.mp h
    obtain ⟨w, hw, h⟩ := bind_ok_iff.mp h
    obtain ⟨st', hst, h⟩ := bind_ok_iff.mp h
    cases h
    cases getBool_ok_iff.mp herr
    cases getBool_ok_iff.mp hst
    exact ⟨hv, hw⟩
  · intro h
    obtain ⟨herr, hst⟩ := h
    unfold outputState
    rw [herr, hst]
    rfl

theorem buttonEntry_of_pressesNumber {doc : Json} {p : Int}
    (h : doc.pressesNumber = some (p : Rat)) : buttonEntry doc = .ok (UInt32.ofInt p) := by
  unfold Json.pressesNumber at h
  unfold buttonEntry
  cases he : doc.atIndex buttonPressesIndex with
  | error err =>
    rw [he] at h
    cases h
  | ok e =>
    rw [he] at h
    obtain ⟨v, hv, hvalue⟩ := Json.memberNumber_eq_some.mp h
    rw [ok_bind, hv]
    exact Json.getUInt32_of_number hvalue

/-! ## What is read is what is said -/

/-- Columns numbered in full, once read, set everything by number. -/
theorem saysByNumber_of_read (hI : I ≤ 255) (hO : O ≤ 255) {doc : Json} {es : StatusEntries}
    (hread : StatusEntries.read I O doc = .ok es)
    (hinputs : NumberedInFull "inNum" I (inputEntries I doc))
    (houtputs : NumberedInFull "outNum" O (outputEntries O doc)) (s : DeviceStatus I O) :
    SaysByNumber doc (es.writtenOver s) := by
  obtain ⟨inputs, outputs, presses⟩ := es
  obtain ⟨hin, hout, hbut⟩ := StatusEntries.read_ok_iff.mp hread
  refine ⟨?_, ?_, ?_⟩
  · intro e he k hk hnumber
    obtain ⟨st, hst, hlast⟩ :=
      lastWrite_of_numberedInFull hI hinputs (inputs_read_iff.mp hin).2 he hnumber
    have hcell : (writeAll inputs s.inputStates)[k] = st := by
      rw [writeAll_getElem hk, hlast]
      rfl
    show e.atKey "inSt" = .ok (.boolean (writeAll inputs s.inputStates)[k])
    rw [hcell]
    exact inputState_ok_iff.mp hst
  · intro e he k hk hnumber
    obtain ⟨x, hx, hlast⟩ :=
      lastWrite_of_numberedInFull hO houtputs (outputs_read_iff.mp hout).2 he hnumber
    have hcell : (writeAll outputs s.outputStates)[k] = x := by
      rw [writeAll_getElem hk, hlast]
      rfl
    show e.atKey "outErr" = .ok (.boolean (writeAll outputs s.outputStates)[k].outputError)
      ∧ e.atKey "outSt" = .ok (.boolean (writeAll outputs s.outputStates)[k].outputState)
    rw [hcell]
    exact outputState_ok_iff.mp hx
  · intro p hp
    have hpresses : presses = UInt32.ofInt p :=
      Except.ok.inj (hbut.symm.trans (buttonEntry_of_pressesNumber hp))
    show (presses.toNat : Int) = p % 2 ^ 32
    rw [hpresses, toNat_uint32_ofInt]

/-- A document in any order reads. -/
theorem read_of_inAnyOrder {doc : Json} (hdoc : InAnyOrder I O doc) :
    ∃ es, StatusEntries.read I O doc = .ok es := by
  have hlength : ∀ {key : String} {n : Nat} {es : List Json},
      NumberedInFull key n (es.take n) → n ≤ es.length := by
    intro key n es hfull
    have hlen := hfull.length_eq
    simp only [fullNumbers, List.length_map, List.length_range, List.length_take] at hlen
    omega
  have hinState : ∀ e ∈ inputEntries I doc, ∃ x, inputState e = .ok x := by
    intro e he
    obtain ⟨st, hst⟩ := hdoc.inputStates e he
    exact ⟨st, inputState_ok_iff.mpr hst⟩
  have houtState : ∀ e ∈ outputEntries O doc, ∃ x, outputState e = .ok x := by
    intro e he
    obtain ⟨err, herr⟩ := hdoc.outputErrors e he
    obtain ⟨st, hst⟩ := hdoc.outputStates e he
    exact ⟨⟨err, st⟩, outputState_ok_iff.mpr ⟨herr, hst⟩⟩
  obtain ⟨inputs, hin⟩ := read_of_numberedInFull hdoc.inputNumbers hinState
  obtain ⟨outputs, hout⟩ := read_of_numberedInFull hdoc.outputNumbers houtState
  obtain ⟨p, hp⟩ := hdoc.presses
  refine ⟨⟨inputs, outputs, UInt32.ofInt p⟩, StatusEntries.read_ok_iff.mpr ⟨?_, ?_, ?_⟩⟩
  · exact inputs_read_iff.mpr ⟨hlength hdoc.inputNumbers, hin⟩
  · exact outputs_read_iff.mpr ⟨hlength hdoc.outputNumbers, hout⟩
  · exact buttonEntry_of_pressesNumber hp

/-! ## The order does not matter -/

theorem InAnyOrder.reordered {doc doc' : Json} (h : InAnyOrder I O doc)
    (hre : Reordered I O doc doc') : InAnyOrder I O doc' where
  inputNumbers := (hre.inputs.map _).trans h.inputNumbers
  inputStates := fun e he => h.inputStates e (hre.inputs.subset he)
  outputNumbers := (hre.outputs.map _).trans h.outputNumbers
  outputErrors := fun e he => h.outputErrors e (hre.outputs.subset he)
  outputStates := fun e he => h.outputStates e (hre.outputs.subset he)
  presses := hre.presses ▸ h.presses

theorem SaysByNumber.reordered {doc doc' : Json} {s : DeviceStatus I O} (h : SaysByNumber doc' s)
    (hre : Reordered I O doc doc') : SaysByNumber doc s where
  inputs := fun e he => h.inputs e (hre.inputs.symm.subset he)
  outputs := fun e he => h.outputs e (hre.outputs.symm.subset he)
  presses := fun p hp => h.presses p (hre.presses.trans hp)

/-- What a document in any order says determines the status. -/
theorem SaysByNumber.unique {doc : Json} (hdoc : InAnyOrder I O doc) {s t : DeviceStatus I O}
    (hs : SaysByNumber doc s) (ht : SaysByNumber doc t) : s = t := by
  have hinputs : s.inputStates = t.inputStates := by
    ext k hk
    obtain ⟨e, he, hnumber⟩ := exists_of_numberedInFull hdoc.inputNumbers hk
    have hsame := (hs.inputs e he k hk hnumber).symm.trans (ht.inputs e he k hk hnumber)
    injection hsame with hsame
    injection hsame
  have houtputs : s.outputStates = t.outputStates := by
    ext k hk
    · obtain ⟨e, he, hnumber⟩ := exists_of_numberedInFull hdoc.outputNumbers hk
      have hsame := (hs.outputs e he k hk hnumber).1.symm.trans (ht.outputs e he k hk hnumber).1
      injection hsame with hsame
      injection hsame
    · obtain ⟨e, he, hnumber⟩ := exists_of_numberedInFull hdoc.outputNumbers hk
      have hsame := (hs.outputs e he k hk hnumber).2.symm.trans (ht.outputs e he k hk hnumber).2
      injection hsame with hsame
      injection hsame
  have hpresses : s.buttonPresses = t.buttonPresses := by
    obtain ⟨p, hp⟩ := hdoc.presses
    have hsame := (hs.presses p hp).trans (ht.presses p hp).symm
    exact UInt32.toNat_inj.mp (by omega)
  obtain ⟨_, _, _⟩ := s
  obtain ⟨_, _, _⟩ := t
  rw [DeviceStatus.mk.injEq]
  exact ⟨hinputs, houtputs, hpresses⟩

/-- One decoding of a document in any order. -/
theorem exists_saysByNumber (N : JsonText) (hI : I ≤ 255) (hO : O ≤ 255) (s : DeviceStatus I O)
    {b : Buffer} {doc : Json} (hparse : N.parse b.bytes = .ok doc) (hdoc : InAnyOrder I O doc) :
    ∃ s', s.deserializeFromBuffer N b = (.ok .ok, s') ∧ SaysByNumber doc s' := by
  obtain ⟨es, hes⟩ := read_of_inAnyOrder hdoc
  refine ⟨es.writtenOver s, (deserialize_ok_iff N s _ b).mpr ⟨doc, es, hparse, hes, rfl⟩, ?_⟩
  exact saysByNumber_of_read hI hO hes hdoc.inputNumbers hdoc.outputNumbers s

/-- **Decoding goes by number.** A well-typed document whose first `I` inputs
and first `O` outputs carry the numbers of the device in any order is accepted
by every object, and sets it to what the entries say by number. A reordering of
these entries sets every other object to the same status. -/
theorem deserialize_by_number (N : JsonText) (hI : I ≤ 255) (hO : O ≤ 255) (s : DeviceStatus I O)
    (b : Buffer) (doc : Json) (hparse : N.parse b.bytes = .ok doc) (hdoc : InAnyOrder I O doc) :
    ∃ s', s.deserializeFromBuffer N b = (.ok .ok, s') ∧ SaysByNumber doc s'
      ∧ ∀ (t : DeviceStatus I O) (b' : Buffer) (doc' : Json), N.parse b'.bytes = .ok doc' →
        Reordered I O doc doc' → t.deserializeFromBuffer N b' = (.ok .ok, s') := by
  obtain ⟨s', hs', hsays⟩ := exists_saysByNumber N hI hO s hparse hdoc
  refine ⟨s', hs', hsays, fun t b' doc' hparse' hre => ?_⟩
  obtain ⟨t', ht', hsays'⟩ := exists_saysByNumber N hI hO t hparse' (hdoc.reordered hre)
  rw [ht', SaysByNumber.unique hdoc hsays (hsays'.reordered hre)]

/-- Two inputs in reverse order with a third entry behind them, one output, and
a fourth element. -/
def shuffledDocument : Json :=
  .array [
    .array [.object [("inNum", .integer 2), ("inSt", .boolean true)],
      .object [("inNum", .integer 1), ("inSt", .boolean false)], .null],
    .array [.object [("outNum", .integer 1), ("outErr", .boolean true), ("outSt", .boolean false)]],
    .object [("butPr", .integer 3)], .null]

/-- It is read in any order. -/
theorem shuffledDocument_inAnyOrder : InAnyOrder 2 1 shuffledDocument where
  inputNumbers := by unfold NumberedInFull; decide +kernel
  inputStates := by decide +kernel
  outputNumbers := by unfold NumberedInFull; decide +kernel
  outputErrors := by decide +kernel
  outputStates := by decide +kernel
  presses := ⟨3, by decide +kernel⟩

/-- Decoded into an object that held something else. -/
theorem deserialize_by_number_shuffled :
    ∃ s', (⟨#v[true, true], #v[⟨false, true⟩], 7⟩ : DeviceStatus 2 1).deserializeFromBuffer .compact
        (.data (JsonText.compact.dump shuffledDocument)) = (.ok .ok, s')
      ∧ SaysByNumber shuffledDocument s'
      ∧ ∀ (t : DeviceStatus 2 1) (b' : Buffer) (doc' : Json),
        JsonText.compact.parse b'.bytes = .ok doc' → Reordered 2 1 shuffledDocument doc' →
          t.deserializeFromBuffer .compact b' = (.ok .ok, s') :=
  deserialize_by_number .compact (by decide) (by decide) _ _ shuffledDocument (by decide +kernel)
    shuffledDocument_inAnyOrder

end DeviceStatus

end IoModule

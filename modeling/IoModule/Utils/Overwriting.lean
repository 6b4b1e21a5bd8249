import IoModule.Utils.DeviceCommand
import IoModule.Utils.DeviceStatus

/-!
# What decoding leaves of the old content

`deserializeFromBuffer` works on the object it is called on, entry by entry.
The comments promise that it "sets this object" or fails. Read as a contract
(`SetsOrLeavesAlone`), that is: after `OK` the content is that of the buffer
alone, and after `NOT_OK` it is what it was.

Which buffers keep the contract is decided by the entries that are read, up to
the first one that throws:
- a status that is accepted has to reach every input and output of the device,
  and one that is rejected none of them (`StatusDecided`);
- a command that is accepted is appended to what is there, so it never keeps
  the contract. One that is rejected does if its first action already is.

`setsOrLeavesAlone_iff` is both.
-/

namespace IoModule

/-- A reading function sets its object, or leaves it alone. -/
structure SetsOrLeavesAlone {σ : Type} (read : σ → Except JsonError ReturnCode × σ) : Prop where
  sets : ∀ s t s' t', read s = (.ok .ok, s') → read t = (.ok .ok, t') → s' = t'
  leaves : ∀ s s', read s = (.ok .notOk, s') → s' = s

section Contract

variable {σ : Type} {read : σ → Except JsonError ReturnCode × σ}

/-- A buffer that is accepted keeps the contract if it makes all objects the
same. -/
theorem setsOrLeavesAlone_of_ok {f : σ → σ} (h : ∀ s, read s = (.ok .ok, f s)) :
    SetsOrLeavesAlone read ↔ ∀ s t, f s = f t := by
  constructor
  · exact fun hsets s t => hsets.sets s t _ _ (h s) (h t)
  · intro hsame
    refine ⟨fun s t s' t' hs ht => ?_, fun s s' hs => ?_⟩
    · cases (h s).symm.trans hs
      cases (h t).symm.trans ht
      exact hsame s t
    · cases (h s).symm.trans hs

/-- One that is rejected keeps it if it changes no object. -/
theorem setsOrLeavesAlone_of_notOk {f : σ → σ} (h : ∀ s, read s = (.ok .notOk, f s)) :
    SetsOrLeavesAlone read ↔ ∀ s, f s = s := by
  constructor
  · exact fun hsets s => hsets.leaves s _ (h s)
  · intro hsame
    refine ⟨fun s t s' t' hs _ => ?_, fun s s' hs => ?_⟩
    · cases (h s).symm.trans hs
    · cases (h s).symm.trans hs
      exact hsame s

/-- One that no object accepts and that changes none keeps it. -/
theorem setsOrLeavesAlone_of_unchanged {r : Except JsonError ReturnCode} (hr : r ≠ .ok .ok)
    (h : ∀ s, read s = (r, s)) : SetsOrLeavesAlone read := by
  refine ⟨fun s t s' t' hs _ => ?_, fun s s' hs => ?_⟩
  · have hcode := congrArg Prod.fst ((h s).symm.trans hs)
    exact absurd hcode hr
  · exact (congrArg Prod.snd ((h s).symm.trans hs)).symm

end Contract

/-- What both decodings answer when the parser throws. -/
def unparsed : JsonError → Except JsonError ReturnCode
  | .parseError => .ok .notOk
  | e => .error e

theorem unparsed_ne_ok (e : JsonError) : unparsed e ≠ .ok .ok := by
  cases e <;> simp [unparsed]

namespace DeviceStatus

variable {I O : Nat}

/-- Every input and every output is the number of an entry that is read. -/
def ReachesAll (I O : Nat) (doc : Json) : Prop :=
  (∀ k < I, ∃ w ∈ inputsRead I doc, w.1.toNat = k + 1)
    ∧ ∀ k < O, ∃ w ∈ outputsRead I O doc, w.1.toNat = k + 1

/-- No entry that is read has the number of an input or of an output. -/
def ReachesNone (I O : Nat) (doc : Json) : Prop :=
  (∀ w ∈ inputsRead I doc, ∀ k < I, w.1.toNat ≠ k + 1)
    ∧ ∀ w ∈ outputsRead I O doc, ∀ k < O, w.1.toNat ≠ k + 1

/-- A document that reads reaches everything, another one nothing. -/
def StatusDecided (I O : Nat) (doc : Json) : Prop :=
  match StatusEntries.read I O doc with
  | .ok _ => ReachesAll I O doc
  | .error _ => ReachesNone I O doc

/-- A document that reads: what its entries set. -/
theorem writtenOver_determined_iff (es : StatusEntries) :
    (∀ s t : DeviceStatus I O, es.writtenOver s = es.writtenOver t)
      ↔ (∀ k < I, ∃ w ∈ es.inputs, w.1.toNat = k + 1)
        ∧ ∀ k < O, ∃ w ∈ es.outputs, w.1.toNat = k + 1 := by
  rw [← writeAll_determined_iff, ← writeAll_determined_iff]
  constructor
  · intro h
    refine ⟨fun u v => ?_, fun u v => ?_⟩
    · have hsame := h ⟨u, Vector.replicate O ⟨false, false⟩, 0⟩
        ⟨v, Vector.replicate O ⟨false, false⟩, 0⟩
      exact congrArg inputStates hsame
    · have hsame := h ⟨Vector.replicate I false, u, 0⟩ ⟨Vector.replicate I false, v, 0⟩
      exact congrArg outputStates hsame
  · intro h s t
    obtain ⟨hinputs, houtputs⟩ := h
    unfold StatusEntries.writtenOver
    rw [hinputs s.inputStates t.inputStates, houtputs s.outputStates t.outputStates]

/-- A document that throws: what its entries change before. -/
theorem halfWritten_unchanged_iff (ins : List (UInt8 × Bool)) (outs : List (UInt8 × OutputStatus)) :
    (∀ s : DeviceStatus I O, { s with
        inputStates := writeAll ins s.inputStates
        outputStates := writeAll outs s.outputStates } = s)
      ↔ (∀ w ∈ ins, ∀ k < I, w.1.toNat ≠ k + 1) ∧ ∀ w ∈ outs, ∀ k < O, w.1.toNat ≠ k + 1 := by
  rw [← writeAll_unchanged_iff, ← writeAll_unchanged_iff]
  constructor
  · intro h
    refine ⟨fun v => ?_, fun v => ?_⟩
    · exact congrArg inputStates (h ⟨v, Vector.replicate O ⟨false, false⟩, 0⟩)
    · exact congrArg outputStates (h ⟨Vector.replicate I false, v, 0⟩)
  · intro h s
    obtain ⟨hinputs, houtputs⟩ := h
    rw [hinputs s.inputStates, houtputs s.outputStates]

/-- What a status buffer does is decided by the entries that are read. -/
theorem setsOrLeavesAlone_status_iff (N : JsonText) (b : Buffer) :
    SetsOrLeavesAlone (fun s : DeviceStatus I O => s.deserializeFromBuffer N b)
      ↔ ∀ doc, N.parse b.bytes = .ok doc → StatusDecided I O doc := by
  cases hparse : N.parse b.bytes with
  | error e =>
    refine iff_of_true ?_ fun _ h => nomatch h
    refine setsOrLeavesAlone_of_unchanged (unparsed_ne_ok e) fun s => ?_
    cases e <;> simp only [deserializeFromBuffer, hparse, unparsed]
  | ok doc =>
    simp only [Except.ok.injEq, forall_eq']
    unfold StatusDecided
    cases hread : StatusEntries.read I O doc with
    | ok es =>
      obtain ⟨hin, hout, -⟩ := StatusEntries.read_ok_iff.mp hread
      have hinputs : inputsRead I doc = es.inputs := readWhile_of_ok hin
      have houtputs : outputsRead I O doc = es.outputs := by
        simp only [outputsRead, hin]
        exact readWhile_of_ok hout
      show _ ↔ ReachesAll I O doc
      unfold ReachesAll
      rw [hinputs, houtputs, ← writtenOver_determined_iff]
      exact setsOrLeavesAlone_of_ok fun s =>
        (deserialize_ok_iff N s _ b).mpr ⟨doc, es, hparse, hread, rfl⟩
    | error e =>
      show _ ↔ ReachesNone I O doc
      unfold ReachesNone
      rw [← halfWritten_unchanged_iff]
      exact setsOrLeavesAlone_of_notOk fun s => by
        simp only [deserializeFromBuffer, hparse, extract_of_error hread s]

end DeviceStatus

namespace DeviceCommand

/-- The document has an action, and its first does not read. -/
def FirstThrows (doc : Json) : Prop :=
  doc.size ≠ 0 ∧ ∃ e, actionEntry doc 0 = .error e

/-- A command whose actions all read has no first one that throws. -/
theorem not_firstThrows_of_read {doc : Json} {as : List OutputAction}
    (hread : readActions doc = .ok as) : ¬ FirstThrows doc := by
  intro h
  obtain ⟨hsize, e, he⟩ := h
  obtain ⟨w, -, hw⟩ := exists_of_mapM hread 0 (List.mem_range.mpr (Nat.pos_of_ne_zero hsize))
  cases he.symm.trans hw

/-- Where some action throws, nothing is read before it exactly if it is the
first. -/
theorem firstThrows_iff {doc : Json} {e : JsonError} (hread : readActions doc = .error e) :
    readWhile (actionEntry doc) (List.range doc.size) = [] ↔ FirstThrows doc := by
  have hsize : doc.size ≠ 0 := by
    intro hzero
    rw [readActions_empty hzero] at hread
    cases hread
  obtain ⟨n, hn⟩ := Nat.exists_eq_succ_of_ne_zero hsize
  unfold FirstThrows
  rw [hn, List.range_succ_eq_map, readWhile_cons_eq_nil_iff]
  exact (and_iff_right (Nat.succ_ne_zero n)).symm

/-- Adding actions leaves every object alone exactly if there are none. -/
theorem append_unchanged_iff {as : List OutputAction} :
    (∀ c : DeviceCommand, (⟨c.outputActionList ++ as⟩ : DeviceCommand) = c) ↔ as = [] := by
  constructor
  · intro h
    exact congrArg outputActionList (h ⟨[]⟩)
  · intro h c
    rw [h, List.append_nil]

/-- A command buffer leaves an object alone or adds to it. -/
theorem setsOrLeavesAlone_command_iff (N : JsonText) (b : Buffer) :
    SetsOrLeavesAlone (fun c : DeviceCommand => c.deserializeFromBuffer N b)
      ↔ ∀ doc, N.parse b.bytes = .ok doc → FirstThrows doc := by
  cases hparse : N.parse b.bytes with
  | error e =>
    refine iff_of_true ?_ fun _ h => nomatch h
    refine setsOrLeavesAlone_of_unchanged (unparsed_ne_ok e) fun c => ?_
    cases e <;> simp only [deserializeFromBuffer, hparse, unparsed]
  | ok doc =>
    simp only [Except.ok.injEq, forall_eq']
    cases hread : readActions doc with
    | ok as =>
      have hcontract := setsOrLeavesAlone_of_ok fun c : DeviceCommand =>
        (deserialize_ok_iff N c _ b).mpr ⟨doc, as, hparse, hread, rfl⟩
      refine iff_of_false ?_ (not_firstThrows_of_read hread)
      -- an object that held an action still holds it
      intro h
      have hsame := hcontract.mp h ⟨[]⟩ ⟨[⟨0, 0⟩]⟩
      have hlen := congrArg (fun c => c.outputActionList.length) hsame
      simp at hlen
    | error e =>
      have hrejected : ∀ c : DeviceCommand, c.deserializeFromBuffer N b
          = (.ok .notOk,
            ⟨c.outputActionList ++ readWhile (actionEntry doc) (List.range doc.size)⟩) := by
        intro c
        simp only [deserializeFromBuffer, hparse, extract_of_error hread c]
      rw [← firstThrows_iff hread, ← append_unchanged_iff]
      exact setsOrLeavesAlone_of_notOk hrejected

end DeviceCommand

/-- **When decoding sets its object or leaves it alone.** For every size and
every buffer: a status does exactly if its document, as far as it is read,
reaches all numbers of the device when it reads and none when it does not. A
command does exactly if its text does not parse or its first action does not
read. -/
theorem setsOrLeavesAlone_iff (N : JsonText) (I O : Nat) (b : Buffer) :
    (SetsOrLeavesAlone (fun s : DeviceStatus I O => s.deserializeFromBuffer N b)
      ↔ ∀ doc, N.parse b.bytes = .ok doc → DeviceStatus.StatusDecided I O doc)
    ∧ (SetsOrLeavesAlone (fun c : DeviceCommand => c.deserializeFromBuffer N b)
      ↔ ∀ doc, N.parse b.bytes = .ok doc → DeviceCommand.FirstThrows doc) :=
  ⟨DeviceStatus.setsOrLeavesAlone_status_iff N b, DeviceCommand.setsOrLeavesAlone_command_iff N b⟩

/-- A Button's status without the button. -/
def statusWithoutButton : Buffer :=
  .data (Json.ascii "[[\x7b\"inNum\":1,\"inSt\":true\x7d],null,null]")

/-- A command that sets output 1 on. -/
def commandForOutput1 : Buffer :=
  .data (Json.ascii "[\x7b\"outNum\":1,\"actType\":1\x7d]")

/-- **Traces of a rejected status and of an old command.** The status without
a button is rejected, but input 1 has been set. The command is added to the
action the object already held. -/
theorem decoding_leaves_traces :
    (DeviceStatus.fresh : DeviceStatus 1 0).deserializeFromBuffer .compact statusWithoutButton
        = (.ok .notOk, ⟨#v[true], #v[], 0⟩)
      ∧ DeviceCommand.fresh.deserializeFromBuffer .compact commandForOutput1
        = (.ok .ok, ⟨[⟨1, .setOn⟩]⟩)
      ∧ (⟨[⟨3, .toggle⟩]⟩ : DeviceCommand).deserializeFromBuffer .compact commandForOutput1
        = (.ok .ok, ⟨[⟨3, .toggle⟩, ⟨1, .setOn⟩]⟩)
      ∧ ¬ SetsOrLeavesAlone (fun s : DeviceStatus 1 0 =>
        s.deserializeFromBuffer .compact statusWithoutButton)
      ∧ ¬ SetsOrLeavesAlone (fun c : DeviceCommand =>
        c.deserializeFromBuffer .compact commandForOutput1) := by
  have hstatus : (DeviceStatus.fresh : DeviceStatus 1 0).deserializeFromBuffer .compact
      statusWithoutButton = (.ok .notOk, ⟨#v[true], #v[], 0⟩) := by decide +kernel
  have hfresh : DeviceCommand.fresh.deserializeFromBuffer .compact commandForOutput1
      = (.ok .ok, ⟨[⟨1, .setOn⟩]⟩) := by decide +kernel
  have hadded : (⟨[⟨3, .toggle⟩]⟩ : DeviceCommand).deserializeFromBuffer .compact commandForOutput1
      = (.ok .ok, ⟨[⟨3, .toggle⟩, ⟨1, .setOn⟩]⟩) := by decide +kernel
  refine ⟨hstatus, hfresh, hadded, fun h => ?_, fun h => ?_⟩
  · exact absurd (h.leaves _ _ hstatus) (by decide)
  · exact absurd (h.sets _ _ _ _ hfresh hadded) (by decide)

end IoModule

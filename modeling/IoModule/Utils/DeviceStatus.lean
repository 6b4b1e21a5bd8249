import IoModule.ForLoop
import IoModule.Numbered
import IoModule.Utils.Serialization

/-!
# `DeviceStatus<INPUTS_NUMBER, OUTPUTS_NUMBER>`

The status of a device with `I` inputs and `O` outputs, its setters, and its
JSON codec (`DeviceStatus.hpp`, `OutputStatus.cpp`). The two template
parameters are the lengths of the two arrays, so a status of the wrong size
cannot be built.

Reading is split the way the loops are: `inputEntry`, `outputEntry` and
`buttonEntry` are what one round reads (all that can throw), `extract` is the
`try` block around the loops, and `deserializeFromBuffer` adds the two
handlers. The object is written while the loops run, so a throw leaves it
half written. `StatusEntries` collects what a run without a throw read, and
`deserialize_ok_iff` says such a run is exactly: the text parses, every entry
reads, and the object becomes the entries written over it.

Writing is `toJson`, one indexed assignment after the other; `toJson_eq`
is the document that comes out (`statusDocument`). An array without cells
leaves its slot `null`, since nothing ever indexes into it.

The round trip (`deserialize_serialize`) holds up to 255 cells per array, the
range of the `uint8_t` the numbers are read back into.
-/

namespace IoModule

/-- Index of the inputs in a status document. -/
def inputStatesIndex : Nat := 0
/-- Index of the outputs in a status document. -/
def outputStatesIndex : Nat := 1
/-- Index of the button in a status document. -/
def buttonPressesIndex : Nat := 2

/-- Status of one output. -/
@[ext] structure OutputStatus where
  outputError : Bool
  outputState : Bool
deriving DecidableEq, Repr

instance : Nontrivial OutputStatus := ⟨⟨⟨false, false⟩, ⟨true, false⟩, by decide⟩⟩

/-- Status of a device with `I` inputs and `O` outputs. -/
structure DeviceStatus (I O : Nat) where
  inputStates : Vector Bool I
  outputStates : Vector OutputStatus O
  buttonPresses : UInt32
deriving DecidableEq

namespace DeviceStatus

variable {I O : Nat}

/-- The default constructor: everything low, no error, no press. -/
def fresh : DeviceStatus I O :=
  ⟨Vector.replicate I false, Vector.replicate O ⟨false, false⟩, 0⟩

/-- `setInputState` -/
def setInputState (s : DeviceStatus I O) (inputNumber : UInt8) (inputState : Bool) :
    DeviceStatus I O :=
  { s with inputStates := writeNumber s.inputStates inputNumber inputState }

/-- `setOutputState` -/
def setOutputState (s : DeviceStatus I O) (outputNumber : UInt8) (outputError outputState : Bool) :
    DeviceStatus I O :=
  { s with outputStates := writeNumber s.outputStates outputNumber ⟨outputError, outputState⟩ }

/-- `setButtonPresses` -/
def setButtonPresses (s : DeviceStatus I O) (presses : UInt32) : DeviceStatus I O :=
  { s with buttonPresses := presses }

/-! ## Writing -/

/-- `j[column][i][key] = v` -/
def assign (j : Json) (column i : Nat) (key : String) (v : Json) : Except JsonError Json :=
  j.writeIndex column fun a => a.writeIndex i fun e => e.writeKey key v

/-- One round of the input loop: input number `p.2 + 1` is in state `p.1`. -/
def writeInput (j : Json) (p : Bool × Nat) : Except JsonError Json := do
  let j ← assign j inputStatesIndex p.2 "inNum" (.integer (p.2 + 1))
  assign j inputStatesIndex p.2 "inSt" (.boolean p.1)

/-- One round of the output loop. -/
def writeOutput (j : Json) (p : OutputStatus × Nat) : Except JsonError Json := do
  let j ← assign j outputStatesIndex p.2 "outNum" (.integer (p.2 + 1))
  let j ← assign j outputStatesIndex p.2 "outErr" (.boolean p.1.outputError)
  assign j outputStatesIndex p.2 "outSt" (.boolean p.1.outputState)

/-- The document `serializeToBuffer` builds up. -/
def toJson (s : DeviceStatus I O) : Except JsonError Json := do
  let j ← s.inputStates.toList.zipIdx.foldlM writeInput .null
  let j ← s.outputStates.toList.zipIdx.foldlM writeOutput j
  j.writeIndex buttonPressesIndex fun e => e.writeKey "butPr" (.integer s.buttonPresses.toNat)

/-- `serializeToBuffer` -/
def serializeToBuffer (N : JsonText) (granted : Bool) (s : DeviceStatus I O) : Written := do
  return jsonToBuffer N granted (← s.toJson)

/-! ## Reading -/

/-- What one round of the input loop reads: number and state of entry `i`. -/
def inputEntry (doc : Json) (i : Nat) : Except JsonError (UInt8 × Bool) := do
  let number ← (← (← (← doc.atIndex inputStatesIndex).atIndex i).atKey "inNum").getUInt8
  let state ← (← (← (← doc.atIndex inputStatesIndex).atIndex i).atKey "inSt").getBool
  return (number, state)

/-- What one round of the output loop reads. -/
def outputEntry (doc : Json) (i : Nat) : Except JsonError (UInt8 × OutputStatus) := do
  let number ← (← (← (← doc.atIndex outputStatesIndex).atIndex i).atKey "outNum").getUInt8
  let err ← (← (← (← doc.atIndex outputStatesIndex).atIndex i).atKey "outErr").getBool
  let state ← (← (← (← doc.atIndex outputStatesIndex).atIndex i).atKey "outSt").getBool
  return (number, ⟨err, state⟩)

/-- The button presses in a status document. -/
def buttonEntry (doc : Json) : Except JsonError UInt32 := do
  (← (← doc.atIndex buttonPressesIndex).atKey "butPr").getUInt32

/-- The input loop: read an entry, set the input it names. -/
def readInputs (doc : Json) (s : DeviceStatus I O) : Option JsonError × DeviceStatus I O :=
  forEach (readThen (inputEntry doc) fun s e => s.setInputState e.1 e.2) (List.range I) s

/-- The output loop. -/
def readOutputs (doc : Json) (s : DeviceStatus I O) : Option JsonError × DeviceStatus I O :=
  forEach (readThen (outputEntry doc) fun s e =>
    s.setOutputState e.1 e.2.outputError e.2.outputState) (List.range O) s

/-- The `try` block: the two loops and the button. A throw ends it and
leaves what was written so far. -/
def extract (doc : Json) (s : DeviceStatus I O) : Option JsonError × DeviceStatus I O :=
  match s.readInputs doc with
  | (some e, s) => (some e, s)
  | (none, s) =>
    match s.readOutputs doc with
    | (some e, s) => (some e, s)
    | (none, s) =>
      match buttonEntry doc with
      | .error e => (some e, s)
      | .ok presses => (none, s.setButtonPresses presses)

/-- `deserializeFromBuffer`: `parse_error` is handled around the parser, any
`json::exception` around the extraction. -/
def deserializeFromBuffer (N : JsonText) (s : DeviceStatus I O) (statusBuffer : Buffer) :
    Except JsonError ReturnCode × DeviceStatus I O :=
  match N.parse statusBuffer.bytes with
  | .error .parseError => (.ok .notOk, s)
  | .error e => (.error e, s)
  | .ok statusJson =>
    match s.extract statusJson with
    -- the entries read before the throw have been written
    | (some _, s) => (.ok .notOk, s)
    | (none, s) => (.ok .ok, s)

/-! ## A run without a throw -/

end DeviceStatus

/-- Everything a run of the loops without a throw reads. -/
structure StatusEntries where
  inputs : List (UInt8 × Bool)
  outputs : List (UInt8 × OutputStatus)
  presses : UInt32

namespace StatusEntries

/-- Read all entries of a document for a device with `I` inputs and `O`
outputs. -/
def read (I O : Nat) (doc : Json) : Except JsonError StatusEntries := do
  let inputs ← (List.range I).mapM (DeviceStatus.inputEntry doc)
  let outputs ← (List.range O).mapM (DeviceStatus.outputEntry doc)
  let presses ← DeviceStatus.buttonEntry doc
  return ⟨inputs, outputs, presses⟩

/-- The entries read when every entry of the three parts is. -/
theorem read_ok_iff {I O : Nat} {doc : Json} {es : StatusEntries} :
    read I O doc = .ok es
      ↔ (List.range I).mapM (DeviceStatus.inputEntry doc) = .ok es.inputs
        ∧ (List.range O).mapM (DeviceStatus.outputEntry doc) = .ok es.outputs
        ∧ DeviceStatus.buttonEntry doc = .ok es.presses := by
  obtain ⟨inputs, outputs, presses⟩ := es
  constructor
  · intro h
    obtain ⟨inputs', hin, h⟩ := bind_ok_iff.mp h
    obtain ⟨outputs', hout, h⟩ := bind_ok_iff.mp h
    obtain ⟨presses', hbut, h⟩ := bind_ok_iff.mp h
    cases h
    exact ⟨hin, hout, hbut⟩
  · intro h
    obtain ⟨hin, hout, hbut⟩ := h
    unfold read
    rw [hin, hout, hbut]
    rfl

/-- The entries written over a status. -/
def writtenOver {I O : Nat} (es : StatusEntries) (s : DeviceStatus I O) : DeviceStatus I O :=
  ⟨writeAll es.inputs s.inputStates, writeAll es.outputs s.outputStates, es.presses⟩

end StatusEntries

namespace DeviceStatus

variable {I O : Nat}

/-- The input loop's writes touch the inputs only. -/
theorem foldl_setInputState : ∀ (es : List (UInt8 × Bool)) (s : DeviceStatus I O),
    es.foldl (fun s e => s.setInputState e.1 e.2) s
      = { s with inputStates := writeAll es s.inputStates }
  | [], _ => rfl
  | e :: es, s => by
    rw [List.foldl_cons, foldl_setInputState es]
    rfl

/-- The output loop's writes touch the outputs only. -/
theorem foldl_setOutputState : ∀ (es : List (UInt8 × OutputStatus)) (s : DeviceStatus I O),
    es.foldl (fun s e => s.setOutputState e.1 e.2.outputError e.2.outputState) s
      = { s with outputStates := writeAll es s.outputStates }
  | [], _ => rfl
  | e :: es, s => by
    rw [List.foldl_cons, foldl_setOutputState es]
    rfl

/-- The input loop, when every input entry reads. -/
theorem readInputs_of_read {doc : Json} {inputs : List (UInt8 × Bool)}
    (h : (List.range I).mapM (inputEntry doc) = .ok inputs) (s : DeviceStatus I O) :
    s.readInputs doc = (none, { s with inputStates := writeAll inputs s.inputStates }) := by
  rw [readInputs, forEach_readThen_ok s h, foldl_setInputState]

/-- The output loop, when every output entry reads. -/
theorem readOutputs_of_read {doc : Json} {outputs : List (UInt8 × OutputStatus)}
    (h : (List.range O).mapM (outputEntry doc) = .ok outputs) (s : DeviceStatus I O) :
    s.readOutputs doc = (none, { s with outputStates := writeAll outputs s.outputStates }) := by
  rw [readOutputs, forEach_readThen_ok s h, foldl_setOutputState]

/-- When every entry reads, the extraction writes the entries over the
object. -/
theorem extract_of_read {doc : Json} {es : StatusEntries} (h : StatusEntries.read I O doc = .ok es)
    (s : DeviceStatus I O) : s.extract doc = (none, es.writtenOver s) := by
  obtain ⟨hin, hout, hbut⟩ := StatusEntries.read_ok_iff.mp h
  simp only [extract, readInputs_of_read hin, readOutputs_of_read hout, hbut]
  rfl

/-- The input entries that are read: those before the first that throws. -/
def inputsRead (I : Nat) (doc : Json) : List (UInt8 × Bool) :=
  readWhile (inputEntry doc) (List.range I)

/-- The output entries that are read: none when an input entry throws. -/
def outputsRead (I O : Nat) (doc : Json) : List (UInt8 × OutputStatus) :=
  match (List.range I).mapM (inputEntry doc) with
  | .ok _ => readWhile (outputEntry doc) (List.range O)
  | .error _ => []

/-- When some entry throws, so does the extraction, and the entries read before
it have been written. -/
theorem extract_of_error {doc : Json} {e : JsonError} (h : StatusEntries.read I O doc = .error e)
    (s : DeviceStatus I O) :
    s.extract doc
      = (some e, { s with
          inputStates := writeAll (inputsRead I doc) s.inputStates
          outputStates := writeAll (outputsRead I O doc) s.outputStates }) := by
  unfold StatusEntries.read at h
  -- the first of the three parts that throws is the one that ends the block
  cases hin : (List.range I).mapM (inputEntry doc) with
  | error e' =>
    rw [hin] at h
    cases h
    have hloop : s.readInputs doc
        = (some e, { s with inputStates := writeAll (inputsRead I doc) s.inputStates }) := by
      rw [readInputs, forEach_readThen_error s hin, foldl_setInputState]
      rfl
    simp only [extract, hloop, outputsRead, hin]
    rfl
  | ok inputs =>
    have hinputs : inputsRead I doc = inputs := readWhile_of_ok hin
    cases hout : (List.range O).mapM (outputEntry doc) with
    | error e' =>
      rw [hin, hout] at h
      cases h
      have hloop : ∀ t : DeviceStatus I O, t.readOutputs doc
          = (some e, { t with outputStates := writeAll (outputsRead I O doc) t.outputStates }) := by
        intro t
        rw [readOutputs, forEach_readThen_error t hout, foldl_setOutputState]
        simp only [outputsRead, hin]
      simp only [extract, readInputs_of_read hin, hloop, hinputs]
    | ok outputs =>
      have houtputs : outputsRead I O doc = outputs := by
        simp only [outputsRead, hin]
        exact readWhile_of_ok hout
      cases hbut : buttonEntry doc with
      | error e' =>
        rw [hin, hout, hbut] at h
        cases h
        simp only [extract, readInputs_of_read hin, readOutputs_of_read hout, hbut, hinputs,
          houtputs]
      | ok presses => rw [hin, hout, hbut] at h; cases h

/-- **What an accepted status is**: the text parses, every entry reads, and
the object becomes the entries written over it. -/
theorem deserialize_ok_iff (N : JsonText) (s s' : DeviceStatus I O) (b : Buffer) :
    s.deserializeFromBuffer N b = (.ok .ok, s') ↔
      ∃ doc es, N.parse b.bytes = .ok doc ∧ StatusEntries.read I O doc = .ok es
        ∧ s' = es.writtenOver s := by
  constructor
  · intro h
    unfold deserializeFromBuffer at h
    split at h
    next => cases h
    next => cases h
    next doc hdoc =>
      cases hes : StatusEntries.read I O doc with
      | error e =>
        rw [extract_of_error hes s] at h
        cases h
      | ok es =>
        rw [extract_of_read hes s] at h
        cases h
        exact ⟨doc, es, hdoc, hes, rfl⟩
  · intro hex
    obtain ⟨doc, es, hdoc, hes, rfl⟩ := hex
    simp only [deserializeFromBuffer, hdoc, extract_of_read hes s]

/-- Reading answers `OK` or `NOT_OK`, when it answers. -/
theorem deserialize_code {N : JsonText} {s s' : DeviceStatus I O} {b : Buffer} {rc : ReturnCode}
    (h : s.deserializeFromBuffer N b = (.ok rc, s')) : rc = .ok ∨ rc = .notOk := by
  unfold deserializeFromBuffer at h
  split at h
  next => cases h; exact Or.inr rfl
  next => cases h
  next =>
    split at h
    next => cases h; exact Or.inr rfl
    next => cases h; exact Or.inl rfl

/-! ## The document that is written -/

/-- The object of one input. -/
def inputObject (p : Bool × Nat) : Json :=
  .object [("inNum", .integer (p.2 + 1)), ("inSt", .boolean p.1)]

/-- The object of one output. -/
def outputObject (p : OutputStatus × Nat) : Json :=
  .object [("outNum", .integer (p.2 + 1)), ("outErr", .boolean p.1.outputError),
    ("outSt", .boolean p.1.outputState)]

/-- The document of a status: inputs, outputs, button. -/
def statusDocument (s : DeviceStatus I O) : Json :=
  .array [Json.slots (s.inputStates.toList.zipIdx.map inputObject),
    Json.slots (s.outputStates.toList.zipIdx.map outputObject),
    .object [("butPr", .integer s.buttonPresses.toNat)]]

/-- The assignments of one input round, on the slot they share. -/
def inputMembers (p : Bool × Nat) (e : Json) : Except JsonError Json := do
  let e ← e.writeKey "inNum" (.integer (p.2 + 1))
  e.writeKey "inSt" (.boolean p.1)

/-- The assignments of one output round, on the slot they share. -/
def outputMembers (p : OutputStatus × Nat) (e : Json) : Except JsonError Json := do
  let e ← e.writeKey "outNum" (.integer (p.2 + 1))
  let e ← e.writeKey "outErr" (.boolean p.1.outputError)
  e.writeKey "outSt" (.boolean p.1.outputState)

theorem inputMembers_null (p : Bool × Nat) : inputMembers p .null = .ok (inputObject p) := rfl

theorem outputMembers_null (p : OutputStatus × Nat) :
    outputMembers p .null = .ok (outputObject p) := rfl

theorem writeInput_eq (j : Json) (p : Bool × Nat) :
    writeInput j p = j.writeIndex inputStatesIndex fun a => a.writeIndex p.2 (inputMembers p) := by
  simp only [writeInput, assign, Json.writeIndex_writeIndex]
  rfl

theorem writeOutput_eq (j : Json) (p : OutputStatus × Nat) :
    writeOutput j p
      = j.writeIndex outputStatesIndex fun a => a.writeIndex p.2 (outputMembers p) := by
  simp only [writeOutput, assign, Json.writeIndex_writeIndex]
  rfl

/-- The columns an input loop leaves: none at all when there is no input. -/
def inputColumns (s : DeviceStatus I O) : List Json :=
  if s.inputStates.toList = [] then []
  else [Json.slots (s.inputStates.toList.zipIdx.map inputObject)]

/-- The input loop, out of a `null` document. -/
theorem foldlM_writeInput (s : DeviceStatus I O) :
    s.inputStates.toList.zipIdx.foldlM writeInput .null = .ok (Json.slots s.inputColumns) := by
  have hround : writeInput = fun j p =>
      j.writeIndex inputStatesIndex fun a => a.writeIndex p.2 (inputMembers p) := by
    funext j p
    exact writeInput_eq j p
  unfold inputColumns
  cases hl : s.inputStates.toList with
  | nil => rfl
  | cons b bs =>
    rw [hround, Json.foldlM_writeIndex _ _ _ (by simp), if_neg (List.cons_ne_nil b bs)]
    have hcol : (b :: bs).zipIdx.foldlM (fun (a : Json) p => a.writeIndex p.2 (inputMembers p)) .null
        = .ok (Json.slots ((b :: bs).zipIdx.map inputObject)) :=
      Json.foldlM_writeIndex_null inputMembers_null _
    exact Json.writeIndex_eq [] rfl rfl hcol

/-- The output loop, behind the columns of the inputs. -/
theorem foldlM_writeOutput (s : DeviceStatus I O) :
    s.outputStates.toList.zipIdx.foldlM writeOutput (Json.slots s.inputColumns)
      = .ok (if s.outputStates.toList = [] then Json.slots s.inputColumns
        else .array [Json.slots (s.inputStates.toList.zipIdx.map inputObject),
          Json.slots (s.outputStates.toList.zipIdx.map outputObject)]) := by
  have hround : writeOutput = fun j p =>
      j.writeIndex outputStatesIndex fun a => a.writeIndex p.2 (outputMembers p) := by
    funext j p
    exact writeOutput_eq j p
  cases hl : s.outputStates.toList with
  | nil => rfl
  | cons b bs =>
    rw [hround, Json.foldlM_writeIndex _ _ _ (by simp), if_neg (List.cons_ne_nil b bs)]
    have hcol : (b :: bs).zipIdx.foldlM (fun (a : Json) p => a.writeIndex p.2 (outputMembers p)) .null
        = .ok (Json.slots ((b :: bs).zipIdx.map outputObject)) :=
      Json.foldlM_writeIndex_null outputMembers_null _
    unfold inputColumns
    -- without inputs, column 0 is the padding the write to column 1 puts in
    cases s.inputStates.toList with
    | nil => exact Json.writeIndex_eq [] rfl rfl hcol
    | cons c cs => exact Json.writeIndex_eq [_] rfl rfl hcol

/-- **What `serializeToBuffer` writes.** -/
theorem toJson_eq (s : DeviceStatus I O) : s.toJson = .ok s.statusDocument := by
  unfold toJson
  rw [foldlM_writeInput]
  show (do
    let j ← s.outputStates.toList.zipIdx.foldlM writeOutput (Json.slots s.inputColumns)
    j.writeIndex buttonPressesIndex fun e =>
      e.writeKey "butPr" (.integer s.buttonPresses.toNat)) = .ok s.statusDocument
  rw [foldlM_writeOutput]
  unfold statusDocument inputColumns
  cases s.inputStates.toList <;> cases s.outputStates.toList <;> rfl

/-! ## Round trip -/

/-- The entries a written document carries: the cells under their numbers. -/
def entries (s : DeviceStatus I O) : StatusEntries :=
  ⟨s.inputStates.toList.zipIdx.map fun p => (UInt8.ofNat (p.2 + 1), p.1),
    s.outputStates.toList.zipIdx.map fun p => (UInt8.ofNat (p.2 + 1), p.1), s.buttonPresses⟩

theorem getUInt8_succ (i : Nat) :
    (Json.integer ((i : Int) + 1)).getUInt8 = .ok (UInt8.ofNat (i + 1)) := by
  show Except.ok (UInt8.ofInt ((i : Int) + 1)) = _
  rw [show ((i : Int) + 1) = ((i + 1 : Nat) : Int) from rfl, uint8_ofInt_natCast]

/-- An input object reads back as its entry. -/
theorem inputEntry_statusDocument (s : DeviceStatus I O) {i : Nat}
    (hi : i < s.entries.inputs.length) :
    inputEntry s.statusDocument i = .ok s.entries.inputs[i] := by
  have hl : i < s.inputStates.toList.length := by simpa [entries] using hi
  have hcol : s.statusDocument.atIndex inputStatesIndex
      = .ok (Json.slots (s.inputStates.toList.zipIdx.map inputObject)) := rfl
  have hobj : (Json.slots (s.inputStates.toList.zipIdx.map inputObject)).atIndex i
      = .ok (inputObject (s.inputStates.toList[i], i)) := by
    rw [Json.atIndex_slots (by simpa using hl)]
    simp
  have hnum : (inputObject (s.inputStates.toList[i], i)).atKey "inNum"
      = .ok (.integer (i + 1)) := rfl
  have hst : (inputObject (s.inputStates.toList[i], i)).atKey "inSt"
      = .ok (.boolean s.inputStates.toList[i]) := rfl
  simp only [inputEntry, bind, Except.bind, pure, Except.pure, hcol, hobj, hnum, hst,
    getUInt8_succ, Json.getBool_boolean]
  simp [entries]

/-- An output object reads back as its entry. -/
theorem outputEntry_statusDocument (s : DeviceStatus I O) {i : Nat}
    (hi : i < s.entries.outputs.length) :
    outputEntry s.statusDocument i = .ok s.entries.outputs[i] := by
  have hl : i < s.outputStates.toList.length := by simpa [entries] using hi
  have hcol : s.statusDocument.atIndex outputStatesIndex
      = .ok (Json.slots (s.outputStates.toList.zipIdx.map outputObject)) := rfl
  have hobj : (Json.slots (s.outputStates.toList.zipIdx.map outputObject)).atIndex i
      = .ok (outputObject (s.outputStates.toList[i], i)) := by
    rw [Json.atIndex_slots (by simpa using hl)]
    simp
  have hnum : (outputObject (s.outputStates.toList[i], i)).atKey "outNum"
      = .ok (.integer (i + 1)) := rfl
  have herr : (outputObject (s.outputStates.toList[i], i)).atKey "outErr"
      = .ok (.boolean s.outputStates.toList[i].outputError) := rfl
  have hst : (outputObject (s.outputStates.toList[i], i)).atKey "outSt"
      = .ok (.boolean s.outputStates.toList[i].outputState) := rfl
  simp only [outputEntry, bind, Except.bind, pure, Except.pure, hcol, hobj, hnum, herr, hst,
    getUInt8_succ, Json.getBool_boolean]
  simp [entries]

/-- A written document reads back as the entries of its status. -/
theorem read_statusDocument (s : DeviceStatus I O) :
    StatusEntries.read I O s.statusDocument = .ok s.entries := by
  have hI : s.entries.inputs.length = I := by simp [entries]
  have hO : s.entries.outputs.length = O := by simp [entries]
  have hins : (List.range I).mapM (inputEntry s.statusDocument) = .ok s.entries.inputs := by
    have h : (List.range s.entries.inputs.length).mapM (inputEntry s.statusDocument)
        = .ok s.entries.inputs := mapM_range_ok fun _ hi => inputEntry_statusDocument s hi
    rwa [hI] at h
  have houts : (List.range O).mapM (outputEntry s.statusDocument) = .ok s.entries.outputs := by
    have h : (List.range s.entries.outputs.length).mapM (outputEntry s.statusDocument)
        = .ok s.entries.outputs := mapM_range_ok fun _ hi => outputEntry_statusDocument s hi
    rwa [hO] at h
  have hbut : buttonEntry s.statusDocument = .ok s.buttonPresses :=
    Json.getUInt32_ofNat s.buttonPresses
  exact StatusEntries.read_ok_iff.mpr ⟨hins, houts, hbut⟩

/-- A status's own entries, written over any object, give the status. -/
theorem entries_writtenOver (s t : DeviceStatus I O) (hI : I ≤ 255) (hO : O ≤ 255) :
    s.entries.writtenOver t = s := by
  unfold StatusEntries.writtenOver entries
  rw [writeAll_zipIdx _ _ hI, writeAll_zipIdx _ _ hO]

theorem plainKeys :
    Json.plainString "inNum" = true ∧ Json.plainString "inSt" = true
      ∧ Json.plainString "outNum" = true ∧ Json.plainString "outErr" = true
      ∧ Json.plainString "outSt" = true ∧ Json.plainString "butPr" = true := by
  decide +kernel

theorem inputObject_plain {p : Bool × Nat} (h : p.2 < 255) : (inputObject p).plain = true := by
  obtain ⟨hnum, hst, _⟩ := plainKeys
  simp only [inputObject, Json.plain, Json.plainMembers, hnum, hst]
  simp
  omega

theorem outputObject_plain {p : OutputStatus × Nat} (h : p.2 < 255) :
    (outputObject p).plain = true := by
  obtain ⟨_, _, hnum, herr, hst, _⟩ := plainKeys
  simp only [outputObject, Json.plain, Json.plainMembers, hnum, herr, hst]
  simp
  omega

/-- The written document is plain. -/
theorem statusDocument_plain (s : DeviceStatus I O) (hI : I ≤ 255) (hO : O ≤ 255) :
    s.statusDocument.plain = true := by
  have hins : (Json.slots (s.inputStates.toList.zipIdx.map inputObject)).plain = true := by
    rw [Json.plain_slots]
    intro e he
    obtain ⟨p, hp, rfl⟩ := List.mem_map.mp he
    have hlt := List.snd_lt_of_mem_zipIdx hp
    exact inputObject_plain (by rw [Vector.length_toList] at hlt; omega)
  have houts : (Json.slots (s.outputStates.toList.zipIdx.map outputObject)).plain = true := by
    rw [Json.plain_slots]
    intro e he
    obtain ⟨p, hp, rfl⟩ := List.mem_map.mp he
    have hlt := List.snd_lt_of_mem_zipIdx hp
    exact outputObject_plain (by rw [Vector.length_toList] at hlt; omega)
  have hbut : (Json.object [("butPr", .integer s.buttonPresses.toNat)]).plain = true := by
    have hlt := s.buttonPresses.toNat_lt
    simp only [Json.plain, Json.plainMembers, plainKeys.2.2.2.2.2]
    simp
    omega
  refine (Json.plainElements_iff _).mpr fun e he => ?_
  simp only [List.mem_cons, List.not_mem_nil, or_false] at he
  rcases he with rfl | rfl | rfl
  · exact hins
  · exact houts
  · exact hbut

/-- `serializeToBuffer` writes the status document. -/
theorem serializeToBuffer_eq (N : JsonText) (granted : Bool) (s : DeviceStatus I O) :
    s.serializeToBuffer N granted = .ok (allocate granted (N.dump s.statusDocument)) := by
  unfold serializeToBuffer
  rw [toJson_eq]
  rfl

/-- The written text reads back as the status, whatever the object held. -/
theorem deserialize_dump (N : JsonText) (hN : N.Lossless) (hI : I ≤ 255) (hO : O ≤ 255)
    (s t : DeviceStatus I O) :
    t.deserializeFromBuffer N (.data (N.dump s.statusDocument)) = (.ok .ok, s) := by
  rw [deserialize_ok_iff]
  exact ⟨s.statusDocument, s.entries, hN _ (s.statusDocument_plain hI hO), s.read_statusDocument,
    (s.entries_writtenOver t hI hO).symm⟩

/-- **Round trip.** What `serializeToBuffer` wrote, any object of the same
size reads back: `OK`, and the object is the status that was written,
whatever it held before. -/
theorem deserialize_serialize (N : JsonText) (hN : N.Lossless) (hI : I ≤ 255) (hO : O ≤ 255)
    (s t : DeviceStatus I O) (granted : Bool) (b : Bytes)
    (h : s.serializeToBuffer N granted = .ok (some b)) :
    t.deserializeFromBuffer N (.data b) = (.ok .ok, s) := by
  rw [serializeToBuffer_eq] at h
  rw [eq_of_allocate (Except.ok.inj h)]
  exact deserialize_dump N hN hI hO s t

/-- Two inputs and one output, read back into an object that held something
else. -/
theorem deserialize_serialize_two_one :
    (⟨#v[true, true], #v[⟨false, false⟩], 7⟩ : DeviceStatus 2 1).deserializeFromBuffer .compact
        (.data (Json.ascii ("[[\x7b\"inNum\":1,\"inSt\":false\x7d,\x7b\"inNum\":2,\"inSt\":true\x7d],"
          ++ "[\x7b\"outNum\":1,\"outErr\":true,\"outSt\":false\x7d],\x7b\"butPr\":4294967295\x7d]")))
      = (.ok .ok, ⟨#v[false, true], #v[⟨true, false⟩], 4294967295⟩) :=
  deserialize_serialize .compact JsonText.compact_lossless (by decide) (by decide)
    ⟨#v[false, true], #v[⟨true, false⟩], 4294967295⟩ _ true _ (by decide +kernel)

end DeviceStatus

end IoModule

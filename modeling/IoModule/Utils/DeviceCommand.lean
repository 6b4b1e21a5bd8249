import IoModule.ForLoop
import IoModule.Utils.Serialization

/-!
# `DeviceCommand`

A command is a list of output actions, kept in the order they were added
(`DeviceCommand.cpp`, `OutputAction.cpp`). An action's output number is a
`uint8_t` and its type an enumeration over `uint32_t`: any 32-bit number is
a value of it, `SET_OFF`, `SET_ON` and `TOGGLE` being 0, 1 and 2.

Reading appends: `extract` is the loop over `size()` entries, each one read
(`actionEntry`) and added to the list already there. `decode` is what a fresh
object makes of a text. Writing goes through indexed assignments, so the
empty command is written as `null` (`commandDocument`), which reads back as
the empty command: `size()` of `null` is 0.

`deserialize_of_added` is the round trip for whatever was added. For a
document that does not come from the encoder, `readActions_ok_iff` says which
shapes are accepted, and `readAction` what one element turns into.
-/

namespace IoModule

/-- `enum ActionType : uint32_t` -/
abbrev ActionType := UInt32

/-- Sets the output off. -/
def ActionType.setOff : ActionType := 0
/-- Sets the output on. -/
def ActionType.setOn : ActionType := 1
/-- Sets the output in reverse according to its current state. -/
def ActionType.toggle : ActionType := 2

/-- An action on one output. -/
structure OutputAction where
  outputNumber : UInt8
  actionType : ActionType
deriving DecidableEq, Repr

/-- A command: its actions in the order they were added. -/
structure DeviceCommand where
  outputActionList : List OutputAction
deriving DecidableEq, Repr

namespace DeviceCommand

/-- The default constructor. -/
def fresh : DeviceCommand := ⟨[]⟩

/-- `addOutputAction` -/
def addOutputAction (c : DeviceCommand) (a : OutputAction) : DeviceCommand :=
  ⟨c.outputActionList ++ [a]⟩

/-! ## Writing -/

/-- One round of the writing loop: action `p.1` goes to index `p.2`. -/
def writeAction (j : Json) (p : OutputAction × Nat) : Except JsonError Json := do
  -- the first assignment creates the element, the second finds it there
  let j ← j.writeIndex p.2 fun e => e.writeKey "outNum" (.integer p.1.outputNumber.toNat)
  j.writeIndex p.2 fun e => e.writeKey "actType" (.integer p.1.actionType.toNat)

/-- The document `serializeToBuffer` builds up. -/
def toJson (c : DeviceCommand) : Except JsonError Json :=
  c.outputActionList.zipIdx.foldlM writeAction .null

/-- `serializeToBuffer` -/
def serializeToBuffer (N : JsonText) (granted : Bool) (c : DeviceCommand) : Written := do
  return jsonToBuffer N granted (← c.toJson)

/-! ## Reading -/

/-- What one round of the reading loop reads. -/
def actionEntry (doc : Json) (i : Nat) : Except JsonError OutputAction := do
  let number ← (← (← doc.atIndex i).atKey "outNum").getUInt8
  let type ← (← (← doc.atIndex i).atKey "actType").getEnum32
  return ⟨number, type⟩

/-- The `try` block: every entry of the document is read and added. -/
def extract (doc : Json) (c : DeviceCommand) : Option JsonError × DeviceCommand :=
  forEach (readThen (actionEntry doc) addOutputAction) (List.range doc.size) c

/-- `deserializeFromBuffer`: `parse_error` is handled around the parser, any
`json::exception` around the extraction. -/
def deserializeFromBuffer (N : JsonText) (c : DeviceCommand) (commandBuffer : Buffer) :
    Except JsonError ReturnCode × DeviceCommand :=
  match N.parse commandBuffer.bytes with
  | .error .parseError => (.ok .notOk, c)
  | .error e => (.error e, c)
  | .ok commandJson =>
    match c.extract commandJson with
    -- the actions read before the throw stay in the list
    | (some _, c) => (.ok .notOk, c)
    | (none, c) => (.ok .ok, c)

/-! ## A run without a throw -/

/-- The reading loop's writes append. -/
theorem foldl_addOutputAction : ∀ (as : List OutputAction) (c : DeviceCommand),
    as.foldl addOutputAction c = ⟨c.outputActionList ++ as⟩
  | [], c => by rw [List.append_nil]; rfl
  | a :: as, c => by
    rw [List.foldl_cons, foldl_addOutputAction as]
    show DeviceCommand.mk ((c.outputActionList ++ [a]) ++ as) = _
    rw [List.append_assoc]
    rfl

/-- Every entry of a document, read in order. -/
def readActions (doc : Json) : Except JsonError (List OutputAction) :=
  (List.range doc.size).mapM (actionEntry doc)

theorem extract_of_read {doc : Json} {as : List OutputAction} (h : readActions doc = .ok as)
    (c : DeviceCommand) : c.extract doc = (none, ⟨c.outputActionList ++ as⟩) := by
  rw [extract, forEach_readThen_ok c h, foldl_addOutputAction]

/-- When some entry throws, the actions read before it have been added. -/
theorem extract_of_error {doc : Json} {e : JsonError} (h : readActions doc = .error e)
    (c : DeviceCommand) :
    c.extract doc
      = (some e, ⟨c.outputActionList ++ readWhile (actionEntry doc) (List.range doc.size)⟩) := by
  rw [extract, forEach_readThen_error c h, foldl_addOutputAction]

/-- **What an accepted command is**: the text parses, every entry reads, and
the actions read are appended. -/
theorem deserialize_ok_iff (N : JsonText) (c c' : DeviceCommand) (b : Buffer) :
    c.deserializeFromBuffer N b = (.ok .ok, c') ↔
      ∃ doc as, N.parse b.bytes = .ok doc ∧ readActions doc = .ok as
        ∧ c' = ⟨c.outputActionList ++ as⟩ := by
  constructor
  · intro h
    unfold deserializeFromBuffer at h
    split at h
    next => cases h
    next => cases h
    next doc hdoc =>
      cases has : readActions doc with
      | error e =>
        rw [extract_of_error has c] at h
        cases h
      | ok as =>
        rw [extract_of_read has c] at h
        cases h
        exact ⟨doc, as, hdoc, has, rfl⟩
  · intro hex
    obtain ⟨doc, as, hdoc, has, rfl⟩ := hex
    simp only [deserializeFromBuffer, hdoc, extract_of_read has c]

/-- Reading answers `OK` or `NOT_OK`, when it answers. -/
theorem deserialize_code {N : JsonText} {c c' : DeviceCommand} {b : Buffer} {rc : ReturnCode}
    (h : c.deserializeFromBuffer N b = (.ok rc, c')) : rc = .ok ∨ rc = .notOk := by
  unfold deserializeFromBuffer at h
  split at h
  next => cases h; exact Or.inr rfl
  next => cases h
  next =>
    split at h
    next => cases h; exact Or.inr rfl
    next => cases h; exact Or.inl rfl

/-! ## The document that is written -/

/-- The object of one action. -/
def actionObject (a : OutputAction) : Json :=
  .object [("outNum", .integer a.outputNumber.toNat), ("actType", .integer a.actionType.toNat)]

/-- The document of a command. -/
def commandDocument (c : DeviceCommand) : Json :=
  Json.slots (c.outputActionList.map actionObject)

/-- The assignments of one round, on the slot they share. -/
def actionMembers (p : OutputAction × Nat) (e : Json) : Except JsonError Json := do
  let e ← e.writeKey "outNum" (.integer p.1.outputNumber.toNat)
  e.writeKey "actType" (.integer p.1.actionType.toNat)

theorem actionMembers_null (p : OutputAction × Nat) :
    actionMembers p .null = .ok (actionObject p.1) := rfl

theorem writeAction_eq (j : Json) (p : OutputAction × Nat) :
    writeAction j p = j.writeIndex p.2 (actionMembers p) :=
  Json.writeIndex_writeIndex j p.2 _ _

/-- **What `serializeToBuffer` writes.** -/
theorem toJson_eq (c : DeviceCommand) : c.toJson = .ok c.commandDocument := by
  have hround : writeAction = fun j p => j.writeIndex p.2 (actionMembers p) := by
    funext j p
    exact writeAction_eq j p
  have hobjects : c.outputActionList.zipIdx.map (fun p => actionObject p.1)
      = c.outputActionList.map actionObject := by
    have hfst := List.zipIdx_map_fst 0 c.outputActionList
    rw [show (fun p : OutputAction × Nat => actionObject p.1) = actionObject ∘ Prod.fst from rfl,
      ← List.map_map, hfst]
  unfold toJson commandDocument
  rw [hround, Json.foldlM_writeIndex_null actionMembers_null, hobjects]

/-- `serializeToBuffer` writes the command document. -/
theorem serializeToBuffer_eq (N : JsonText) (granted : Bool) (c : DeviceCommand) :
    c.serializeToBuffer N granted = .ok (allocate granted (N.dump c.commandDocument)) := by
  unfold serializeToBuffer
  rw [toJson_eq]
  rfl

theorem actionObject_plain (a : OutputAction) : (actionObject a).plain = true := by
  have hkeys : Json.plainString "outNum" = true ∧ Json.plainString "actType" = true := by
    decide +kernel
  have hnum := a.outputNumber.toNat_lt
  have htype : UInt32.toNat a.actionType < 2 ^ 32 := UInt32.toNat_lt _
  simp only [actionObject, Json.plain, Json.plainMembers, hkeys.1, hkeys.2]
  simp
  omega

/-- The written document is plain. -/
theorem commandDocument_plain (c : DeviceCommand) : c.commandDocument.plain = true := by
  unfold commandDocument
  rw [Json.plain_slots]
  intro e he
  obtain ⟨a, _, rfl⟩ := List.mem_map.mp he
  exact actionObject_plain a

/-! ## Which documents are commands -/

/-- What a round reads from the element it is at. -/
def readAction (e : Json) : Except JsonError OutputAction := do
  let number ← (← e.atKey "outNum").getUInt8
  let type ← (← e.atKey "actType").getEnum32
  return ⟨number, type⟩

theorem actionEntry_eq {doc e : Json} {i : Nat} (h : doc.atIndex i = .ok e) :
    actionEntry doc i = readAction e := by
  simp only [actionEntry, readAction, bind, Except.bind, h]

/-- An array is read element by element. -/
theorem readActions_array (es : List Json) : readActions (.array es) = es.mapM readAction :=
  mapM_range fun _ hi => actionEntry_eq (Json.atIndex_array es hi)

/-- Any other value with something in it throws at its first entry. -/
theorem readActions_throws (doc : Json) (hsize : doc.size ≠ 0)
    (hat : doc.atIndex 0 = .error .typeError) : readActions doc = .error .typeError := by
  have hthrow : actionEntry doc 0 = .error .typeError := by
    simp only [actionEntry, bind, Except.bind, hat]
  unfold readActions
  cases hn : doc.size with
  | zero => exact absurd hn hsize
  | succ n =>
    rw [List.range_succ_eq_map, List.mapM_cons, hthrow]
    rfl

/-- A value with nothing in it has no actions. -/
theorem readActions_empty {doc : Json} (hsize : doc.size = 0) : readActions doc = .ok [] := by
  unfold readActions
  rw [hsize, List.range_zero, List.mapM_nil]
  rfl

/-- **Which documents are commands**: an array of readable actions, or one of
the two empty values that are no array. -/
theorem readActions_ok_iff (doc : Json) (as : List OutputAction) :
    readActions doc = .ok as ↔
      (∃ es, doc = .array es ∧ es.mapM readAction = .ok as)
        ∨ ((doc = .null ∨ doc = .object []) ∧ as = []) := by
  cases doc with
  | array es => simp [readActions_array]
  | null =>
    rw [readActions_empty rfl]
    simp [eq_comm]
  | object ms =>
    cases ms with
    | nil =>
      rw [readActions_empty rfl]
      simp [eq_comm]
    | cons m ms =>
      simp [readActions_throws (.object (m :: ms)) (Nat.succ_ne_zero _) rfl]
  -- the scalars count as one entry, but have none to index
  | boolean b => simp [readActions_throws (.boolean b) Nat.one_ne_zero rfl]
  | integer n => simp [readActions_throws (.integer n) Nat.one_ne_zero rfl]
  | float x => simp [readActions_throws (.float x) Nat.one_ne_zero rfl]
  | string s => simp [readActions_throws (.string s) Nat.one_ne_zero rfl]

/-- An encoded action reads back. -/
theorem readAction_actionObject (a : OutputAction) : readAction (actionObject a) = .ok a := by
  have hnum : (actionObject a).atKey "outNum" = .ok (.integer a.outputNumber.toNat) := rfl
  have htype : (actionObject a).atKey "actType" = .ok (.integer a.actionType.toNat) := rfl
  simp only [readAction, bind, Except.bind, pure, Except.pure, hnum, htype, Json.getUInt8_ofNat,
    Json.getEnum32_ofNat]

/-- A written document reads back as the actions of its command. -/
theorem readActions_commandDocument (c : DeviceCommand) :
    readActions c.commandDocument = .ok c.outputActionList := by
  rw [readActions_ok_iff]
  cases hl : c.outputActionList with
  -- nothing was ever indexed: the empty command is written as `null`
  | nil => exact Or.inr ⟨Or.inl (by rw [commandDocument, hl]; rfl), rfl⟩
  | cons a as =>
    refine Or.inl ⟨(a :: as).map actionObject, by rw [commandDocument, hl]; rfl, ?_⟩
    rw [mapM_ok_iff, List.forall₂_map_left_iff, List.forall₂_same]
    exact fun b _ => readAction_actionObject b

/-! ## Round trip -/

/-- The written text reads back as the command. -/
theorem deserialize_dump (N : JsonText) (hN : N.Lossless) (c : DeviceCommand) :
    fresh.deserializeFromBuffer N (.data (N.dump c.commandDocument)) = (.ok .ok, c) := by
  rw [deserialize_ok_iff]
  exact ⟨c.commandDocument, c.outputActionList, hN _ c.commandDocument_plain,
    c.readActions_commandDocument, rfl⟩

/-- **Round trip.** A command built by any sequence of `addOutputAction`
calls is written, and a fresh object reads it back: `OK`, with the same
actions in the order they were added. -/
theorem deserialize_of_added (N : JsonText) (hN : N.Lossless) (as : List OutputAction) :
    ∃ b c, (as.foldl addOutputAction fresh).serializeToBuffer N true = .ok (some b)
      ∧ fresh.deserializeFromBuffer N (.data b) = (.ok .ok, c)
      ∧ c.outputActionList = as := by
  have hlist : (as.foldl addOutputAction fresh).outputActionList = as := by
    rw [foldl_addOutputAction]
    rfl
  refine ⟨_, as.foldl addOutputAction fresh, serializeToBuffer_eq N true _, ?_, hlist⟩
  exact deserialize_dump N hN _

/-- Two actions, one on the highest output number there is and of a type no
enumerator names. -/
theorem deserialize_of_added_two :
    ∃ b c, ([⟨3, .setOn⟩, ⟨255, 4294967295⟩].foldl addOutputAction fresh).serializeToBuffer
        .compact true = .ok (some b)
      ∧ fresh.deserializeFromBuffer .compact (.data b) = (.ok .ok, c)
      ∧ c.outputActionList = [⟨3, .setOn⟩, ⟨255, 4294967295⟩] :=
  deserialize_of_added .compact JsonText.compact_lossless [⟨3, .setOn⟩, ⟨255, 4294967295⟩]

end DeviceCommand

end IoModule

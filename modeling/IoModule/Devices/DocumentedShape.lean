import IoModule.Devices.ModuleManager

/-!
# Do the encoders write the documented shape?

The documentation fixes the shape of the messages: a status is an array of
inputs, an array of outputs and a button, a command an array of actions.
`DocumentedStatus` and `DocumentedCommand` say that of a document.

Both encoders start from a `null` value and let the indexed writes of their
loops make the arrays. A loop without a round makes none, and its place is
still `null` at the end. That is the only difference there is:
- `serialize_documented_iff`: a status has the documented shape exactly if the
  device has an output. A Button has none.
- `command_documented_iff`: a command has it exactly if it has an action.
-/

namespace IoModule

/-! ## The documented shapes -/

/-- An array of `n` objects that are numbered from 1 on, in order, and have
the given flags. -/
def NumberedObjects (number : String) (flags : List String) (n : Nat) (j : Json) : Prop :=
  ∃ es, j = .array es ∧ es.length = n
    ∧ ∀ (i : Nat) (hi : i < es.length), ∃ ms, es[i] = .object ms
      ∧ ms.map Prod.fst = number :: flags
      ∧ ms.lookup number = some (.integer (i + 1))
      ∧ ∀ flag ∈ flags, ∃ b, ms.lookup flag = some (.boolean b)

/-- A status of a device with `I` inputs and `O` outputs, as documented. -/
def DocumentedStatus (I O : Nat) (doc : Json) : Prop :=
  ∃ ins outs button, doc = .array [ins, outs, .object button]
    ∧ NumberedObjects "inNum" ["inSt"] I ins
    ∧ NumberedObjects "outNum" ["outErr", "outSt"] O outs
    ∧ ∃ presses, button.lookup "butPr" = some (.integer presses)

/-- A command with the given actions, as documented. -/
def DocumentedCommand (actions : List OutputAction) (doc : Json) : Prop :=
  ∃ es, doc = .array es ∧ es.length = actions.length
    ∧ ∀ (i : Nat) (hi : i < actions.length) (hie : i < es.length), ∃ ms, es[i] = .object ms
      ∧ ms.map Prod.fst = ["outNum", "actType"]
      ∧ ms.lookup "outNum" = some (.integer actions[i].outputNumber.toNat)
      ∧ ms.lookup "actType" = some (.integer (UInt32.toNat actions[i].actionType))

/-! ## What a loop leaves -/

/-- A loop with a round leaves an array, one without leaves `null`. -/
theorem slots_cases (es : List Json) :
    (es ≠ [] ∧ Json.slots es = .array es) ∨ (es = [] ∧ Json.slots es = .null) := by
  cases es with
  | nil => exact Or.inr ⟨rfl, rfl⟩
  | cons e es => exact Or.inl ⟨List.cons_ne_nil e es, rfl⟩

/-- The column of a loop has the documented shape if the loop had a round and
each round wrote its object. -/
theorem numberedObjects_slots_iff {α : Type} {number : String} {flags : List String}
    {write : α × Nat → Json} (xs : List α)
    (hwrite : ∀ p, ∃ ms, write p = .object ms ∧ ms.map Prod.fst = number :: flags
      ∧ ms.lookup number = some (.integer (p.2 + 1))
      ∧ ∀ flag ∈ flags, ∃ b, ms.lookup flag = some (.boolean b)) :
    NumberedObjects number flags xs.length (Json.slots (xs.zipIdx.map write)) ↔ 1 ≤ xs.length := by
  rcases slots_cases (xs.zipIdx.map write) with ⟨hne, hslots⟩ | ⟨hnil, hslots⟩
  · have hlen : 1 ≤ xs.length := by
      cases xs with
      | nil => exact absurd rfl hne
      | cons x xs => exact Nat.succ_pos _
    refine iff_of_true ⟨_, hslots, by simp, fun i hi => ?_⟩ hlen
    have hix : i < xs.length := by simpa using hi
    obtain ⟨ms, hms, hkeys, hnumber, hflags⟩ := hwrite (xs[i], i)
    exact ⟨ms, by simpa using hms, hkeys, hnumber, hflags⟩
  · have hlen : ¬ 1 ≤ xs.length := by
      cases xs with
      | nil => exact Nat.not_succ_le_zero 0
      | cons x xs => cases hnil
    refine iff_of_false ?_ hlen
    intro h
    obtain ⟨es, hes, -⟩ := h
    cases hslots.symm.trans hes

/-! ## Statuses -/

namespace DeviceStatus

/-- The two columns of a written status. -/
theorem numberedObjects_inputs_iff {I O : Nat} (s : DeviceStatus I O) :
    NumberedObjects "inNum" ["inSt"] I (Json.slots (s.inputStates.toList.zipIdx.map inputObject))
      ↔ 1 ≤ I := by
  have hround : ∀ p, ∃ ms, inputObject p = .object ms ∧ ms.map Prod.fst = ["inNum", "inSt"]
      ∧ ms.lookup "inNum" = some (.integer (p.2 + 1))
      ∧ ∀ flag ∈ ["inSt"], ∃ b, ms.lookup flag = some (.boolean b) := by
    intro p
    refine ⟨_, rfl, rfl, rfl, fun flag hflag => ?_⟩
    rw [List.mem_singleton.mp hflag]
    exact ⟨p.1, rfl⟩
  have hcolumn := numberedObjects_slots_iff s.inputStates.toList hround
  rwa [Vector.length_toList] at hcolumn

theorem numberedObjects_outputs_iff {I O : Nat} (s : DeviceStatus I O) :
    NumberedObjects "outNum" ["outErr", "outSt"] O
        (Json.slots (s.outputStates.toList.zipIdx.map outputObject))
      ↔ 1 ≤ O := by
  have hround : ∀ p, ∃ ms, outputObject p = .object ms
      ∧ ms.map Prod.fst = ["outNum", "outErr", "outSt"]
      ∧ ms.lookup "outNum" = some (.integer (p.2 + 1))
      ∧ ∀ flag ∈ ["outErr", "outSt"], ∃ b, ms.lookup flag = some (.boolean b) := by
    intro p
    refine ⟨_, rfl, rfl, rfl, fun flag hflag => ?_⟩
    rcases List.mem_cons.mp hflag with rfl | hflag
    · exact ⟨p.1.outputError, rfl⟩
    · rw [List.mem_singleton.mp hflag]
      exact ⟨p.1.outputState, rfl⟩
  have hcolumn := numberedObjects_slots_iff s.outputStates.toList hround
  rwa [Vector.length_toList] at hcolumn

/-- **When a status is written as documented.** For every number of inputs
from 1 on and of outputs, and every status of a device with that many,
`serializeToBuffer` writes a document that has the documented shape exactly if
there is an output. -/
theorem serialize_documented_iff (N : JsonText) (I O : Nat) (hI : 1 ≤ I) (s : DeviceStatus I O) :
    ∃ doc, s.toJson = .ok doc ∧ s.serializeToBuffer N true = .ok (some (N.dump doc))
      ∧ (DocumentedStatus I O doc ↔ 1 ≤ O) := by
  refine ⟨s.statusDocument, s.toJson_eq, serializeToBuffer_eq N true s, ?_⟩
  constructor
  · intro h
    obtain ⟨ins, outs, button, hdoc, -, houts, -⟩ := h
    injection hdoc with hdoc
    injection hdoc with _ hdoc
    injection hdoc with hcolumn _
    exact s.numberedObjects_outputs_iff.mp (hcolumn ▸ houts)
  · intro hO
    exact ⟨_, _, _, rfl, s.numberedObjects_inputs_iff.mpr hI, s.numberedObjects_outputs_iff.mpr hO,
      s.buttonPresses.toNat, rfl⟩

/-- An Opta at rest. -/
theorem serialize_documented_iff_opta :
    ∃ doc, (fresh : DeviceStatus 6 4).toJson = .ok doc
      ∧ (fresh : DeviceStatus 6 4).serializeToBuffer .compact true
        = .ok (some (JsonText.compact.dump doc))
      ∧ (DocumentedStatus 6 4 doc ↔ 1 ≤ 4) :=
  serialize_documented_iff .compact 6 4 (by decide) fresh

/-- **A Button writes `null` for its outputs**, where the documentation has an
empty array. -/
theorem button_status_undocumented :
    (fresh : DeviceStatus buttonInputsCount buttonOutputsCount).serializeToBuffer .compact true
        = .ok (some (Json.ascii "[[\x7b\"inNum\":1,\"inSt\":false\x7d],null,\x7b\"butPr\":0\x7d]"))
      ∧ (fresh : DeviceStatus buttonInputsCount buttonOutputsCount).toJson
        = .ok (.array [.array [.object [("inNum", .integer 1), ("inSt", .boolean false)]], .null,
          .object [("butPr", .integer 0)]])
      ∧ ¬ DocumentedStatus buttonInputsCount buttonOutputsCount
        (.array [.array [.object [("inNum", .integer 1), ("inSt", .boolean false)]], .null,
          .object [("butPr", .integer 0)]]) := by
  refine ⟨by decide +kernel, by decide +kernel, fun h => ?_⟩
  obtain ⟨ins, outs, button, hdoc, -, houts, -⟩ := h
  injection hdoc with hdoc
  injection hdoc with _ hdoc
  injection hdoc with hnull _
  obtain ⟨es, hes, -⟩ := houts
  cases hnull.trans hes

end DeviceStatus

/-! ## Commands -/

namespace DeviceCommand

/-- **When a command is written as documented.** For every list of actions
`serializeToBuffer` writes a document that has the documented shape exactly if
there is an action. -/
theorem command_documented_iff (N : JsonText) (c : DeviceCommand) :
    ∃ doc, c.toJson = .ok doc ∧ c.serializeToBuffer N true = .ok (some (N.dump doc))
      ∧ (DocumentedCommand c.outputActionList doc ↔ c.outputActionList ≠ []) := by
  refine ⟨c.commandDocument, c.toJson_eq, serializeToBuffer_eq N true c, ?_⟩
  unfold commandDocument
  rcases slots_cases (c.outputActionList.map actionObject) with ⟨hne, hslots⟩ | ⟨hnil, hslots⟩
  · have hactions : c.outputActionList ≠ [] := fun h => hne (by rw [h]; rfl)
    refine iff_of_true ⟨_, hslots, by simp, fun i hi hie => ?_⟩ hactions
    exact ⟨_, by rw [List.getElem_map]; rfl, rfl, rfl, rfl⟩
  · refine iff_of_false ?_ (not_not.mpr (List.map_eq_nil_iff.mp hnil))
    intro h
    obtain ⟨es, hes, -⟩ := h
    cases hslots.symm.trans hes

/-- **The empty command is written as `null`**, where the documentation has an
empty array. It is the first command of a Button. -/
theorem empty_command_undocumented :
    fresh.serializeToBuffer .compact true = .ok (some (Json.ascii "null"))
      ∧ buttonGenerateFirstCommand .compact true = .ok (some (Json.ascii "null"))
      ∧ fresh.toJson = .ok .null
      ∧ ¬ DocumentedCommand fresh.outputActionList .null := by
  refine ⟨by decide +kernel, by decide +kernel, by decide +kernel, fun h => ?_⟩
  obtain ⟨es, hes, -⟩ := h
  cases hes

end DeviceCommand

end IoModule

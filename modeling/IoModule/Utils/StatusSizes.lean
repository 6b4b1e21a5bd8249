import Mathlib.Data.List.Forall2
import IoModule.Utils.StatusColumns

/-!
# A status read at another size

The document of a status does not say which device wrote it: it lists the
inputs and the outputs there are. An object of other sizes that reads it walks
as many entries as it has cells, so it fails where there are too few of them and
overlooks the last ones where there are too many.

`deserialize_dump_iff` is that: of a written status every object of no greater
sizes reads the first cells and the presses (`truncate`), and no other object
accepts it.
-/

namespace IoModule

namespace DeviceStatus

variable {I O J P : Nat}

/-- The first `J` inputs and the first `P` outputs of a status. -/
def truncate (s : DeviceStatus I O) (hJ : J ≤ I) (hP : P ≤ O) : DeviceStatus J P :=
  ⟨(s.inputStates.take J).cast (Nat.min_eq_left hJ),
    (s.outputStates.take P).cast (Nat.min_eq_left hP), s.buttonPresses⟩

/-- The first cells of an array are the first elements of its list. -/
theorem toList_take_cast {α : Type} {n m : Nat} (v : Vector α n) (h : m ≤ n) :
    ((v.take m).cast (Nat.min_eq_left h)).toList = v.toList.take m := by
  refine List.ext_getElem (by simp; omega) fun k _ _ => ?_
  rw [Vector.getElem_toList, List.getElem_take, Vector.getElem_toList, Vector.getElem_cast,
    Vector.getElem_take]

@[simp] theorem truncate_inputs (s : DeviceStatus I O) (hJ : J ≤ I) (hP : P ≤ O) :
    (s.truncate hJ hP).inputStates.toList = s.inputStates.toList.take J :=
  toList_take_cast s.inputStates hJ

@[simp] theorem truncate_outputs (s : DeviceStatus I O) (hJ : J ≤ I) (hP : P ≤ O) :
    (s.truncate hJ hP).outputStates.toList = s.outputStates.toList.take P :=
  toList_take_cast s.outputStates hP

/-- A list numbered and cut off is the list cut off and numbered. -/
theorem take_zipIdx {α : Type} (n : Nat) : ∀ (l : List α) (start : Nat),
    (l.zipIdx start).take n = (l.take n).zipIdx start := by
  induction n with
  | zero =>
    intro l start
    simp
  | succ n ih =>
    intro l start
    cases l with
    | nil => simp
    | cons x l => simp [ih]

/-- The entries of the first cells are the first entries. -/
theorem truncate_entries (s : DeviceStatus I O) (hJ : J ≤ I) (hP : P ≤ O) :
    (s.truncate hJ hP).entries
      = ⟨s.entries.inputs.take J, s.entries.outputs.take P, s.entries.presses⟩ := by
  unfold entries
  rw [truncate_inputs, truncate_outputs, ← take_zipIdx, ← take_zipIdx, List.map_take, List.map_take]
  rfl

/-- The entries in the columns of a written document. -/
theorem column_inputs (s : DeviceStatus I O) :
    s.statusDocument.column inputStatesIndex = s.inputStates.toList.zipIdx.map inputObject := by
  have hcol : s.statusDocument.atIndex inputStatesIndex
      = .ok (Json.slots (s.inputStates.toList.zipIdx.map inputObject)) := rfl
  unfold Json.column
  rw [hcol]
  cases s.inputStates.toList <;> rfl

theorem column_outputs (s : DeviceStatus I O) :
    s.statusDocument.column outputStatesIndex = s.outputStates.toList.zipIdx.map outputObject := by
  have hcol : s.statusDocument.atIndex outputStatesIndex
      = .ok (Json.slots (s.outputStates.toList.zipIdx.map outputObject)) := rfl
  unfold Json.column
  rw [hcol]
  cases s.outputStates.toList <;> rfl

/-- A list of which all elements read: its first ones read as the first values. -/
theorem mapM_take {α β ε : Type} {read : α → Except ε β} {xs : List α} {bs : List β}
    (h : xs.mapM read = .ok bs) (n : Nat) : (xs.take n).mapM read = .ok (bs.take n) :=
  mapM_ok_iff.mpr (List.forall₂_take n (mapM_ok_iff.mp h))

/-- **The entries that another size reads**: the first ones, if there are
enough. -/
theorem read_other_size (s : DeviceStatus I O) {es : StatusEntries} :
    StatusEntries.read J P s.statusDocument = .ok es
      ↔ ∃ (hJ : J ≤ I) (hP : P ≤ O), es = (s.truncate hJ hP).entries := by
  obtain ⟨hins, houts, hbut⟩ := StatusEntries.read_ok_iff.mp s.read_statusDocument
  have hI : (s.statusDocument.column inputStatesIndex).length = I := by simp [column_inputs]
  have hO : (s.statusDocument.column outputStatesIndex).length = O := by simp [column_outputs]
  have hins' := (inputs_read_iff.mp hins).2
  have houts' := (outputs_read_iff.mp houts).2
  rw [List.take_of_length_le (by omega)] at hins' houts'
  rw [StatusEntries.read_ok_iff, inputs_read_iff, outputs_read_iff, hI, hO, mapM_take hins',
    mapM_take houts', hbut]
  obtain ⟨ins, outs, presses⟩ := es
  simp only [truncate_entries, Except.ok.injEq, StatusEntries.mk.injEq]
  constructor
  · intro h
    obtain ⟨⟨hJ, rfl⟩, ⟨hP, rfl⟩, rfl⟩ := h
    exact ⟨hJ, hP, rfl, rfl, rfl⟩
  · intro hex
    obtain ⟨hJ, hP, rfl, rfl, rfl⟩ := hex
    exact ⟨⟨hJ, rfl⟩, ⟨hP, rfl⟩, rfl⟩

/-- **A written status at another size.** An object accepts it exactly when it
has no more cells, and reads the first ones. -/
theorem deserialize_dump_iff (N : JsonText) (hN : N.Lossless) (hI : I ≤ 255) (hO : O ≤ 255)
    (s : DeviceStatus I O) (t r : DeviceStatus J P) :
    t.deserializeFromBuffer N (.data (N.dump s.statusDocument)) = (.ok .ok, r)
      ↔ ∃ (hJ : J ≤ I) (hP : P ≤ O), r = s.truncate hJ hP := by
  have hparse : N.parse (Buffer.data (N.dump s.statusDocument)).bytes = .ok s.statusDocument :=
    hN _ (s.statusDocument_plain hI hO)
  rw [deserialize_ok_iff, hparse]
  constructor
  · intro hex
    obtain ⟨doc, es, hdoc, hes, rfl⟩ := hex
    cases hdoc
    obtain ⟨hJ, hP, rfl⟩ := s.read_other_size.mp hes
    exact ⟨hJ, hP, entries_writtenOver _ t (by omega) (by omega)⟩
  · intro hex
    obtain ⟨hJ, hP, rfl⟩ := hex
    exact ⟨_, _, rfl, s.read_other_size.mpr ⟨hJ, hP, rfl⟩,
      (entries_writtenOver _ t (by omega) (by omega)).symm⟩

end DeviceStatus

end IoModule

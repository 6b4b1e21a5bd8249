import Mathlib.Data.List.Nodup
import Mathlib.Data.List.Perm.Basic
import IoModule.Json.Conversion
import IoModule.Utils.DeviceStatus

/-!
# The columns of a status document

A status document is an array whose first two elements, its columns, list
numbered entries. `DeviceStatus` walks them by index, through a chain of
`at`s for every member. Here the same is said entry by entry: `column` is the
list of entries, `readInput` and `readOutput` are what the loops read of one
(`readNumbered`: the number, then the rest), and a loop over the first `n`
indexes reads the first `n` entries (`inputs_read_iff`, `outputs_read_iff`).

A column whose first `n` entries carry the numbers 1 to `n`, in any order, is
`NumberedInFull`. Up to 255 entries the conversion to `uint8_t` keeps these
numbers apart, so the last write through a number is the write of the one
entry that carries it (`lastWrite_of_numberedInFull`). A column with enough
entries is numbered in full exactly when it has no stray one: none too many,
none whose number is not one of 1 to `n`, no number twice
(`numberedInFull_iff`).
-/

namespace IoModule

namespace Json

/-- The entries in a column of a status document; none where it has no
array. -/
def column (doc : Json) (c : Nat) : List Json :=
  match doc.atIndex c with
  | .ok (.array es) => es
  | _ => []

/-- The two `at`s on the way to an entry. -/
theorem atIndex_column_iff {doc e : Json} {c i : Nat} :
    (doc.atIndex c >>= fun col => col.atIndex i) = .ok e ↔ (doc.column c)[i]? = some e := by
  unfold column
  cases doc.atIndex c with
  | error err => simp [bind, Except.bind]
  | ok col =>
    cases col with
    | array es =>
      show (Json.array es).atIndex i = .ok e ↔ es[i]? = some e
      simp only [atIndex]
      cases es[i]? <;> simp
    | _ => simp [bind, Except.bind, atIndex]

end Json

namespace DeviceStatus

variable {α : Type}

/-! ## Reading an entry -/

/-- Read an entry: its number, then what it says. -/
def readNumbered (key : String) (state : Json → Except JsonError α) (e : Json) :
    Except JsonError (UInt8 × α) := do
  let number ← (← e.atKey key).getUInt8
  let x ← state e
  return (number, x)

/-- What an input entry says. -/
def inputState (e : Json) : Except JsonError Bool := do
  (← e.atKey "inSt").getBool

/-- What an output entry says. -/
def outputState (e : Json) : Except JsonError OutputStatus := do
  let err ← (← e.atKey "outErr").getBool
  let state ← (← e.atKey "outSt").getBool
  return ⟨err, state⟩

/-- What the input loop reads of an entry. -/
def readInput : Json → Except JsonError (UInt8 × Bool) := readNumbered "inNum" inputState

/-- What the output loop reads of an entry. -/
def readOutput : Json → Except JsonError (UInt8 × OutputStatus) := readNumbered "outNum" outputState

/-- An entry that reads has a number and a state. -/
theorem readNumbered_ok_iff {key : String} {state : Json → Except JsonError α} {e : Json}
    {w : UInt8 × α} :
    readNumbered key state e = .ok w
      ↔ (∃ v, e.atKey key = .ok v ∧ v.getUInt8 = .ok w.1) ∧ state e = .ok w.2 := by
  obtain ⟨number, x⟩ := w
  constructor
  · intro h
    obtain ⟨v, hv, h⟩ := bind_ok_iff.mp h
    obtain ⟨number', hnumber, h⟩ := bind_ok_iff.mp h
    obtain ⟨x', hx, h⟩ := bind_ok_iff.mp h
    cases h
    exact ⟨⟨v, hv, hnumber⟩, hx⟩
  · intro hex
    obtain ⟨⟨v, hv, hnumber⟩, hx⟩ := hex
    exact bind_ok_iff.mpr ⟨v, hv, bind_ok_iff.mpr ⟨number, hnumber, bind_ok_iff.mpr ⟨x, hx, rfl⟩⟩⟩

/-- The rounds of the input loop read the entries of the first column. -/
theorem inputEntry_ok_iff {doc : Json} {i : Nat} {w : UInt8 × Bool} :
    inputEntry doc i = .ok w
      ↔ ∃ e, (doc.column inputStatesIndex)[i]? = some e ∧ readInput e = .ok w := by
  have hround : inputEntry doc i
      = (doc.atIndex inputStatesIndex >>= fun col => col.atIndex i) >>= readInput := by
    unfold inputEntry readInput readNumbered inputState
    cases hcol : doc.atIndex inputStatesIndex with
    | error err => rfl
    | ok col =>
      cases he : col.atIndex i with
      | error err => simp only [bind, Except.bind, he]
      | ok e =>
        simp only [ok_bind, bind_assoc, he]
  simp only [hround, bind_ok_iff (f := readInput), Json.atIndex_column_iff]

/-- The rounds of the output loop, those of the second. -/
theorem outputEntry_ok_iff {doc : Json} {i : Nat} {w : UInt8 × OutputStatus} :
    outputEntry doc i = .ok w
      ↔ ∃ e, (doc.column outputStatesIndex)[i]? = some e ∧ readOutput e = .ok w := by
  have hround : outputEntry doc i
      = (doc.atIndex outputStatesIndex >>= fun col => col.atIndex i) >>= readOutput := by
    unfold outputEntry readOutput readNumbered outputState
    cases hcol : doc.atIndex outputStatesIndex with
    | error err => rfl
    | ok col =>
      cases he : col.atIndex i with
      | error err => simp only [bind, Except.bind, he]
      | ok e =>
        simp only [ok_bind, bind_assoc, pure_bind, he]
  simp only [hround, bind_ok_iff (f := readOutput), Json.atIndex_column_iff]

/-- The input loop reads the first `I` entries of the first column. -/
theorem inputs_read_iff {doc : Json} {I : Nat} {ws : List (UInt8 × Bool)} :
    (List.range I).mapM (inputEntry doc) = .ok ws
      ↔ I ≤ (doc.column inputStatesIndex).length
        ∧ ((doc.column inputStatesIndex).take I).mapM readInput = .ok ws :=
  mapM_range_take_iff fun _ _ => inputEntry_ok_iff

/-- The output loop reads the first `O` entries of the second. -/
theorem outputs_read_iff {doc : Json} {O : Nat} {ws : List (UInt8 × OutputStatus)} :
    (List.range O).mapM (outputEntry doc) = .ok ws
      ↔ O ≤ (doc.column outputStatesIndex).length
        ∧ ((doc.column outputStatesIndex).take O).mapM readOutput = .ok ws :=
  mapM_range_take_iff fun _ _ => outputEntry_ok_iff

/-! ## Entries numbered in full -/

/-- The numbers 1 to `n`. -/
def fullNumbers (n : Nat) : List (Option Rat) :=
  (List.range n).map fun k => some ((k + 1 : Nat) : Rat)

/-- The entries carry the numbers 1 to `n`, each once, in any order. -/
def NumberedInFull (key : String) (n : Nat) (es : List Json) : Prop :=
  (es.map fun e => e.memberNumber key).Perm (fullNumbers n)

/-- No entry is a stray one: there are not too many, each number is one of 1
to `n`, and none comes twice. -/
structure NoStrayEntry (key : String) (n : Nat) (es : List Json) : Prop where
  not_surplus : es.length ≤ n
  in_range : ∀ e ∈ es, e.memberNumber key ∈ fullNumbers n
  not_repeated : (es.map fun e => e.memberNumber key).Nodup

theorem mem_fullNumbers {n : Nat} {x : Option Rat} :
    x ∈ fullNumbers n ↔ ∃ k < n, x = some ((k + 1 : Nat) : Rat) := by
  simp [fullNumbers, eq_comm]

theorem nodup_fullNumbers (n : Nat) : (fullNumbers n).Nodup := by
  refine List.Nodup.map (fun j k hjk => ?_) List.nodup_range
  have hnumber : ((j + 1 : Nat) : Rat) = ((k + 1 : Nat) : Rat) := Option.some.inj hjk
  rw [Rat.natCast_inj] at hnumber
  omega

/-- **Enough entries are numbered in full exactly when none is a stray one.** -/
theorem numberedInFull_iff {key : String} {n : Nat} {es : List Json} (hlen : n ≤ es.length) :
    NumberedInFull key n es ↔ NoStrayEntry key n es := by
  have hfull : (fullNumbers n).length = n := by simp [fullNumbers]
  constructor
  · intro h
    refine ⟨?_, fun e he => ?_, h.nodup_iff.mpr (nodup_fullNumbers n)⟩
    · have hperm := h.length_eq
      rw [List.length_map, hfull] at hperm
      omega
    · exact h.subset (List.mem_map_of_mem he)
  · intro h
    -- as many different numbers as there are to choose from
    have hsub : (es.map fun e => e.memberNumber key) ⊆ fullNumbers n := by
      intro x hx
      obtain ⟨e, he, rfl⟩ := List.mem_map.mp hx
      exact h.in_range e he
    refine (List.subperm_of_subset h.not_repeated hsub).perm_of_length_le ?_
    rw [List.length_map, hfull]
    exact hlen

variable {key : String} {state : Json → Except JsonError α} {n : Nat} {es : List Json}

/-- Up to 255 the conversion keeps the number. -/
theorem number_of_readNumbered (hn : n ≤ 255) {e : Json} {w : UInt8 × α}
    (hread : readNumbered key state e = .ok w) (hnumber : e.memberNumber key ∈ fullNumbers n) :
    e.memberNumber key = some (w.1.toNat : Rat) := by
  obtain ⟨k, hk, hnumber⟩ := mem_fullNumbers.mp hnumber
  obtain ⟨⟨v, hv, hw⟩, -⟩ := readNumbered_ok_iff.mp hread
  obtain ⟨v', hv', hvalue⟩ := Json.memberNumber_eq_some.mp hnumber
  cases hv.symm.trans hv'
  have hconv : v.getUInt8 = .ok (UInt8.ofInt ((k + 1 : Nat) : Int)) :=
    Json.getUInt8_of_number (by rw [hvalue, Rat.intCast_natCast])
  rw [hnumber, Except.ok.inj (hw.symm.trans hconv), uint8_ofInt_natCast, UInt8.toNat_ofNat',
    Nat.mod_eq_of_lt (by omega)]

/-- What entries numbered in full are read as: the numbers they carry. -/
theorem numbers_of_numberedInFull (hn : n ≤ 255) (hfull : NumberedInFull key n es)
    {ws : List (UInt8 × α)} (hread : es.mapM (readNumbered key state) = .ok ws) :
    (es.map fun e => e.memberNumber key) = ws.map fun w => some (w.1.toNat : Rat) :=
  map_eq_of_mapM (fun _ he _ hw =>
    number_of_readNumbered hn hw (hfull.subset (List.mem_map_of_mem he))) hread

/-- **The last write through a number is that of the entry that carries it.** -/
theorem lastWrite_of_numberedInFull (hn : n ≤ 255) (hfull : NumberedInFull key n es)
    {ws : List (UInt8 × α)} (hread : es.mapM (readNumbered key state) = .ok ws) {e : Json}
    (he : e ∈ es) {k : Nat} (hnumber : e.memberNumber key = some ((k + 1 : Nat) : Rat)) :
    ∃ x, state e = .ok x ∧ lastWrite (k + 1) ws = some x := by
  have hnumbers := numbers_of_numberedInFull hn hfull hread
  have hnodup : (ws.map Prod.fst).Nodup := by
    refine List.Nodup.of_map (fun number => some (number.toNat : Rat)) ?_
    rw [List.map_map]
    show (ws.map fun w => some (w.1.toNat : Rat)).Nodup
    rw [← hnumbers]
    exact hfull.nodup_iff.mpr (nodup_fullNumbers n)
  obtain ⟨w, hw, hwe⟩ := exists_of_mapM hread e he
  have hkept := number_of_readNumbered hn hwe (hfull.subset (List.mem_map_of_mem he))
  have hk : w.1.toNat = k + 1 := by
    rw [hnumber, Option.some.injEq, Rat.natCast_inj] at hkept
    exact hkept.symm
  refine ⟨w.2, (readNumbered_ok_iff.mp hwe).2, ?_⟩
  rw [← hk]
  exact lastWrite_of_nodup hnodup hw

/-- Each of the numbers 1 to `n` is carried by an entry. -/
theorem exists_of_numberedInFull (hfull : NumberedInFull key n es) {k : Nat} (hk : k < n) :
    ∃ e ∈ es, e.memberNumber key = some ((k + 1 : Nat) : Rat) := by
  have hmem : some ((k + 1 : Nat) : Rat) ∈ es.map fun e => e.memberNumber key :=
    hfull.symm.subset (mem_fullNumbers.mpr ⟨k, hk, rfl⟩)
  exact List.mem_map.mp hmem

/-- Entries numbered in full that say something read. -/
theorem read_of_numberedInFull (hfull : NumberedInFull key n es)
    (hstate : ∀ e ∈ es, ∃ x, state e = .ok x) :
    ∃ ws, es.mapM (readNumbered key state) = .ok ws := by
  refine mapM_total_iff.mpr fun e he => ?_
  obtain ⟨k, _, hnumber⟩ := mem_fullNumbers.mp (hfull.subset (List.mem_map_of_mem he))
  obtain ⟨v, hv, hvalue⟩ := Json.memberNumber_eq_some.mp hnumber
  obtain ⟨x, hx⟩ := hstate e he
  have hconv : v.getUInt8 = .ok (UInt8.ofInt ((k + 1 : Nat) : Int)) :=
    Json.getUInt8_of_number (by rw [hvalue, Rat.intCast_natCast])
  exact ⟨(_, x), readNumbered_ok_iff.mpr ⟨⟨v, hv, hconv⟩, hx⟩⟩

end DeviceStatus

end IoModule

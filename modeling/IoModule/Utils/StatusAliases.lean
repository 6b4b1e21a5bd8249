import IoModule.Utils.StatusNumbers

/-!
# Numbers that are aliased

The setters of `DeviceStatus` ignore a number the device does not have. By
then the number has been converted to `uint8_t`: 257 arrives as 1, and the
presses are converted to `uint32_t` and not checked at all.

`NeverAliased` says what a reader of the guard expects: changing what an entry
says changes at most the input (or output) of its number, so nothing at all if
the device has no such number, and the presses are the presses of the
document. The change is made to the document (`withInput`, `withOutput`), and
both documents are decoded. `neverAliased_iff` says exactly when that holds:
every number out of range is so modulo `2^8` as well, or hidden by a later
entry, and the presses fit their type (`NoVisibleAlias`, `UnaliasedNumbers`).
-/

namespace IoModule

/-! ## Replacing a member of an entry -/

namespace Json

theorem padTo_of_lt {es : List Json} {i : Nat} (h : i < es.length) : padTo es i = es := by
  rw [padTo, Nat.sub_eq_zero_of_le (by omega), List.replicate_zero, List.append_nil]

/-- The member that was set. -/
theorem lookup_setMember (key : String) (v : Json) :
    ∀ ms : List (String × Json), (setMember key v ms).lookup key = some v
  | [] => by simp [setMember]
  | (k, old) :: ms => by
    unfold setMember
    by_cases hk : k = key
    · rw [if_pos hk, hk, List.lookup_cons_self]
    · rw [if_neg hk, List.lookup_cons, beq_false_of_ne (Ne.symm hk)]
      exact lookup_setMember key v ms

/-- The other members. -/
theorem lookup_setMember_ne {key other : String} (hne : other ≠ key) (v : Json) :
    ∀ ms : List (String × Json), (setMember key v ms).lookup other = ms.lookup other
  | [] => by
    rw [setMember, List.lookup_cons, beq_false_of_ne hne]
  | (k, old) :: ms => by
    unfold setMember
    by_cases hk : k = key
    · subst hk
      rw [if_pos rfl, List.lookup_cons, List.lookup_cons, beq_false_of_ne hne]
    · rw [if_neg hk, List.lookup_cons, List.lookup_cons, lookup_setMember_ne hne v ms]

theorem atKey_setMember (key : String) (v : Json) (ms : List (String × Json)) :
    (Json.object (setMember key v ms)).atKey key = .ok v := by
  simp only [atKey, lookup_setMember]

theorem atKey_setMember_ne {key other : String} (hne : other ≠ key) (v : Json)
    (ms : List (String × Json)) :
    (Json.object (setMember key v ms)).atKey other = (Json.object ms).atKey other := by
  simp only [atKey, lookup_setMember_ne hne]

/-- Only an object has members. -/
theorem object_of_atKey {e v : Json} {key : String} (h : e.atKey key = .ok v) :
    ∃ ms, e = .object ms := by
  cases e with
  | object ms => exact ⟨ms, rfl⟩
  | _ => cases h

/-- An entry is an element of an array that is an element of the document. -/
theorem column_getElem?_eq_some {doc e : Json} {c i : Nat} (h : (doc.column c)[i]? = some e) :
    ∃ cols es, doc = .array cols ∧ cols[c]? = some (.array es) ∧ es[i]? = some e := by
  have hat := atIndex_column_iff.mpr h
  obtain ⟨col, hcol, he⟩ := bind_ok_iff.mp hat
  cases doc with
  | array cols =>
    cases col with
    | array es =>
      refine ⟨cols, es, rfl, ?_, ?_⟩
      · simp only [atIndex] at hcol
        split at hcol
        next c hc => rw [hc, Except.ok.inj hcol]
        next => cases hcol
      · simp only [atIndex] at he
        split at he
        next e' he' => rw [he', Except.ok.inj he]
        next => cases he
    | _ => cases he
  | _ => cases hcol

end Json

namespace DeviceStatus

/-- `j[c][i][key] = v`, where there is an object at that place: the entry gets
the member, and everything else stays. -/
theorem assign_entry {doc : Json} {c i : Nat} {ms : List (String × Json)}
    (he : (doc.column c)[i]? = some (.object ms)) (key : String) (v : Json) :
    ∃ doc', assign doc c i key v = .ok doc'
      ∧ doc'.column c = (doc.column c).set i (.object (Json.setMember key v ms))
      ∧ ∀ c', c' ≠ c → doc'.atIndex c' = doc.atIndex c' := by
  obtain ⟨cols, es, rfl, hcol, hes⟩ := Json.column_getElem?_eq_some he
  obtain ⟨hc, hcols⟩ := List.getElem?_eq_some_iff.mp hcol
  obtain ⟨hi, hentry⟩ := List.getElem?_eq_some_iff.mp hes
  have hcolumn : (Json.array cols).column c = es := by
    simp only [Json.column, Json.atIndex, hcol]
  have hkey : (Json.object ms).writeKey key v = .ok (.object (Json.setMember key v ms)) := rfl
  have hinner : (Json.array es).writeIndex i (fun e => e.writeKey key v)
      = .ok (.array (es.set i (.object (Json.setMember key v ms)))) := by
    have hslot : (Json.padTo es i).getD i .null = .object ms := by
      rw [Json.padTo_of_lt hi, List.getD_eq_getElem?_getD, hes]
      rfl
    have hwrite := Json.writeIndex_eq (j := .array es) (w := fun e => e.writeKey key v) es rfl
      hslot hkey
    rw [Json.padTo_of_lt hi] at hwrite
    exact hwrite
  have hslot : (Json.padTo cols c).getD c .null = .array es := by
    rw [Json.padTo_of_lt hc, List.getD_eq_getElem?_getD, hcol]
    rfl
  have houter := Json.writeIndex_eq (j := .array cols)
    (w := fun a => a.writeIndex i fun e => e.writeKey key v) cols rfl hslot hinner
  rw [Json.padTo_of_lt hc] at houter
  refine ⟨_, houter, ?_, fun c' hne => ?_⟩
  · rw [hcolumn]
    simp only [Json.column, Json.atIndex, List.getElem?_set_self hc]
  · simp only [Json.atIndex, List.getElem?_set_ne (Ne.symm hne)]

variable {I O : Nat}

/-! ## Changing what an entry says -/

/-- The document with another state in input entry `i`. -/
def withInput (doc : Json) (i : Nat) (st : Bool) : Except JsonError Json :=
  assign doc inputStatesIndex i "inSt" (.boolean st)

/-- The document with another error and state in output entry `i`. -/
def withOutput (doc : Json) (i : Nat) (x : OutputStatus) : Except JsonError Json := do
  let doc ← assign doc outputStatesIndex i "outErr" (.boolean x.outputError)
  assign doc outputStatesIndex i "outSt" (.boolean x.outputState)

/-- The number that entry `i` carries. -/
def numberAt (key : String) (es : List Json) (i : Nat) : Option Rat :=
  es[i]?.bind fun e => e.memberNumber key

/-- An entry with a whole number is an object. -/
theorem entry_of_numberAt {key : String} {c n i : Nat} {doc : Json} {z : Int}
    (h : numberAt key ((doc.column c).take n) i = some (z : Rat)) :
    ∃ ms v, (doc.column c)[i]? = some (.object ms)
      ∧ (Json.object ms).atKey key = .ok v ∧ v.getUInt8 = .ok (UInt8.ofInt z) := by
  unfold numberAt at h
  obtain ⟨e, he, hnumber⟩ := Option.bind_eq_some_iff.mp h
  obtain ⟨v, hv, hvalue⟩ := Json.memberNumber_eq_some.mp hnumber
  obtain ⟨ms, rfl⟩ := Json.object_of_atKey hv
  rw [List.getElem?_take] at he
  split at he
  next => exact ⟨ms, v, he, hv, Json.getUInt8_of_number hvalue⟩
  next => cases he

/-- The loops and the button are read off their own elements. -/
theorem inputEntry_congr {doc doc' : Json}
    (h : doc'.atIndex inputStatesIndex = doc.atIndex inputStatesIndex) :
    inputEntry doc' = inputEntry doc := by
  funext i
  simp only [inputEntry, h]

theorem outputEntry_congr {doc doc' : Json}
    (h : doc'.atIndex outputStatesIndex = doc.atIndex outputStatesIndex) :
    outputEntry doc' = outputEntry doc := by
  funext i
  simp only [outputEntry, h]

theorem buttonEntry_congr {doc doc' : Json}
    (h : doc'.atIndex buttonPressesIndex = doc.atIndex buttonPressesIndex) :
    buttonEntry doc' = buttonEntry doc := by
  simp only [buttonEntry, h]

/-- The changed document reads as before, but for the state that was changed. -/
theorem read_withInput {doc : Json} {es : StatusEntries}
    (hread : StatusEntries.read I O doc = .ok es) {i : Nat} {z : Int}
    (hz : numberAt "inNum" (inputEntries I doc) i = some (z : Rat)) (st : Bool) :
    ∃ doc', withInput doc i st = .ok doc'
      ∧ StatusEntries.read I O doc'
        = .ok { es with inputs := es.inputs.set i (UInt8.ofInt z, st) } := by
  obtain ⟨ms, v, he, hv, hnumber⟩ := entry_of_numberAt hz
  obtain ⟨doc', hdoc', hcolumn, hothers⟩ := assign_entry he "inSt" (.boolean st)
  refine ⟨doc', hdoc', ?_⟩
  have hentry : readInput (.object (Json.setMember "inSt" (.boolean st) ms))
      = .ok (UInt8.ofInt z, st) := by
    refine readNumbered_ok_iff.mpr ⟨⟨v, ?_, hnumber⟩, inputState_ok_iff.mpr ?_⟩
    · rw [Json.atKey_setMember_ne (by decide), hv]
    · exact Json.atKey_setMember ..
  obtain ⟨hin, hout, hbut⟩ := StatusEntries.read_ok_iff.mp hread
  have hin' : (List.range I).mapM (inputEntry doc')
      = .ok (es.inputs.set i (UInt8.ofInt z, st)) := by
    obtain ⟨hlen, hins⟩ := inputs_read_iff.mp hin
    rw [inputs_read_iff, hcolumn, List.length_set, List.take_set]
    exact ⟨hlen, mapM_set hentry i hins⟩
  have hout' : (List.range O).mapM (outputEntry doc') = .ok es.outputs := by
    rw [outputEntry_congr (hothers _ (by decide))]
    exact hout
  have hbut' : buttonEntry doc' = .ok es.presses := by
    rw [buttonEntry_congr (hothers _ (by decide))]
    exact hbut
  exact StatusEntries.read_ok_iff.mpr ⟨hin', hout', hbut'⟩

/-- Likewise for an output. -/
theorem read_withOutput {doc : Json} {es : StatusEntries}
    (hread : StatusEntries.read I O doc = .ok es) {i : Nat} {z : Int}
    (hz : numberAt "outNum" (outputEntries O doc) i = some (z : Rat)) (x : OutputStatus) :
    ∃ doc', withOutput doc i x = .ok doc'
      ∧ StatusEntries.read I O doc'
        = .ok { es with outputs := es.outputs.set i (UInt8.ofInt z, x) } := by
  obtain ⟨ms, v, he, hv, hnumber⟩ := entry_of_numberAt hz
  obtain ⟨doc₁, hdoc₁, hcolumn₁, hothers₁⟩ := assign_entry he "outErr" (.boolean x.outputError)
  -- the second assignment finds the entry the first one left
  have hi : i < (doc.column outputStatesIndex).length := (List.getElem?_eq_some_iff.mp he).1
  have he₁ : (doc₁.column outputStatesIndex)[i]?
      = some (.object (Json.setMember "outErr" (.boolean x.outputError) ms)) := by
    rw [hcolumn₁, List.getElem?_set_self hi]
  obtain ⟨doc', hdoc', hcolumn, hothers⟩ := assign_entry he₁ "outSt" (.boolean x.outputState)
  refine ⟨doc', bind_ok_iff.mpr ⟨doc₁, hdoc₁, hdoc'⟩, ?_⟩
  have hentry : readOutput (.object (Json.setMember "outSt" (.boolean x.outputState)
      (Json.setMember "outErr" (.boolean x.outputError) ms))) = .ok (UInt8.ofInt z, x) := by
    refine readNumbered_ok_iff.mpr ⟨⟨v, ?_, hnumber⟩, outputState_ok_iff.mpr ⟨?_, ?_⟩⟩
    · rw [Json.atKey_setMember_ne (by decide), Json.atKey_setMember_ne (by decide), hv]
    · rw [Json.atKey_setMember_ne (by decide), Json.atKey_setMember]
    · exact Json.atKey_setMember ..
  obtain ⟨hin, hout, hbut⟩ := StatusEntries.read_ok_iff.mp hread
  -- neither assignment touches another element of the document
  have helement : ∀ c, c ≠ outputStatesIndex → doc'.atIndex c = doc.atIndex c :=
    fun c hc => (hothers c hc).trans (hothers₁ c hc)
  have hin' : (List.range I).mapM (inputEntry doc') = .ok es.inputs := by
    rw [inputEntry_congr (helement _ (by decide))]
    exact hin
  have hout' : (List.range O).mapM (outputEntry doc')
      = .ok (es.outputs.set i (UInt8.ofInt z, x)) := by
    obtain ⟨hlen, houts⟩ := outputs_read_iff.mp hout
    rw [outputs_read_iff, hcolumn, hcolumn₁, List.set_set, List.length_set, List.take_set]
    exact ⟨hlen, mapM_set hentry i houts⟩
  have hbut' : buttonEntry doc' = .ok es.presses := by
    rw [buttonEntry_congr (helement _ (by decide))]
    exact hbut
  exact StatusEntries.read_ok_iff.mpr ⟨hin', hout', hbut'⟩

/-! ## When an alias shows -/

/-- Every number in the entries of the device, and that of the presses, is a
whole one. -/
structure WholeNumbers (I O : Nat) (doc : Json) : Prop where
  inputs : ∀ e ∈ inputEntries I doc, ∃ z : Int, e.memberNumber "inNum" = some (z : Rat)
  outputs : ∀ e ∈ outputEntries O doc, ∃ z : Int, e.memberNumber "outNum" = some (z : Rat)
  presses : ∃ p : Int, doc.pressesNumber = some (p : Rat)

/-- A number out of range is so modulo `2^8` as well, or the same modulo `2^8`
as that of a later entry. -/
def NoVisibleAlias (key : String) (n : Nat) (es : List Json) : Prop :=
  ∀ (i : Nat) (z : Int), numberAt key es i = some (z : Rat) → ¬ (1 ≤ z ∧ z ≤ n) →
    1 ≤ z % 2 ^ 8 ∧ z % 2 ^ 8 ≤ n →
      ∃ (j : Nat) (y : Int), i < j ∧ numberAt key es j = some (y : Rat) ∧ y % 2 ^ 8 = z % 2 ^ 8

/-- The numbers of a document in any order are whole. -/
theorem InAnyOrder.wholeNumbers {doc : Json} (h : InAnyOrder I O doc) : WholeNumbers I O doc := by
  have hwhole : ∀ {key : String} {n : Nat} {es : List Json}, NumberedInFull key n es →
      ∀ e ∈ es, ∃ z : Int, e.memberNumber key = some (z : Rat) := by
    intro key n es hfull e he
    obtain ⟨k, -, hk⟩ := mem_fullNumbers.mp (hfull.subset (List.mem_map_of_mem he))
    exact ⟨(k + 1 : Nat), by rw [hk, Rat.intCast_natCast]⟩
  exact ⟨hwhole h.inputNumbers, hwhole h.outputNumbers, h.presses⟩

/-- No alias of an input or of an output can be seen, and the presses are a
`uint32_t`. -/
structure UnaliasedNumbers (I O : Nat) (doc : Json) : Prop where
  inputs : NoVisibleAlias "inNum" I (inputEntries I doc)
  outputs : NoVisibleAlias "outNum" O (outputEntries O doc)
  presses : ∀ p : Int, doc.pressesNumber = some (p : Rat) → 0 ≤ p ∧ p < 2 ^ 32

section Column

variable {α : Type} {key : String} {state : Json → Except JsonError α} {n : Nat} {es : List Json}
  {ws : List (UInt8 × α)}

/-- The write of an entry goes through its number, converted. -/
theorem write_of_numberAt (hread : es.mapM (readNumbered key state) = .ok ws) {i : Nat} {z : Int}
    (hz : numberAt key es i = some (z : Rat)) : ∃ x, ws[i]? = some (UInt8.ofInt z, x) := by
  obtain ⟨e, he, hnumber⟩ := Option.bind_eq_some_iff.mp hz
  rcases getElem?_of_mapM hread i with ⟨hnone, -⟩ | ⟨e', w, he', hw, hwe⟩
  · cases hnone.symm.trans he
  · cases he'.symm.trans he
    obtain ⟨v, hv, hvalue⟩ := Json.memberNumber_eq_some.mp hnumber
    obtain ⟨⟨v', hv', hconv⟩, -⟩ := readNumbered_ok_iff.mp hwe
    cases hv'.symm.trans hv
    refine ⟨w.2, ?_⟩
    rw [hw, ← Except.ok.inj (hconv.symm.trans (Json.getUInt8_of_number hvalue))]

/-- Behind every write there is an entry with its number. -/
theorem numberAt_of_write (hwhole : ∀ e ∈ es, ∃ z : Int, e.memberNumber key = some (z : Rat))
    (hread : es.mapM (readNumbered key state) = .ok ws) {i : Nat} {w : UInt8 × α}
    (hw : ws[i]? = some w) :
    ∃ z : Int, numberAt key es i = some (z : Rat) ∧ w.1 = UInt8.ofInt z := by
  rcases getElem?_of_mapM hread i with ⟨-, hnone⟩ | ⟨e, w', he, -, -⟩
  · cases hnone.symm.trans hw
  · obtain ⟨z, hz⟩ := hwhole e (List.mem_of_getElem? he)
    have hnumber : numberAt key es i = some (z : Rat) := by
      unfold numberAt
      rw [he]
      exact hz
    obtain ⟨x, hx⟩ := write_of_numberAt hread hnumber
    cases hx.symm.trans hw
    exact ⟨z, hnumber, rfl⟩

/-- **An entry is seen in the cell of its number only, exactly when no alias
shows.** -/
theorem noVisibleAlias_iff [Nontrivial α] (hn : n ≤ 255)
    (hwhole : ∀ e ∈ es, ∃ z : Int, e.memberNumber key = some (z : Rat))
    (hread : es.mapM (readNumbered key state) = .ok ws) (cells : Vector α n) :
    (∀ (i : Nat) (z : Int), numberAt key es i = some (z : Rat) → ∀ (x : α) (k : Nat) (hk : k < n),
        (k : Int) + 1 ≠ z →
          (writeAll (ws.set i (UInt8.ofInt z, x)) cells)[k] = (writeAll ws cells)[k])
      ↔ NoVisibleAlias key n es := by
  constructor
  · intro h i z hz hout halias
    obtain ⟨x, hx⟩ := write_of_numberAt hread hz
    have hresidue := toNat_uint8_ofInt z
    -- out of range, the entry should be seen nowhere
    have hunseen : ∀ y, writeAll (ws.set i (UInt8.ofInt z, y)) cells = writeAll ws cells := by
      intro y
      ext k hk
      exact h i z hz y k hk (by omega)
    obtain ⟨j, y, hij, hj⟩ := (writeAll_set_iff hx cells).mp hunseen
      ((UInt8.ofInt z).toNat - 1) (by omega) (by omega)
    obtain ⟨z', hz', hconv⟩ := numberAt_of_write hwhole hread hj
    refine ⟨j, z', hij, hz', ?_⟩
    rw [← toNat_uint8_ofInt, ← hconv, toNat_uint8_ofInt]
  · intro h i z hz x k hk hne
    obtain ⟨x', hx'⟩ := write_of_numberAt hread hz
    have hresidue := toNat_uint8_ofInt z
    by_cases hcell : (UInt8.ofInt z).toNat = k + 1
    · -- the cell of another number: an alias, so a later entry hides it
      obtain ⟨j, y, hij, hy, hsame⟩ := h i z hz (by omega) (by omega)
      obtain ⟨y', hy'⟩ := write_of_numberAt hread hy
      have hnumber : UInt8.ofInt y = UInt8.ofInt z := by
        have hresidue' := toNat_uint8_ofInt y
        exact UInt8.toNat_inj.mp (by omega)
      rw [hnumber] at hy'
      have hhidden := (writeAll_set_iff hx' cells).mpr fun _ _ _ => ⟨j, y', hij, hy'⟩
      rw [hhidden x]
    · exact writeAll_set_getElem hx' x cells hk hcell

end Column

/-! ## Decoding and aliases -/

/-- Decoding a document into `s` gave `s₀`, and nothing in that is aliased: a
change of what an input entry says changes at most the input of its number,
likewise for the outputs, and the presses are those of the document. -/
structure NeverAliased (s s₀ : DeviceStatus I O) (doc : Json) : Prop where
  inputs : ∀ (i : Nat) (z : Int), numberAt "inNum" (inputEntries I doc) i = some (z : Rat) →
    ∀ st, ∃ doc' s₁, withInput doc i st = .ok doc' ∧ s.extract doc' = (none, s₁)
      ∧ (∀ (k : Nat) (hk : k < I), (k : Int) + 1 ≠ z → s₁.inputStates[k] = s₀.inputStates[k])
      ∧ s₁.outputStates = s₀.outputStates ∧ s₁.buttonPresses = s₀.buttonPresses
  outputs : ∀ (i : Nat) (z : Int), numberAt "outNum" (outputEntries O doc) i = some (z : Rat) →
    ∀ x, ∃ doc' s₁, withOutput doc i x = .ok doc' ∧ s.extract doc' = (none, s₁)
      ∧ (∀ (k : Nat) (hk : k < O), (k : Int) + 1 ≠ z → s₁.outputStates[k] = s₀.outputStates[k])
      ∧ s₁.inputStates = s₀.inputStates ∧ s₁.buttonPresses = s₀.buttonPresses
  presses : ∀ p : Int, doc.pressesNumber = some (p : Rat) → (s₀.buttonPresses.toNat : Int) = p

section Parts

variable {doc : Json} {es : StatusEntries}

/-- The input entries are kept to their numbers if their writes are. -/
theorem inputs_kept_iff (hread : StatusEntries.read I O doc = .ok es) (s : DeviceStatus I O) :
    (∀ (i : Nat) (z : Int), numberAt "inNum" (inputEntries I doc) i = some (z : Rat) →
      ∀ st, ∃ doc' s₁, withInput doc i st = .ok doc' ∧ s.extract doc' = (none, s₁)
        ∧ (∀ (k : Nat) (hk : k < I), (k : Int) + 1 ≠ z →
          s₁.inputStates[k] = (es.writtenOver s).inputStates[k])
        ∧ s₁.outputStates = (es.writtenOver s).outputStates
        ∧ s₁.buttonPresses = (es.writtenOver s).buttonPresses)
      ↔ ∀ (i : Nat) (z : Int), numberAt "inNum" (inputEntries I doc) i = some (z : Rat) →
        ∀ (st : Bool) (k : Nat) (hk : k < I), (k : Int) + 1 ≠ z →
          (writeAll (es.inputs.set i (UInt8.ofInt z, st)) s.inputStates)[k]
            = (writeAll es.inputs s.inputStates)[k] := by
  constructor
  · intro h i z hz st k hk hne
    obtain ⟨doc', s₁, hdoc', hs₁, hcells, -, -⟩ := h i z hz st
    obtain ⟨doc₁, hdoc₁, hread₁⟩ := read_withInput hread hz st
    cases hdoc₁.symm.trans hdoc'
    cases (extract_of_read hread₁ s).symm.trans hs₁
    exact hcells k hk hne
  · intro h i z hz st
    obtain ⟨doc', hdoc', hread'⟩ := read_withInput hread hz st
    refine ⟨doc', _, hdoc', extract_of_read hread' s, ?_, rfl, rfl⟩
    exact fun k hk hne => h i z hz st k hk hne

/-- Likewise for the outputs. -/
theorem outputs_kept_iff (hread : StatusEntries.read I O doc = .ok es) (s : DeviceStatus I O) :
    (∀ (i : Nat) (z : Int), numberAt "outNum" (outputEntries O doc) i = some (z : Rat) →
      ∀ x, ∃ doc' s₁, withOutput doc i x = .ok doc' ∧ s.extract doc' = (none, s₁)
        ∧ (∀ (k : Nat) (hk : k < O), (k : Int) + 1 ≠ z →
          s₁.outputStates[k] = (es.writtenOver s).outputStates[k])
        ∧ s₁.inputStates = (es.writtenOver s).inputStates
        ∧ s₁.buttonPresses = (es.writtenOver s).buttonPresses)
      ↔ ∀ (i : Nat) (z : Int), numberAt "outNum" (outputEntries O doc) i = some (z : Rat) →
        ∀ (x : OutputStatus) (k : Nat) (hk : k < O), (k : Int) + 1 ≠ z →
          (writeAll (es.outputs.set i (UInt8.ofInt z, x)) s.outputStates)[k]
            = (writeAll es.outputs s.outputStates)[k] := by
  constructor
  · intro h i z hz x k hk hne
    obtain ⟨doc', s₁, hdoc', hs₁, hcells, -, -⟩ := h i z hz x
    obtain ⟨doc₁, hdoc₁, hread₁⟩ := read_withOutput hread hz x
    cases hdoc₁.symm.trans hdoc'
    cases (extract_of_read hread₁ s).symm.trans hs₁
    exact hcells k hk hne
  · intro h i z hz x
    obtain ⟨doc', hdoc', hread'⟩ := read_withOutput hread hz x
    refine ⟨doc', _, hdoc', extract_of_read hread' s, ?_, rfl, rfl⟩
    exact fun k hk hne => h i z hz x k hk hne

/-- The presses are kept if they fit. -/
theorem presses_kept_iff (hbut : buttonEntry doc = .ok es.presses) :
    (∀ p : Int, doc.pressesNumber = some (p : Rat) → (es.presses.toNat : Int) = p)
      ↔ ∀ p : Int, doc.pressesNumber = some (p : Rat) → 0 ≤ p ∧ p < 2 ^ 32 := by
  have hresidue : ∀ p : Int, doc.pressesNumber = some (p : Rat) →
      (es.presses.toNat : Int) = p % 2 ^ 32 := by
    intro p hp
    have hpresses := Except.ok.inj (hbut.symm.trans (buttonEntry_of_pressesNumber hp))
    rw [hpresses, toNat_uint32_ofInt]
  constructor
  · intro h p hp
    have hkept := h p hp
    have hlt := es.presses.toNat_lt
    omega
  · intro h p hp
    have hfits := h p hp
    rw [hresidue p hp]
    omega

end Parts

/-- **When nothing is aliased.** For every object and every accepted document
whose numbers are whole, decoding keeps each entry to its own number and the
presses as they are exactly if no alias of a number shows and the presses are a
`uint32_t`. -/
theorem neverAliased_iff (N : JsonText) (hI : I ≤ 255) (hO : O ≤ 255) (s s₀ : DeviceStatus I O)
    (b : Buffer) (doc : Json) (hparse : N.parse b.bytes = .ok doc)
    (haccepted : s.deserializeFromBuffer N b = (.ok .ok, s₀)) (hwhole : WholeNumbers I O doc) :
    NeverAliased s s₀ doc ↔ UnaliasedNumbers I O doc := by
  obtain ⟨doc₀, es, hdoc₀, hread, rfl⟩ := (deserialize_ok_iff N s s₀ b).mp haccepted
  cases hdoc₀.symm.trans hparse
  obtain ⟨hin, hout, hbut⟩ := StatusEntries.read_ok_iff.mp hread
  have hinputs := (inputs_kept_iff hread s).trans
    (noVisibleAlias_iff hI hwhole.inputs (inputs_read_iff.mp hin).2 s.inputStates)
  have houtputs := (outputs_kept_iff hread s).trans
    (noVisibleAlias_iff hO hwhole.outputs (outputs_read_iff.mp hout).2 s.outputStates)
  have hpresses := presses_kept_iff hbut
  constructor
  · intro h
    exact ⟨hinputs.mp h.inputs, houtputs.mp h.outputs, hpresses.mp h.presses⟩
  · intro h
    exact ⟨hinputs.mpr h.inputs, houtputs.mpr h.outputs, hpresses.mpr h.presses⟩

/-- The shuffled document, whose numbers are all in range. -/
theorem neverAliased_iff_shuffled :
    NeverAliased ⟨#v[true, true], #v[⟨false, true⟩], 7⟩ ⟨#v[false, true], #v[⟨true, false⟩], 3⟩
        shuffledDocument
      ↔ UnaliasedNumbers 2 1 shuffledDocument :=
  neverAliased_iff .compact (by decide) (by decide) _ _
    (.data (JsonText.compact.dump shuffledDocument)) shuffledDocument (by decide +kernel)
    (by decide +kernel)
    shuffledDocument_inAnyOrder.wholeNumbers

/-- A Button whose only input entry is number 257, with `2^32` presses. -/
def aliasDocument : Json :=
  .array [.array [.object [("inNum", .integer 257), ("inSt", .boolean true)]], .null,
    .object [("butPr", .integer 4294967296)]]

/-- **Input 257 is input 1**, and `2^32` presses are none. -/
theorem input_257_aliased :
    JsonText.compact.parse (Json.ascii ("[[\x7b\"inNum\":257,\"inSt\":true\x7d],null,"
        ++ "\x7b\"butPr\":4294967296\x7d]")) = .ok aliasDocument
      ∧ (fresh : DeviceStatus 1 0).deserializeFromBuffer .compact
          (.data (JsonText.compact.dump aliasDocument)) = (.ok .ok, ⟨#v[true], #v[], 0⟩)
      ∧ WholeNumbers 1 0 aliasDocument
      ∧ numberAt "inNum" (inputEntries 1 aliasDocument) 0 = some 257
      ∧ aliasDocument.pressesNumber = some 4294967296
      ∧ ¬ NeverAliased (fresh : DeviceStatus 1 0) ⟨#v[true], #v[], 0⟩ aliasDocument := by
  have hentries : inputEntries 1 aliasDocument
      = [.object [("inNum", .integer 257), ("inSt", .boolean true)]] := by decide +kernel
  have hwhole : WholeNumbers 1 0 aliasDocument := by
    refine ⟨fun e he => ?_, fun e he => ?_, ⟨4294967296, by decide +kernel⟩⟩
    · rw [hentries, List.mem_singleton] at he
      exact ⟨257, by rw [he]; decide +kernel⟩
    · cases he
  refine ⟨by decide +kernel, by decide +kernel, hwhole, by decide +kernel, by decide +kernel, ?_⟩
  intro h
  -- the entry of input 257, changed to low, changes input 1
  obtain ⟨doc', s₁, hdoc', hs₁, hcells, -⟩ := h.inputs 0 257 (by decide +kernel) false
  have hlow : withInput aliasDocument 0 false
      = .ok (.array [.array [.object [("inNum", .integer 257), ("inSt", .boolean false)]], .null,
        .object [("butPr", .integer 4294967296)]]) := by decide +kernel
  cases hlow.symm.trans hdoc'
  have hread : (fresh : DeviceStatus 1 0).extract (.array [.array [.object [("inNum", .integer 257),
      ("inSt", .boolean false)]], .null, .object [("butPr", .integer 4294967296)]])
      = (none, ⟨#v[false], #v[], 0⟩) := by decide +kernel
  cases hread.symm.trans hs₁
  exact absurd (hcells 0 (by decide) (by decide)) (by decide)

end DeviceStatus

end IoModule

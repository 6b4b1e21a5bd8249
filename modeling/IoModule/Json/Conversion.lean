import IoModule.Json.Value

/-!
# What a number converts to

The module reads every number of a document through an implicit conversion
to a C++ type, and no conversion refuses a number. This file says what comes
out, for the documents that hold whole numbers:

- `getUInt8_of_number`, `getUInt32_of_number`, `getEnum32_of_number`: a whole
  number is taken modulo the width of the target.
- `getUInt8_keeps_iff`, `getEnum32_keeps_iff`: the number is still the same
  exactly when it was one of the target's.
-/

namespace IoModule

namespace Json

/-- The number a member holds, if it is there and holds one. -/
def memberNumber (e : Json) (key : String) : Option Rat :=
  match e.atKey key with
  | .ok v => v.numericValue
  | .error _ => none

/-- The number of a member that is there. -/
theorem memberNumber_of_atKey {e v : Json} {key : String} (h : e.atKey key = .ok v) :
    e.memberNumber key = v.numericValue := by
  unfold memberNumber
  rw [h]

/-- A member that holds a number is there. -/
theorem memberNumber_eq_some {e : Json} {key : String} {x : Rat} :
    e.memberNumber key = some x ↔ ∃ v, e.atKey key = .ok v ∧ v.numericValue = some x := by
  unfold memberNumber
  cases e.atKey key with
  | error _ => simp
  | ok v => simp

/-- A whole number is not truncated. -/
theorem truncate_intCast (z : Int) : truncate (z : Rat) = z := by
  unfold truncate
  rw [Rat.num_intCast, Rat.den_intCast]
  exact Int.tdiv_one _

/-- Above zero, truncation rounds down. -/
theorem truncate_of_nonneg {x : Rat} (h : 0 ≤ x) : truncate x = x.floor := by
  unfold truncate
  rw [Rat.floor_def, Int.tdiv_eq_ediv_of_nonneg (Rat.num_nonneg.mpr h)]

/-- Between two whole numbers, truncation stays between them. -/
theorem truncate_mem {x : Rat} {m n : Nat} (hm : (m : Rat) ≤ x) (hn : x ≤ (n : Rat)) :
    (m : Int) ≤ truncate x ∧ truncate x ≤ (n : Int) := by
  have hnonneg : 0 ≤ x := Rat.le_trans (Rat.natCast_nonneg) hm
  rw [truncate_of_nonneg hnonneg]
  constructor
  · rw [Rat.le_floor_iff, Rat.intCast_natCast]
    exact hm
  · have hfloor : ((x.floor : Int) : Rat) ≤ ((n : Int) : Rat) := by
      rw [Rat.intCast_natCast]
      exact Rat.le_trans (Rat.floor_le x) hn
    exact Rat.intCast_le_intCast.mp hfloor

/-- A JSON number converts from what truncation makes of it. -/
theorem toNumber_of_numericValue {v : Json} {x : Rat} (h : v.numericValue = some x) :
    v.toNumber = .ok (truncate x) := by
  cases v with
  | integer n =>
    have hn : (n : Rat) = x := Option.some.inj h
    rw [← hn, truncate_intCast]
    rfl
  | float y =>
    have hy : y = x := Option.some.inj h
    rw [← hy]
    rfl
  | null => cases h
  | boolean b => cases h
  | string s => cases h
  | array es => cases h
  | object ms => cases h

/-- A whole number converts from itself. -/
theorem toNumber_of_number {v : Json} {z : Int} (h : v.numericValue = some (z : Rat)) :
    v.toNumber = .ok z := by
  rw [toNumber_of_numericValue h, truncate_intCast]

/-- And only a JSON number converts to an enumeration. -/
theorem numericValue_of_toNumber {v : Json} {z : Int} (h : v.toNumber = .ok z) :
    ∃ x, v.numericValue = some x := by
  cases v with
  | integer n => exact ⟨_, rfl⟩
  | float x => exact ⟨_, rfl⟩
  | null => cases h
  | boolean b => cases h
  | string s => cases h
  | array es => cases h
  | object ms => cases h

/-- A JSON number is converted to an integer type as to a number. -/
theorem toArithmetic_of_number {v : Json} {x : Rat} (h : v.numericValue = some x) :
    v.toArithmetic = v.toNumber := by
  cases v with
  | boolean b => cases h
  | _ => rfl

/-- Converted to `uint8_t`, a whole number is taken modulo `2^8`. -/
theorem getUInt8_of_number {v : Json} {z : Int} (h : v.numericValue = some (z : Rat)) :
    v.getUInt8 = .ok (UInt8.ofInt z) := by
  unfold getUInt8
  rw [toArithmetic_of_number h, toNumber_of_number h]
  rfl

/-- Converted to `uint32_t`, modulo `2^32`. -/
theorem getUInt32_of_number {v : Json} {z : Int} (h : v.numericValue = some (z : Rat)) :
    v.getUInt32 = .ok (UInt32.ofInt z) := by
  unfold getUInt32
  rw [toArithmetic_of_number h, toNumber_of_number h]
  rfl

/-- Converted to an enumeration over `uint32_t`, likewise. -/
theorem getEnum32_of_number {v : Json} {z : Int} (h : v.numericValue = some (z : Rat)) :
    v.getEnum32 = .ok (UInt32.ofInt z) := by
  unfold getEnum32
  rw [toNumber_of_number h]
  rfl

/-- Converted to `uint8_t`, a number is kept exactly when it was one. -/
theorem getUInt8_keeps_iff {v : Json} {k : UInt8} (h : v.getUInt8 = .ok k) :
    v.numericValue = some (k.toNat : Rat) ↔ ∃ n : UInt8, v.numericValue = some (n.toNat : Rat) := by
  refine ⟨fun hk => ⟨k, hk⟩, fun ⟨n, hn⟩ => ?_⟩
  have hconv : v.getUInt8 = .ok (UInt8.ofInt n.toNat) :=
    getUInt8_of_number (by rw [hn, Rat.intCast_natCast])
  rw [hconv, uint8_ofInt_toNat] at h
  rw [hn, Except.ok.inj h]

/-- Converted to an enumeration over `uint32_t`, likewise. -/
theorem getEnum32_keeps_iff {v : Json} {k : UInt32} (h : v.getEnum32 = .ok k) :
    v.numericValue = some (k.toNat : Rat)
      ↔ ∃ n : UInt32, v.numericValue = some (n.toNat : Rat) := by
  refine ⟨fun hk => ⟨k, hk⟩, fun ⟨n, hn⟩ => ?_⟩
  have hconv : v.getEnum32 = .ok (UInt32.ofInt n.toNat) :=
    getEnum32_of_number (by rw [hn, Rat.intCast_natCast])
  rw [hconv, uint32_ofInt_toNat] at h
  rw [hn, Except.ok.inj h]

end Json

end IoModule

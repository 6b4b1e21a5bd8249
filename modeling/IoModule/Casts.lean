import Mathlib.Algebra.Group.Int.Defs
import Mathlib.Algebra.Group.Nat.Defs

/-!
# C++ integer conversions

`static_cast` between integer types is reduction modulo the width, read back
with or without a sign. Lean's fixed-width types convert the same way
(`UInt8.ofInt`, `UInt32.toInt32`, …); this file states what they do in terms
of plain integers, and when they keep the number they are given:

- `toNat_uint8_ofInt`, `toNat_uint32_ofInt`: a number cast to an unsigned type
  is taken modulo the width. One that is of the type already survives being an
  integer in between (`uint8_ofInt_toNat`, `uint32_ofInt_toNat`).
- `toInt_toInt32`: a `uint32_t` stored in an `int` turns negative from
  `2^31` on (`toInt32_nonneg_iff`).
- `int64_add_one_le_iff`: adding one to a `long` is exact up to its last
  value.
-/

namespace IoModule

/-- A natural number cast to `uint8_t`. -/
theorem uint8_ofInt_natCast (n : Nat) : UInt8.ofInt (n : Int) = UInt8.ofNat n := by
  have hmod : ((n : Int) % 2 ^ 8).toNat = n % 2 ^ 8 := by omega
  apply UInt8.toNat_inj.mp
  rw [UInt8.ofInt, hmod, UInt8.toNat_ofNat', UInt8.toNat_ofNat', Nat.mod_mod]

/-- `uint8_t` values survive a trip through the integers. -/
@[simp] theorem uint8_ofInt_toNat (n : UInt8) : UInt8.ofInt (n.toNat : Int) = n := by
  rw [uint8_ofInt_natCast, UInt8.ofNat_toNat]

/-- `uint32_t` values survive a trip through the integers. -/
@[simp] theorem uint32_ofInt_toNat (n : UInt32) : UInt32.ofInt (n.toNat : Int) = n := by
  have hlt : n.toNat < 2 ^ 32 := n.toNat_lt
  have hmod : ((n.toNat : Int) % 2 ^ 32).toNat = n.toNat := by omega
  unfold UInt32.ofInt
  rw [hmod, UInt32.ofNat_toNat]

/-- Any number cast to `uint8_t` is taken modulo `2^8`. -/
theorem toNat_uint8_ofInt (z : Int) : ((UInt8.ofInt z).toNat : Int) = z % 2 ^ 8 := by
  unfold UInt8.ofInt
  rw [UInt8.toNat_ofNat']
  omega

/-- Any number cast to `uint32_t` is taken modulo `2^32`. -/
theorem toNat_uint32_ofInt (z : Int) : ((UInt32.ofInt z).toNat : Int) = z % 2 ^ 32 := by
  unfold UInt32.ofInt
  rw [UInt32.toNat_ofNat']
  omega

/-- A `uint32_t` read as an `int`: the same 32 bits with a sign. -/
theorem toInt_toInt32 (n : UInt32) :
    n.toInt32.toInt = if n.toNat < 2 ^ 31 then (n.toNat : Int) else (n.toNat : Int) - 2 ^ 32 := by
  have hlt : n.toNat < 2 ^ 32 := n.toNat_lt
  show n.toBitVec.toInt = _
  rw [BitVec.toInt_eq_toNat_cond, UInt32.toNat_toBitVec]
  split <;> split <;> omega

/-- The stored `int` is non-negative exactly below `2^31`. -/
theorem toInt32_nonneg_iff (n : UInt32) : ¬ n.toInt32 < 0 ↔ n.toNat < 2 ^ 31 := by
  have hlt : n.toNat < 2 ^ 32 := n.toNat_lt
  rw [Int32.lt_iff_toInt_lt, toInt_toInt32, Int32.toInt_zero]
  split <;> omega

/-- Short of overflow, "from the next number on" is "greater". -/
theorem int64_add_one_le_iff {a b : Int64} (h : a.toInt < 2 ^ 63 - 1) :
    a + 1 ≤ b ↔ a.toInt < b.toInt := by
  have hlo := a.le_toInt
  have hsum : (a + 1).toInt = a.toInt + 1 := by
    rw [Int64.toInt_add, Int64.toInt_one]
    exact Int.bmod_eq_of_le (by omega) (by omega)
  rw [Int64.le_iff_toInt_le, hsum]
  omega

end IoModule

import IoModule.Casts

/-!
# JSON documents and how they are read

The document type behind `nlohmann::ordered_json`, with the accessors the
module calls: `at(i)`, `at(key)`, `size()` and the implicit conversions to
`bool`, to the C++ integer types, to an enumeration and to a string. Each accessor
answers in `Except JsonError`: the exception classes are the only thing the
callers' handlers look at, so the texts are left out.

Reading notes:
- Signed and unsigned JSON integers are one constructor. No conversion the
  module uses tells them apart, and `5` stored as either is the same text.
- A float is a finite one (the parser refuses the others), so a rational.
- An object keeps its members in insertion order (`ordered_json`).
- A number is converted by a plain `static_cast`: truncated toward zero if
  it is a float, then taken modulo the width of the target. No conversion
  checks a range. (For a float beyond the target's range C++ leaves the
  result open; the modulus is one of the allowed answers.)
- A *boolean* converts to an integer type as `0`/`1`, but not to an
  enumeration. Only a boolean converts to `bool`, and only a string to a
  string.
-/

namespace IoModule

/-- A JSON document (`nlohmann::ordered_json`). -/
inductive Json where
  | null
  | boolean (b : Bool)
  | integer (n : Int)
  | float (x : Rat)
  | string (s : String)
  | array (elements : List Json)
  | object (members : List (String × Json))

/-- The exception classes of `nlohmann::json` that can occur here. All three
derive from `json::exception`. -/
inductive JsonError where
  | parseError
  | typeError
  | outOfRange
deriving DecidableEq, Repr

namespace Json

/-! ## Equality of documents is decidable -/

mutual

/-- Structural comparison of two documents. -/
def same : Json → Json → Bool
  | .null, .null => true
  | .boolean a, .boolean b => a == b
  | .integer a, .integer b => a == b
  | .float a, .float b => a == b
  | .string a, .string b => a == b
  | .array as, .array bs => sameElements as bs
  | .object as, .object bs => sameMembers as bs
  | _, _ => false

/-- Element lists are compared position by position. -/
def sameElements : List Json → List Json → Bool
  | [], [] => true
  | a :: as, b :: bs => same a b && sameElements as bs
  | _, _ => false

/-- Member lists are compared position by position, keys included. -/
def sameMembers : List (String × Json) → List (String × Json) → Bool
  | [], [] => true
  | (k, a) :: as, (l, b) :: bs => k == l && same a b && sameMembers as bs
  | _, _ => false

end

mutual

/-- `same` decides equality. -/
theorem same_iff : ∀ a b : Json, same a b = true ↔ a = b
  | .null, b => by cases b <;> simp [same]
  | .boolean _, b => by cases b <;> simp [same]
  | .integer _, b => by cases b <;> simp [same]
  | .float _, b => by cases b <;> simp [same]
  | .string _, b => by cases b <;> simp [same]
  | .array as, b => by cases b <;> simp [same, sameElements_iff as]
  | .object as, b => by cases b <;> simp [same, sameMembers_iff as]

/-- `sameElements` decides equality of element lists. -/
theorem sameElements_iff : ∀ as bs : List Json, sameElements as bs = true ↔ as = bs
  | [], bs => by cases bs <;> simp [sameElements]
  | a :: as, bs => by
    cases bs with
    | nil => simp [sameElements]
    | cons b bs => simp [sameElements, same_iff a b, sameElements_iff as bs]

/-- `sameMembers` decides equality of member lists. -/
theorem sameMembers_iff :
    ∀ as bs : List (String × Json), sameMembers as bs = true ↔ as = bs
  | [], bs => by cases bs <;> simp [sameMembers]
  | (k, a) :: as, bs => by
    cases bs with
    | nil => simp [sameMembers]
    | cons b bs =>
      obtain ⟨l, b⟩ := b
      simp [sameMembers, same_iff a b, sameMembers_iff as bs, and_assoc]

end

instance : DecidableEq Json := fun a b => decidable_of_iff _ (same_iff a b)

/-! ## Accessors -/

/-- `at(i)`: `type_error` on anything but an array, `out_of_range` past its
end. -/
def atIndex : Json → Nat → Except JsonError Json
  | .array es, i =>
    match es[i]? with
    | some e => .ok e
    | none => .error .outOfRange
  | _, _ => .error .typeError

/-- `at(key)`: `type_error` on anything but an object, `out_of_range` when
the key is missing. -/
def atKey : Json → String → Except JsonError Json
  | .object ms, key =>
    match ms.lookup key with
    | some v => .ok v
    | none => .error .outOfRange
  | _, _ => .error .typeError

/-- `size()`: `null` is empty, a container counts its entries, every other
value is one element. -/
def size : Json → Nat
  | .null => 0
  | .array es => es.length
  | .object ms => ms.length
  | _ => 1

/-- A float truncated toward zero, as `static_cast` to an integer does. -/
def truncate (x : Rat) : Int := x.num.tdiv x.den

/-- The number in a document, as a number: nothing but a JSON number has
one. -/
def numericValue : Json → Option Rat
  | .integer n => some n
  | .float x => some x
  | _ => none

/-- The integer a conversion to an enumeration starts from: numbers only. -/
def toNumber : Json → Except JsonError Int
  | .integer n => .ok n
  | .float x => .ok (truncate x)
  | _ => .error .typeError

/-- The integer a conversion to an integer type starts from: numbers, and
booleans as `0`/`1`. -/
def toArithmetic : Json → Except JsonError Int
  | .boolean b => .ok (if b then 1 else 0)
  | j => j.toNumber

/-- Implicit conversion to `uint8_t`. -/
def getUInt8 (j : Json) : Except JsonError UInt8 := do
  return UInt8.ofInt (← j.toArithmetic)

/-- Implicit conversion to `uint32_t`. -/
def getUInt32 (j : Json) : Except JsonError UInt32 := do
  return UInt32.ofInt (← j.toArithmetic)

/-- Implicit conversion to `int`. -/
def getInt32 (j : Json) : Except JsonError Int32 := do
  return Int32.ofInt (← j.toArithmetic)

/-- Implicit conversion to an enumeration over `uint32_t`. -/
def getEnum32 (j : Json) : Except JsonError UInt32 := do
  return UInt32.ofInt (← j.toNumber)

/-- Implicit conversion to `bool`. -/
def getBool : Json → Except JsonError Bool
  | .boolean b => .ok b
  | _ => .error .typeError

/-- Implicit conversion to `std::string`. -/
def getString : Json → Except JsonError String
  | .string s => .ok s
  | _ => .error .typeError

/-! ## What the accessors answer on the documents the module writes -/

@[simp] theorem atIndex_array (es : List Json) {i : Nat} (h : i < es.length) :
    (Json.array es).atIndex i = .ok es[i] := by
  simp only [atIndex, List.getElem?_eq_getElem h]

@[simp] theorem getBool_boolean (b : Bool) : (Json.boolean b).getBool = .ok b := rfl

/-- An integer already inside `uint8_t` converts to itself. -/
theorem getUInt8_ofNat (n : UInt8) : (Json.integer n.toNat).getUInt8 = .ok n := by
  show Except.ok (UInt8.ofInt (n.toNat : Int)) = Except.ok n
  rw [uint8_ofInt_toNat]

/-- An integer already inside `uint32_t` converts to itself. -/
theorem getUInt32_ofNat (n : UInt32) : (Json.integer n.toNat).getUInt32 = .ok n := by
  show Except.ok (UInt32.ofInt (n.toNat : Int)) = Except.ok n
  rw [uint32_ofInt_toNat]

/-- An enumerator written as its number converts back to itself. -/
theorem getEnum32_ofNat (n : UInt32) : (Json.integer n.toNat).getEnum32 = .ok n :=
  getUInt32_ofNat n

/-- A stored `int` converts back to itself. -/
theorem getInt32_toInt (n : Int32) : (Json.integer n.toInt).getInt32 = .ok n := by
  show Except.ok (Int32.ofInt n.toInt) = Except.ok n
  rw [Int32.ofInt_toInt]

end Json

end IoModule

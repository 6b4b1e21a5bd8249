import IoModule.Json.Text

/-!
# Buffers, return codes and `SerializationUtils`

The conventions every function of the module shares, and on them the error
message codec and the reader of device ids (`SerializationUtils.cpp`,
`memory_management.cpp`).

Conventions:
- A `buffer` is a pointer and a size; `Buffer.null` is the null pointer.
- `allocate` takes `granted`: whether the `new` inside it succeeds. Every
  call is followed by a `memcpy` of the whole buffer, so the contents are an
  argument as well.
- A function that fills a buffer and returns a code is a `Written`: it may
  let an exception out, return `NOT_OK` with nothing written (`none`), or
  return `OK` with the bytes (`some`).
-/

namespace IoModule

/-- Return codes of the fleet protocol headers. -/
inductive ReturnCode where
  | ok
  | notOk
  | conditionNotMet
  | timeoutOccurred
  | contextIncorrect
deriving DecidableEq, Repr

/-- `struct buffer`: a data pointer with its size. -/
inductive Buffer where
  | null
  | data (bytes : Bytes)
deriving DecidableEq, Repr

/-- The bytes a buffer points to; none behind the null pointer. -/
def Buffer.bytes : Buffer → Bytes
  | .null => []
  | .data bytes => bytes

/-- What a function that fills a buffer does: throw, `NOT_OK`, or `OK` with
the bytes. -/
abbrev Written := Except JsonError (Option Bytes)

/-- `allocate`, and the `memcpy` into the new buffer. -/
def allocate (granted : Bool) (contents : Bytes) : Option Bytes :=
  if granted then some contents else none

/-- What a successful `allocate` holds. -/
theorem eq_of_allocate {granted : Bool} {contents b : Bytes}
    (h : allocate granted contents = some b) : b = contents := by
  cases granted with
  | false => cases h
  | true => exact (Option.some.inj h).symm

variable (N : JsonText)

/-- `SerializationUtils::json_to_buffer` -/
def jsonToBuffer (granted : Bool) (j : Json) : Option Bytes :=
  allocate granted (N.dump j)

/-- The key of the error message. -/
def aggregatedButtonPressesKey : String := "aggregatedButtonPresses"

/-- `SerializationUtils::serialize_error` -/
def serializeError (granted : Bool) (aggregatedButtonPresses : Int32) : Written := do
  let j ← Json.null.writeKey aggregatedButtonPressesKey (.integer aggregatedButtonPresses.toInt)
  return jsonToBuffer N granted j

/-- `error_json.at("aggregatedButtonPresses")`, converted to `int`. -/
def storedPresses (errorJson : Json) : Except JsonError Int32 := do
  (← errorJson.atKey aggregatedButtonPressesKey).getInt32

/-- `SerializationUtils::deserialize_error`. Only `parse_error` is handled
around the parser and only `out_of_range` around the access; the sentinel is
`-1`. -/
def deserializeError (errorBuffer : Bytes) : Except JsonError Int32 :=
  match N.parse errorBuffer with
  | .error .parseError => .ok (-1)
  -- a number no `double` holds is `out_of_range` already here
  | .error e => .error e
  | .ok errorJson =>
    match storedPresses errorJson with
    | .ok presses => .ok presses
    | .error .outOfRange => .ok (-1)
    -- `type_error`: the message is no object, or the count no number
    | .error e => .error e

/-- The document `serialize_error` writes. -/
def errorDocument (presses : Int32) : Json :=
  .object [(aggregatedButtonPressesKey, .integer presses.toInt)]

theorem errorDocument_plain (presses : Int32) : (errorDocument presses).plain = true := by
  have hlo := presses.le_toInt
  have hhi := presses.toInt_lt
  have hkey : Json.plainString aggregatedButtonPressesKey = true := by decide +kernel
  simp only [errorDocument, Json.plain, Json.plainMembers, hkey, List.map_cons, List.map_nil,
    List.nodup_cons, List.not_mem_nil, not_false_iff, List.nodup_nil, and_self, decide_true,
    Bool.true_and, Bool.and_true, decide_eq_true_eq]
  omega

/-- `serialize_error` writes its document. -/
theorem serializeError_eq (granted : Bool) (presses : Int32) :
    serializeError N granted presses = .ok (allocate granted (N.dump (errorDocument presses))) :=
  rfl

/-- A stored count is read back as it was stored. -/
theorem deserializeError_dump (hN : N.Lossless) (presses : Int32) :
    deserializeError N (N.dump (errorDocument presses)) = .ok presses := by
  have hread : storedPresses (errorDocument presses) = .ok presses := by
    show (Json.integer presses.toInt).getInt32 = .ok presses
    exact Json.getInt32_toInt presses
  unfold deserializeError
  rw [hN _ (errorDocument_plain presses)]
  simp only [hread]

/-! ## Device ids -/

/-- What a `DeviceID` is made of. -/
structure DeviceId where
  moduleId : Int32
  deviceType : UInt32
  priority : UInt32
  deviceRole : String
  deviceName : String
deriving DecidableEq, Repr

/-- `DeviceID(0, 0, 0, "", "")` -/
def DeviceId.empty : DeviceId := ⟨0, 0, 0, "", ""⟩

/-- A string handed on as a `c_str()`: it ends at its first NUL. -/
def cString (s : String) : String := String.ofList (s.toList.takeWhile fun c => c.val != 0)

/-- The five accesses of `deserialize_device_id`, and the `DeviceID`. -/
def storedDevice (deviceJson : Json) : Except JsonError DeviceId := do
  let moduleId ← (← deviceJson.atKey "module").getInt32
  let deviceType ← (← deviceJson.atKey "device_type").getUInt32
  let priority ← (← deviceJson.atKey "priority").getUInt32
  let deviceRole ← (← deviceJson.atKey "device_role").getString
  let deviceName ← (← deviceJson.atKey "device_name").getString
  return ⟨moduleId, deviceType, priority, cString deviceRole, cString deviceName⟩

/-- `SerializationUtils::deserialize_device_id`, with the handlers of
`deserialize_error`. The sentinel is the empty `DeviceID`. -/
def deserializeDeviceId (deviceBuffer : Bytes) : Except JsonError DeviceId :=
  match N.parse deviceBuffer with
  | .error .parseError => .ok .empty
  | .error e => .error e
  | .ok deviceJson =>
    match storedDevice deviceJson with
    | .ok device => .ok device
    | .error .outOfRange => .ok .empty
    | .error e => .error e

end IoModule

import IoModule.Devices.ErrorAggregation
import IoModule.Json.Conversion
import IoModule.Json.Number

/-!
# Sentinels and exceptions

`deserialize_error` and `deserialize_device_id` report what they cannot read
by a sentinel, -1 and the empty `DeviceID`. They handle `parse_error` and
`out_of_range`: a text that is no JSON and a key that is missing. Any other
wrong shape is a `type_error` in `nlohmann::json`, for which there is no
handler, so it leaves the function as an exception, and `aggregate_error` with
it. (A boolean is no number, but converts to one.)

`sentinel_iff` says on which malformed texts the sentinel is returned:
- an error message: it is no JSON, or an object without the key;
- a device id: it is no JSON, or an object in which the first of the five
  fields that does not convert is missing. Where all five convert, a boolean
  stands for a number; the result is the sentinel if they are all zero.
-/

namespace IoModule

/-! ## Malformed texts -/

/-- The text is an object with a numeric count. -/
def HoldsCount (N : JsonText) (text : Bytes) : Prop :=
  ∃ doc, N.parse text = .ok doc ∧ ∃ x, doc.memberNumber aggregatedButtonPressesKey = some x

/-- The kinds of fields a device id has. -/
inductive FieldKind where
  | number
  | text
deriving DecidableEq, Repr

/-- A value of the kind. -/
def FieldKind.holds : FieldKind → Json → Prop
  | .number, v => ∃ x, v.numericValue = some x
  | .text, v => ∃ s, v = .string s

/-- A value that converts to the kind. -/
def FieldKind.converts : FieldKind → Json → Bool
  | .number, .boolean _ => true
  | .number, .integer _ => true
  | .number, .float _ => true
  | .text, .string _ => true
  | _, _ => false

/-- The fields of a device id, in the order they are accessed. -/
def deviceFields : List (String × FieldKind) :=
  [("module", .number), ("device_type", .number), ("priority", .number), ("device_role", .text),
    ("device_name", .text)]

/-- The text is an object with all fields of a device id, of the right
kinds. -/
def HoldsDevice (N : JsonText) (text : Bytes) : Prop :=
  ∃ doc, N.parse text = .ok doc ∧ ∀ f ∈ deviceFields, ∃ v, doc.atKey f.1 = .ok v ∧ f.2.holds v

/-- The document is an object without the key. -/
def LacksKey (key : String) (doc : Json) : Prop :=
  ∃ ms, doc = .object ms ∧ ms.lookup key = none

/-- The document is an object, and the first field that does not convert is
missing. -/
def LacksField (fields : List (String × FieldKind)) (doc : Json) : Prop :=
  ∃ ms, doc = .object ms ∧ ∃ earlier key kind later, fields = earlier ++ (key, kind) :: later
    ∧ ms.lookup key = none ∧ ∀ f ∈ earlier, ∃ v, ms.lookup f.1 = some v ∧ f.2.converts v

/-- The document converts to nothing but zeros. -/
def ConvertsToZeros (doc : Json) : Prop :=
  (∃ v, doc.atKey "module" = .ok v ∧ v.getInt32 = .ok 0)
    ∧ (∃ v, doc.atKey "device_type" = .ok v ∧ v.getUInt32 = .ok 0)
    ∧ (∃ v, doc.atKey "priority" = .ok v ∧ v.getUInt32 = .ok 0)
    ∧ (∃ s, doc.atKey "device_role" = .ok (.string s) ∧ cString s = "")
    ∧ ∃ s, doc.atKey "device_name" = .ok (.string s) ∧ cString s = ""

/-- All that is wrong with the message is that it is no JSON, or that the
count is missing. -/
def LacksCount (N : JsonText) (text : Bytes) : Prop :=
  ∀ doc, N.parse text = .ok doc → LacksKey aggregatedButtonPressesKey doc

/-- All that is wrong with the device id is that it is no JSON, or that a field
is missing; or it comes to zeros. -/
def LacksDevice (N : JsonText) (text : Bytes) : Prop :=
  ∀ doc, N.parse text = .ok doc → LacksField deviceFields doc ∨ ConvertsToZeros doc

variable {N : JsonText}

/-- A document that parses and has none of the keys is malformed either way. -/
theorem not_holds_of_parse {text : Bytes} {doc : Json} (hparse : N.parse text = .ok doc)
    (hkey : ∀ key v, doc.atKey key ≠ .ok v) : ¬ HoldsCount N text ∧ ¬ HoldsDevice N text := by
  refine ⟨fun h => ?_, fun h => ?_⟩
  · obtain ⟨doc', hdoc', x, hx⟩ := h
    cases hparse.symm.trans hdoc'
    obtain ⟨v, hv, -⟩ := Json.memberNumber_eq_some.mp hx
    exact hkey _ v hv
  · obtain ⟨doc', hdoc', hfields⟩ := h
    cases hparse.symm.trans hdoc'
    obtain ⟨v, hv, -⟩ := hfields _ List.mem_cons_self
    exact hkey _ v hv

/-! ## Error messages -/

/-- What a document without a numeric count reads as: -1 if the key is
missing, else an exception or the number of a boolean. -/
theorem storedPresses_cases {doc : Json}
    (h : ¬ ∃ x, doc.memberNumber aggregatedButtonPressesKey = some x) :
    (LacksKey aggregatedButtonPressesKey doc ∧ storedPresses doc = .error .outOfRange)
      ∨ (¬ LacksKey aggregatedButtonPressesKey doc ∧ (storedPresses doc = .error .typeError
        ∨ ∃ b : Bool, storedPresses doc = .ok (if b then 1 else 0))) := by
  have hscalar : (∀ ms, doc ≠ .object ms) → ¬ LacksKey aggregatedButtonPressesKey doc := by
    intro hother hlacks
    obtain ⟨ms, hms, -⟩ := hlacks
    exact hother ms hms
  cases doc with
  | object ms =>
    cases hv : ms.lookup aggregatedButtonPressesKey with
    | none =>
      refine Or.inl ⟨⟨ms, rfl, hv⟩, ?_⟩
      simp only [storedPresses, Json.atKey, hv]
      rfl
    | some v =>
      have hat : (Json.object ms).atKey aggregatedButtonPressesKey = .ok v := by
        simp only [Json.atKey, hv]
      refine Or.inr ⟨fun hlacks => ?_, ?_⟩
      · obtain ⟨ms', hms, hnone⟩ := hlacks
        cases hms
        cases hv.symm.trans hnone
      · unfold storedPresses
        rw [hat, ok_bind]
        cases v with
        | boolean b => exact Or.inr ⟨b, by cases b <;> rfl⟩
        | integer n => exact absurd ⟨_, Json.memberNumber_eq_some.mpr ⟨_, hat, rfl⟩⟩ h
        | float x => exact absurd ⟨_, Json.memberNumber_eq_some.mpr ⟨_, hat, rfl⟩⟩ h
        | _ => exact Or.inl rfl
  | _ => exact Or.inr ⟨hscalar fun _ => by simp, Or.inl rfl⟩

/-- So a malformed message is answered by the sentinel, an exception, or the
number of a boolean. -/
theorem deserializeError_malformed {text : Bytes} (hhandled : N.Handled text)
    (h : ¬ HoldsCount N text) :
    (LacksCount N text ∧ deserializeError N text = .ok (-1))
      ∨ (¬ LacksCount N text ∧ (deserializeError N text = .error .typeError
        ∨ ∃ b : Bool, deserializeError N text = .ok (if b then 1 else 0))) := by
  unfold LacksCount
  cases hparse : N.parse text with
  | error e =>
    rw [hhandled e hparse] at hparse
    exact Or.inl ⟨fun _ hdoc => (nomatch hdoc), by simp only [deserializeError, hparse]⟩
  | ok doc =>
    simp only [Except.ok.injEq, forall_eq', deserializeError, hparse]
    have hcount : ¬ ∃ x, doc.memberNumber aggregatedButtonPressesKey = some x :=
      fun hex => h ⟨doc, hparse, hex⟩
    rcases storedPresses_cases hcount with ⟨hlacks, hread⟩ | ⟨hhas, hread | ⟨b, hread⟩⟩
    · exact Or.inl ⟨hlacks, by rw [hread]⟩
    · exact Or.inr ⟨hhas, Or.inl (by rw [hread])⟩
    · exact Or.inr ⟨hhas, Or.inr ⟨b, by rw [hread]⟩⟩

/-- What `aggregate_error` makes of a message, on a valid status. -/
theorem aggregateError_of_valid {deviceType : UInt32} (ht : CountsPresses deviceType) {b : Buffer}
    (hb : statusDataValid N b deviceType = .ok .ok) (text : Bytes) :
    (∀ e, deserializeError N text = .error e →
        aggregateError N true (.data text) b deviceType = .error e)
      ∧ ∀ count, deserializeError N text = .ok count →
        (aggregateError N true (.data text) b deviceType = .ok none ↔ count < 0) := by
  obtain ⟨I, O, changed, hacts, herr⟩ := ht.actsAs (N := N)
  obtain ⟨s, hs⟩ := (hacts.valid_iff b).mp hb
  rw [herr]
  unfold Device.aggregateError
  constructor
  · intro e he
    simp only [he]
    rfl
  · intro count hcount
    simp only [hcount, ok_bind, Device.readStatus_of_decode hs]
    by_cases hneg : count < 0
    · rw [if_pos (Or.inl hneg)]
      exact iff_of_true rfl hneg
    · rw [if_neg (by simp [hneg]), serializeError_eq]
      exact iff_of_false (fun h => nomatch h) hneg

/-! ## Device ids -/

/-- The accesses of `deserialize_device_id`, without their values. -/
def checkFields (doc : Json) : List (String × FieldKind) → Except JsonError Unit
  | [] => .ok ()
  | (key, kind) :: fields => do
    let v ← doc.atKey key
    if kind.converts v then checkFields doc fields else .error .typeError

/-- Which conversions to an integer type throw. -/
theorem getInteger_cases {α : Type} (ofInt : Int → α) (v : Json) :
    (FieldKind.number.converts v = true ∧ ∃ n, (do return ofInt (← v.toArithmetic)) = .ok n)
      ∨ (FieldKind.number.converts v = false
        ∧ (do return ofInt (← v.toArithmetic)) = .error .typeError) := by
  cases v with
  | boolean b => exact Or.inl ⟨rfl, _, rfl⟩
  | integer n => exact Or.inl ⟨rfl, _, rfl⟩
  | float x => exact Or.inl ⟨rfl, _, rfl⟩
  | _ => exact Or.inr ⟨rfl, rfl⟩

/-- And to a string. -/
theorem getString_cases (v : Json) :
    (FieldKind.text.converts v = true ∧ ∃ s, v.getString = .ok s)
      ∨ (FieldKind.text.converts v = false ∧ v.getString = .error .typeError) := by
  cases v with
  | string s => exact Or.inl ⟨rfl, _, rfl⟩
  | _ => exact Or.inr ⟨rfl, rfl⟩

theorem getString_ok_iff {v : Json} {s : String} : v.getString = .ok s ↔ v = .string s := by
  cases v <;> simp [Json.getString]

/-- One access in front of others: it throws as `checkFields` does, or goes
through. -/
theorem access_cases {α : Type} {kind : FieldKind} {convert : Json → Except JsonError α}
    (hconvert : ∀ v, (kind.converts v = true ∧ ∃ x, convert v = .ok x)
      ∨ (kind.converts v = false ∧ convert v = .error .typeError))
    (doc : Json) (key : String) (fields : List (String × FieldKind))
    {rest : α → Except JsonError DeviceId}
    (hrest : ∀ x, (rest x).map (fun _ => ()) = checkFields doc fields) :
    (doc.atKey key >>= fun v => convert v >>= rest).map (fun _ => ())
      = checkFields doc ((key, kind) :: fields) := by
  unfold checkFields
  cases doc.atKey key with
  | error e => rfl
  | ok v =>
    rw [ok_bind, ok_bind]
    rcases hconvert v with ⟨hyes, x, hx⟩ | ⟨hno, hx⟩
    · rw [hx, ok_bind, if_pos hyes]
      exact hrest x
    · rw [hx, hno]
      rfl

/-- `storedDevice` throws as its accesses do. -/
theorem storedDevice_map (doc : Json) :
    (storedDevice doc).map (fun _ => ()) = checkFields doc deviceFields := by
  refine access_cases (getInteger_cases Int32.ofInt) doc "module" _ fun moduleId => ?_
  refine access_cases (getInteger_cases UInt32.ofInt) doc "device_type" _ fun deviceType => ?_
  refine access_cases (getInteger_cases UInt32.ofInt) doc "priority" _ fun priority => ?_
  refine access_cases getString_cases doc "device_role" _ fun deviceRole => ?_
  refine access_cases getString_cases doc "device_name" _ fun deviceName => ?_
  rfl

/-- In an object, the first field that does not convert is missing if it is the
first of all, or if that one converts and it is so for the others. -/
theorem lacksField_cons_iff {key : String} {kind : FieldKind} {fields : List (String × FieldKind)}
    {ms : List (String × Json)} :
    LacksField ((key, kind) :: fields) (.object ms)
      ↔ ms.lookup key = none
        ∨ ∃ v, ms.lookup key = some v ∧ kind.converts v ∧ LacksField fields (.object ms) := by
  constructor
  · intro h
    obtain ⟨ms', hms, earlier, key', kind', later, hfields, hnone, hearlier⟩ := h
    cases hms
    cases earlier with
    | nil =>
      cases hfields
      exact Or.inl hnone
    | cons f earlier =>
      rw [List.cons_append, List.cons.injEq] at hfields
      obtain ⟨rfl, hfields⟩ := hfields
      obtain ⟨v, hv, hconverts⟩ := hearlier (key, kind) List.mem_cons_self
      exact Or.inr ⟨v, hv, hconverts, ms, rfl, earlier, key', kind', later, hfields, hnone,
        fun f hf => hearlier f (List.mem_cons_of_mem _ hf)⟩
  · intro h
    rcases h with hnone | ⟨v, hv, hconverts, hlacks⟩
    · exact ⟨ms, rfl, [], key, kind, fields, rfl, hnone, fun _ h => absurd h List.not_mem_nil⟩
    · obtain ⟨ms', hms, earlier, key', kind', later, hfields, hnone, hearlier⟩ := hlacks
      cases hms
      refine ⟨ms, rfl, (key, kind) :: earlier, key', kind', later, ?_, hnone, ?_⟩
      · rw [hfields, List.cons_append]
      · exact List.forall_mem_cons.mpr ⟨⟨v, hv, hconverts⟩, hearlier⟩

/-- The accesses throw `out_of_range` exactly at a missing field, all before
it being fine. -/
theorem checkFields_outOfRange_iff (doc : Json) :
    ∀ fields, checkFields doc fields = .error .outOfRange ↔ LacksField fields doc := by
  intro fields
  induction fields with
  | nil =>
    refine iff_of_false (fun h => nomatch h) fun h => ?_
    obtain ⟨ms, -, earlier, key, kind, later, hfields, -⟩ := h
    simp at hfields
  | cons f fields ih =>
    obtain ⟨key, kind⟩ := f
    cases doc with
    | object ms =>
      rw [lacksField_cons_iff, ← ih, checkFields]
      cases hv : ms.lookup key with
      | none =>
        refine iff_of_true ?_ (Or.inl rfl)
        simp only [Json.atKey, hv]
        rfl
      | some v =>
        simp only [Json.atKey, hv, ok_bind]
        by_cases hconverts : kind.converts v = true
        · simp [hconverts]
        · simp [hconverts]
    | _ =>
      -- nothing but an object has members to lack
      refine iff_of_false (fun h => nomatch h) fun h => ?_
      obtain ⟨ms, hms, -⟩ := h
      cases hms

/-- The accesses all go through and give zeros. -/
theorem storedDevice_empty_iff (doc : Json) :
    storedDevice doc = .ok .empty ↔ ConvertsToZeros doc := by
  constructor
  · intro h
    obtain ⟨v₁, hv₁, h⟩ := bind_ok_iff.mp h
    obtain ⟨x₁, hx₁, h⟩ := bind_ok_iff.mp h
    obtain ⟨v₂, hv₂, h⟩ := bind_ok_iff.mp h
    obtain ⟨x₂, hx₂, h⟩ := bind_ok_iff.mp h
    obtain ⟨v₃, hv₃, h⟩ := bind_ok_iff.mp h
    obtain ⟨x₃, hx₃, h⟩ := bind_ok_iff.mp h
    obtain ⟨v₄, hv₄, h⟩ := bind_ok_iff.mp h
    obtain ⟨x₄, hx₄, h⟩ := bind_ok_iff.mp h
    obtain ⟨v₅, hv₅, h⟩ := bind_ok_iff.mp h
    obtain ⟨x₅, hx₅, h⟩ := bind_ok_iff.mp h
    have hid : (⟨x₁, x₂, x₃, cString x₄, cString x₅⟩ : DeviceId) = .empty := Except.ok.inj h
    unfold DeviceId.empty at hid
    injection hid with h₁ h₂ h₃ h₄ h₅
    rw [h₁] at hx₁
    rw [h₂] at hx₂
    rw [h₃] at hx₃
    rw [getString_ok_iff] at hx₄ hx₅
    rw [hx₄] at hv₄
    rw [hx₅] at hv₅
    exact ⟨⟨v₁, hv₁, hx₁⟩, ⟨v₂, hv₂, hx₂⟩, ⟨v₃, hv₃, hx₃⟩, ⟨x₄, hv₄, h₄⟩, x₅, hv₅, h₅⟩
  · intro h
    obtain ⟨⟨v₁, hv₁, hx₁⟩, ⟨v₂, hv₂, hx₂⟩, ⟨v₃, hv₃, hx₃⟩, hrole, hname⟩ := h
    obtain ⟨role, hv₄, hrole⟩ := hrole
    obtain ⟨name, hv₅, hname⟩ := hname
    have hrole' : (Json.string role).getString = .ok role := rfl
    have hname' : (Json.string name).getString = .ok name := rfl
    unfold storedDevice
    simp only [hv₁, hx₁, hv₂, hx₂, hv₃, hx₃, hv₄, hv₅, hrole', hname', ok_bind, hrole, hname]
    rfl

/-- A device id: the sentinel if a field is missing first, or if everything
there converts to zero. -/
theorem deserializeDeviceId_empty_iff {text : Bytes} (hhandled : N.Handled text) :
    deserializeDeviceId N text = .ok .empty ↔ LacksDevice N text := by
  unfold LacksDevice
  cases hparse : N.parse text with
  | error e =>
    rw [hhandled e hparse] at hparse
    refine iff_of_true ?_ fun _ hdoc => nomatch hdoc
    simp only [deserializeDeviceId, hparse]
  | ok doc =>
    simp only [Except.ok.injEq, forall_eq', deserializeDeviceId, hparse]
    rw [← checkFields_outOfRange_iff, ← storedDevice_empty_iff, ← storedDevice_map]
    cases storedDevice doc with
    | ok device => simp [Except.map]
    | error e => cases e <;> simp [Except.map]

/-- **When a malformed text is reported by its sentinel.** For every text on
which the parser throws nothing but `parse_error`: a malformed error message
reads as -1 exactly if it is no JSON or an object without the key, and a
malformed device id as the empty one exactly if it is no JSON, lacks the first
field that does not convert, or converts to zeros. On a valid status of an
Opta, Mega or Uno, `aggregate_error` answers a malformed message by `NOT_OK`
exactly if it reads as -1. -/
theorem sentinel_iff (N : JsonText) (text : Bytes) (hhandled : N.Handled text) :
    (¬ HoldsCount N text → (deserializeError N text = .ok (-1) ↔ LacksCount N text))
    ∧ (¬ HoldsDevice N text → (deserializeDeviceId N text = .ok .empty ↔ LacksDevice N text))
    ∧ (¬ HoldsCount N text → ∀ (deviceType : UInt32) (b : Buffer), CountsPresses deviceType →
      statusDataValid N b deviceType = .ok .ok →
        (aggregateError N true (.data text) b deviceType = .ok none ↔ LacksCount N text)) := by
  refine ⟨fun h => ?_, fun _ => deserializeDeviceId_empty_iff hhandled,
    fun h deviceType b ht hb => ?_⟩
  · rcases deserializeError_malformed hhandled h with ⟨hcond, hread⟩ | ⟨hcond, hread | ⟨p, hread⟩⟩
    · exact iff_of_true hread hcond
    · exact iff_of_false (by rw [hread]; exact fun h => nomatch h) hcond
    · refine iff_of_false ?_ hcond
      rw [hread]
      cases p <;> decide
  · obtain ⟨hthrows, hcounts⟩ := aggregateError_of_valid ht hb text
    rcases deserializeError_malformed hhandled h with ⟨hcond, hread⟩ | ⟨hcond, hread | ⟨p, hread⟩⟩
    · exact iff_of_true ((hcounts _ hread).mpr (by decide)) hcond
    · exact iff_of_false (by rw [hthrows _ hread]; exact fun h => nomatch h) hcond
    · refine iff_of_false (fun hnone => ?_) hcond
      have hneg := (hcounts _ hread).mp hnone
      cases p <;> exact absurd hneg (by decide)

/-- An empty object as message and as device id, with an Opta at rest. -/
theorem sentinel_iff_empty :
    (deserializeError .compact (Json.ascii "\x7b\x7d") = .ok (-1)
      ↔ LacksCount .compact (Json.ascii "\x7b\x7d"))
    ∧ (deserializeDeviceId .compact (Json.ascii "\x7b\x7d") = .ok .empty
      ↔ LacksDevice .compact (Json.ascii "\x7b\x7d"))
    ∧ (aggregateError .compact true (.data (Json.ascii "\x7b\x7d"))
        (Device.restingStatus .compact 6 4 0) 1 = .ok none
      ↔ LacksCount .compact (Json.ascii "\x7b\x7d")) := by
  have hparse : JsonText.compact.parse (Json.ascii "\x7b\x7d") = .ok (.object []) := by
    decide +kernel
  obtain ⟨hcount, hdevice⟩ := not_holds_of_parse hparse fun _ _ h => nomatch h
  obtain ⟨herror, hid, haggregate⟩ := sentinel_iff .compact (Json.ascii "\x7b\x7d")
    fun e he => by cases hparse.symm.trans he
  exact ⟨herror hcount, hid hdevice, haggregate hcount 1 _ (Or.inl rfl) (by decide +kernel)⟩

/-- **An array instead of an object** is malformed either way, and lets
`type_error` out of all three functions. -/
theorem array_escapes :
    ¬ HoldsCount .compact (Json.ascii "[]") ∧ ¬ HoldsDevice .compact (Json.ascii "[]")
      ∧ JsonText.compact.Handled (Json.ascii "[]")
      ∧ statusDataValid .compact (Device.restingStatus .compact 6 4 0) 1 = .ok .ok
      ∧ deserializeError .compact (Json.ascii "[]") = .error .typeError
      ∧ deserializeDeviceId .compact (Json.ascii "[]") = .error .typeError
      ∧ aggregateError .compact true (.data (Json.ascii "[]"))
        (Device.restingStatus .compact 6 4 0) 1 = .error .typeError := by
  have hparse : JsonText.compact.parse (Json.ascii "[]") = .ok (.array []) := by decide +kernel
  obtain ⟨hcount, hdevice⟩ := not_holds_of_parse hparse fun _ _ h => nomatch h
  refine ⟨hcount, hdevice, fun e he => ?_, by decide +kernel, by decide +kernel,
    by decide +kernel, by decide +kernel⟩
  cases hparse.symm.trans he

end IoModule

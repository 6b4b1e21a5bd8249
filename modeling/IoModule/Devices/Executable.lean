import IoModule.Utils.ListedActions
import IoModule.Devices.FirstCommand

/-!
# Can a valid command be executed?

An action names an output and what to do with it, and the documentation knows
three things to do. The validator of every device is the same decoder of
commands, which knows nothing about a device: any number is a `uint8_t` after
its conversion, and any number a value of the enumeration.

`ExecutableCommand` is what a device needs from an accepted command.
`command_executable_iff` says what it takes (`ListsExecutable`): every number
in the document is an output of the device, and every type is one of the three
after the conversion. `command_not_executable` is a valid command for an Opta
that asks for output 9.
-/

namespace IoModule

variable {O : Nat}

/-- One of `SET_OFF`, `SET_ON` and `TOGGLE`. -/
def ActionType.Defined (type : ActionType) : Prop :=
  type = .setOff ∨ type = .setOn ∨ type = .toggle

/-- A device with `O` outputs can execute the action. -/
structure OutputAction.Executable (O : Nat) (a : OutputAction) : Prop where
  output : DeviceStatus.HasOutput O a.outputNumber
  type : ActionType.Defined a.actionType

namespace Json

/-- The number lies between 1 and `O`. -/
def NamesOutput (O : Nat) (number : Option Rat) : Prop :=
  ∃ x, number = some x ∧ 1 ≤ x ∧ x ≤ (O : Rat)

/-- The number is 0, 1 or 2 after the conversion to `uint32_t`. -/
def NamesType (number : Option Rat) : Prop :=
  ∃ x, number = some x ∧ truncate x % 2 ^ 32 ≤ 2

/-- Every action a document lists has a number of the device and a type. -/
def ListsExecutable (O : Nat) (doc : Json) : Prop :=
  ∀ p ∈ doc.listedActions, NamesOutput O p.1 ∧ NamesType p.2

end Json

/-- The actions of a command are executable, and their numbers in the document
are numbers of the device. -/
structure ExecutableCommand (O : Nat) (doc : Json) (c : DeviceCommand) : Prop where
  actions : ∀ a ∈ c.outputActionList, a.Executable O
  numbers : ∀ p ∈ doc.listedActions, Json.NamesOutput O p.1

/-! ## One action -/

/-- An output of the device is still one after the conversion. -/
theorem hasOutput_of_read (hO : O ≤ 255) {v : Json} {number : UInt8}
    (hread : v.getUInt8 = .ok number) (h : Json.NamesOutput O v.numericValue) :
    DeviceStatus.HasOutput O number := by
  obtain ⟨x, hx, hlo, hhi⟩ := h
  have hone : ((1 : Nat) : Rat) ≤ x := hlo
  obtain ⟨hmin, hmax⟩ := Json.truncate_mem hone hhi
  obtain ⟨z, hz, hnumber⟩ := bind_ok_iff.mp hread
  rw [Json.toArithmetic_of_number hx, Json.toNumber_of_numericValue hx] at hz
  cases hz
  have hvalue : (number.toNat : Int) = Json.truncate x % 2 ^ 8 := by
    rw [← Except.ok.inj hnumber, toNat_uint8_ofInt]
  rw [Int.emod_eq_of_lt (by omega) (by omega)] at hvalue
  unfold DeviceStatus.HasOutput
  omega

/-- The type is defined exactly if the conversion makes it one of the three. -/
theorem defined_iff_of_read {v : Json} {type : ActionType} (hread : v.getEnum32 = .ok type) :
    ActionType.Defined type ↔ Json.NamesType v.numericValue := by
  obtain ⟨z, hz, htype⟩ := bind_ok_iff.mp hread
  obtain ⟨x, hx⟩ := Json.numericValue_of_toNumber hz
  rw [Json.toNumber_of_numericValue hx] at hz
  cases hz
  have hvalue : ((UInt32.toNat type : Nat) : Int) = Json.truncate x % 2 ^ 32 := by
    rw [← Except.ok.inj htype, toNat_uint32_ofInt]
  have hnames : Json.NamesType v.numericValue ↔ UInt32.toNat type ≤ 2 := by
    simp only [Json.NamesType, hx, Option.some.injEq, exists_eq_left']
    omega
  rw [hnames]
  unfold ActionType.Defined ActionType.setOff ActionType.setOn ActionType.toggle
  rw [← UInt32.toNat_inj, ← UInt32.toNat_inj, ← UInt32.toNat_inj]
  show UInt32.toNat type = 0 ∨ UInt32.toNat type = 1 ∨ UInt32.toNat type = 2 ↔ _
  omega

/-- An element whose number is one of the device becomes an executable action
exactly if its type is one of the three. -/
theorem executable_iff_of_read (hO : O ≤ 255) {e : Json} {a : OutputAction}
    (hread : DeviceCommand.readAction e = .ok a)
    (hnumber : Json.NamesOutput O (e.memberNumber "outNum")) :
    a.Executable O ↔ Json.NamesType (e.memberNumber "actType") := by
  obtain ⟨v, w, hv, hnum, hw, htype⟩ := DeviceCommand.readAction_ok hread
  rw [Json.memberNumber_of_atKey hv] at hnumber
  rw [Json.memberNumber_of_atKey hw, ← defined_iff_of_read htype]
  constructor
  · intro h
    exact h.type
  · intro h
    exact ⟨hasOutput_of_read hO hnum hnumber, h⟩

/-! ## A command -/

/-- Element by element. -/
theorem executable_iff_of_forall₂ (hO : O ≤ 255) : ∀ {es : List Json} {as : List OutputAction},
    List.Forall₂ (fun e a => DeviceCommand.readAction e = .ok a) es as →
    (ExecutableCommand O (.array es) ⟨as⟩ ↔ (Json.array es).ListsExecutable O)
  | [], [], _ => iff_of_true ⟨nofun, nofun⟩ nofun
  | e :: es, a :: as, .cons h hs => by
    have hrest := executable_iff_of_forall₂ hO hs
    constructor
    · intro hexec
      have htail : ExecutableCommand O (.array es) ⟨as⟩ :=
        ⟨fun b hb => hexec.actions b (List.mem_cons_of_mem a hb),
          fun p hp => hexec.numbers p (List.mem_cons_of_mem _ hp)⟩
      have hnumber := hexec.numbers _ (List.mem_cons_self ..)
      have htype := (executable_iff_of_read hO h hnumber).mp
        (hexec.actions a (List.mem_cons_self ..))
      intro p hp
      rcases List.mem_cons.mp hp with rfl | hp
      · exact ⟨hnumber, htype⟩
      · exact hrest.mp htail p hp
    · intro hlist
      have htail := hrest.mpr fun p hp => hlist p (List.mem_cons_of_mem _ hp)
      obtain ⟨hnumber, htype⟩ := hlist _ (List.mem_cons_self ..)
      have hexec := (executable_iff_of_read hO h hnumber).mpr htype
      exact ⟨List.forall_mem_cons.mpr ⟨hexec, htail.actions⟩,
        List.forall_mem_cons.mpr ⟨hnumber, htail.numbers⟩⟩

/-- **What is read is executable exactly if the document lists it so.** -/
theorem executableCommand_iff (hO : O ≤ 255) {doc : Json} {as : List OutputAction}
    (h : DeviceCommand.readActions doc = .ok as) :
    ExecutableCommand O doc ⟨as⟩ ↔ doc.ListsExecutable O := by
  rcases (DeviceCommand.readActions_ok_iff doc as).mp h with ⟨es, rfl, hes⟩ | ⟨rfl | rfl, rfl⟩
  · exact executable_iff_of_forall₂ hO (mapM_ok_iff.mp hes)
  -- `null` and the empty object list nothing
  · exact iff_of_true ⟨nofun, nofun⟩ nofun
  · exact iff_of_true ⟨nofun, nofun⟩ nofun

variable {N : JsonText}

/-- A valid command decodes, whatever the device is. -/
theorem decodeCommand_of_valid {deviceType : UInt32} (h : isDeviceTypeSupported deviceType = .ok)
    {b : Buffer} (hvalid : commandDataValid N b deviceType = .ok .ok) :
    ∃ doc as, N.parse b.bytes = .ok doc ∧ DeviceCommand.readActions doc = .ok as
      ∧ DeviceCommand.fresh.deserializeFromBuffer N b = (.ok .ok, ⟨as⟩) := by
  rw [supported_commandDataValid h] at hvalid
  have hdes : DeviceCommand.fresh.deserializeFromBuffer N b
      = (.ok .ok, (DeviceCommand.fresh.deserializeFromBuffer N b).2) := Prod.ext hvalid rfl
  obtain ⟨doc, as, hdoc, has, hc⟩ := (DeviceCommand.deserialize_ok_iff N _ _ b).mp hdes
  exact ⟨doc, as, hdoc, has, hdes.trans (Prod.ext rfl hc)⟩

/-- **When a valid command can be executed.** Every command a supported
device's validator accepts decodes. All its actions name an output of the
device and a defined type exactly if every number of the document is one from
1 to the device's outputs and every type is one of the three. -/
theorem command_executable_iff (N : JsonText) (deviceType : UInt32)
    (hsupported : isDeviceTypeSupported deviceType = .ok) (b : Buffer)
    (hvalid : commandDataValid N b deviceType = .ok .ok) :
    ∃ doc c, N.parse b.bytes = .ok doc
      ∧ DeviceCommand.fresh.deserializeFromBuffer N b = (.ok .ok, c)
      ∧ (ExecutableCommand (outputsCount deviceType) doc c
        ↔ doc.ListsExecutable (outputsCount deviceType)) := by
  obtain ⟨doc, as, hdoc, has, hc⟩ := decodeCommand_of_valid hsupported hvalid
  obtain ⟨changed, hacts⟩ := supported_actsAs (N := N) hsupported
  exact ⟨doc, _, hdoc, hc, executableCommand_iff hacts.outputs_le has⟩

/-- An Opta asked to switch its fourth output. -/
theorem command_executable_iff_opta :
    ∃ doc c, JsonText.compact.parse
          (Json.ascii "[\x7b\"outNum\":4,\"actType\":2\x7d]") = .ok doc
      ∧ DeviceCommand.fresh.deserializeFromBuffer .compact
          (.data (Json.ascii "[\x7b\"outNum\":4,\"actType\":2\x7d]")) = (.ok .ok, c)
      ∧ (ExecutableCommand (outputsCount 1) doc c ↔ doc.ListsExecutable (outputsCount 1)) :=
  command_executable_iff .compact 1 rfl
    (.data (Json.ascii "[\x7b\"outNum\":4,\"actType\":2\x7d]")) (by decide +kernel)

/-- **A valid command nobody can execute.** An Opta accepts action 7 on its
output 9. -/
theorem command_not_executable :
    commandDataValid .compact
        (.data (Json.ascii "[\x7b\"outNum\":9,\"actType\":7\x7d]")) 1 = .ok .ok
      ∧ DeviceCommand.fresh.deserializeFromBuffer .compact
          (.data (Json.ascii "[\x7b\"outNum\":9,\"actType\":7\x7d]")) = (.ok .ok, ⟨[⟨9, 7⟩]⟩)
      ∧ ¬ DeviceStatus.HasOutput (outputsCount 1) 9
      ∧ ¬ ActionType.Defined 7
      ∧ ∀ doc, ¬ ExecutableCommand (outputsCount 1) doc ⟨[⟨9, 7⟩]⟩ := by
  have hnumber : ¬ DeviceStatus.HasOutput (outputsCount 1) 9 := by decide
  have htype : ¬ ActionType.Defined 7 := by
    unfold ActionType.Defined
    decide
  refine ⟨by decide +kernel, by decide +kernel, hnumber, htype, fun doc h => ?_⟩
  exact hnumber (h.actions _ (List.mem_cons_self ..)).output

end IoModule

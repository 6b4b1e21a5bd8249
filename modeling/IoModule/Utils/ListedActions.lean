import IoModule.Json.Conversion
import IoModule.Utils.DeviceCommand

/-!
# What a command document lists

`listedActions` is what a command document says before it is decoded: the
numbers its actions hold, as numbers. Decoding converts them to `uint8_t` and
to an enumeration over `uint32_t`, and an encoded command lists the numbers
of its actions.

So a document that is decoded and encoded again lists the same actions exactly
when every number it held was one of its type (`listedActions_iff`).
-/

namespace IoModule

namespace Json

/-- The actions a command document lists: their output numbers and types. -/
def listedActions : Json → List (Option Rat × Option Rat)
  | .array es => es.map fun e => (e.memberNumber "outNum", e.memberNumber "actType")
  | _ => []

/-- Every output number is a `uint8_t` and every action type a
`uint32_t`. -/
def FitsActions (doc : Json) : Prop :=
  ∀ p ∈ doc.listedActions,
    (∃ n : UInt8, p.1 = some (n.toNat : Rat)) ∧ ∃ n : UInt32, p.2 = some (n.toNat : Rat)

end Json

namespace DeviceCommand

/-- What an action says. -/
def actionNumbers (a : OutputAction) : Option Rat × Option Rat :=
  (some (a.outputNumber.toNat : Rat), some (UInt32.toNat a.actionType : Rat))

/-- What a successful round has read: both members, converted. -/
theorem readAction_ok {e : Json} {a : OutputAction} (h : readAction e = .ok a) :
    ∃ v w, e.atKey "outNum" = .ok v ∧ v.getUInt8 = .ok a.outputNumber
      ∧ e.atKey "actType" = .ok w ∧ w.getEnum32 = .ok a.actionType := by
  obtain ⟨v, hv, h⟩ := bind_ok_iff.mp h
  obtain ⟨number, hnum, h⟩ := bind_ok_iff.mp h
  obtain ⟨w, hw, h⟩ := bind_ok_iff.mp h
  obtain ⟨type, htype, h⟩ := bind_ok_iff.mp h
  cases h
  exact ⟨v, w, hv, hnum, hw, htype⟩

/-- An action says what its element said exactly when the element's numbers
were of the action's types. -/
theorem readAction_keeps_iff {e : Json} {a : OutputAction} (h : readAction e = .ok a) :
    (e.memberNumber "outNum", e.memberNumber "actType") = actionNumbers a
      ↔ (∃ n : UInt8, e.memberNumber "outNum" = some (n.toNat : Rat))
        ∧ ∃ n : UInt32, e.memberNumber "actType" = some (n.toNat : Rat) := by
  obtain ⟨v, w, hv, hnum, hw, htype⟩ := readAction_ok h
  rw [Json.memberNumber_of_atKey hv, Json.memberNumber_of_atKey hw, actionNumbers,
    Prod.mk.injEq, Json.getUInt8_keeps_iff hnum, Json.getEnum32_keeps_iff htype]

/-- Element by element. -/
theorem map_actionNumbers_iff : ∀ {es : List Json} {as : List OutputAction},
    List.Forall₂ (fun e a => readAction e = .ok a) es as →
    (as.map actionNumbers = (Json.array es).listedActions ↔ (Json.array es).FitsActions)
  | [], [], _ => iff_of_true rfl fun _ h => absurd h List.not_mem_nil
  | e :: es, a :: as, .cons h hs => by
    have hrest := map_actionNumbers_iff hs
    unfold Json.FitsActions at hrest ⊢
    simp only [Json.listedActions, List.map_cons, List.cons.injEq, List.forall_mem_cons] at hrest ⊢
    rw [hrest, eq_comm, readAction_keeps_iff h]

/-- An encoded action says what the action says. -/
theorem memberNumbers_actionObject (a : OutputAction) :
    ((actionObject a).memberNumber "outNum", (actionObject a).memberNumber "actType")
      = actionNumbers a := by
  have hnum : (actionObject a).memberNumber "outNum"
      = some (((a.outputNumber.toNat : Int) : Rat)) := rfl
  have htype : (actionObject a).memberNumber "actType"
      = some (((UInt32.toNat a.actionType : Int) : Rat)) := rfl
  rw [hnum, htype, Rat.intCast_natCast, Rat.intCast_natCast]
  rfl

/-- The document of a command lists its actions. -/
theorem listedActions_commandDocument (c : DeviceCommand) :
    c.commandDocument.listedActions = c.outputActionList.map actionNumbers := by
  unfold commandDocument
  cases c.outputActionList with
  | nil => rfl
  | cons a as =>
    have hdoc : Json.slots ((a :: as).map actionObject) = .array ((a :: as).map actionObject) := rfl
    rw [hdoc, Json.listedActions, List.map_map]
    exact List.map_congr_left fun b _ => memberNumbers_actionObject b

/-- **Decoded and encoded again**, a document lists the same actions exactly
when its numbers fit. -/
theorem listedActions_iff {doc : Json} {as : List OutputAction} (h : readActions doc = .ok as) :
    (⟨as⟩ : DeviceCommand).commandDocument.listedActions = doc.listedActions ↔ doc.FitsActions := by
  rw [listedActions_commandDocument]
  rcases (readActions_ok_iff doc as).mp h with ⟨es, rfl, hes⟩ | ⟨rfl | rfl, rfl⟩
  · exact map_actionNumbers_iff (mapM_ok_iff.mp hes)
  -- `null` and the empty object list nothing, and the empty command is `null`
  · exact iff_of_true rfl fun _ h => absurd h List.not_mem_nil
  · exact iff_of_true rfl fun _ h => absurd h List.not_mem_nil

end DeviceCommand

end IoModule

import IoModule.Utils.StatusSizes

/-!
# From the setters to the other side

A program that builds a status calls the setters in any order and as often as
it likes, with any numbers, and hands over the text of `serializeToBuffer`.
What does the program that reads the text see?

`calls_received`: in each cell what the last call for its number set, and what a
fresh object holds where there was no such call. Calls with numbers the device
does not have are as if they had not been made, and neither the other calls nor
the object that is read into can be seen. The reader may have fewer cells than
the writer.
-/

namespace IoModule

/-- A call of a setter. -/
inductive StatusCall where
  | setInputState (inputNumber : UInt8) (inputState : Bool)
  | setOutputState (outputNumber : UInt8) (outputError outputState : Bool)
  | setButtonPresses (presses : UInt32)
deriving DecidableEq, Repr

namespace StatusCall

/-- What the call writes into the inputs. -/
def inputWrite : StatusCall → Option (UInt8 × Bool)
  | .setInputState inputNumber inputState => some (inputNumber, inputState)
  | _ => none

/-- What the call writes into the outputs. -/
def outputWrite : StatusCall → Option (UInt8 × OutputStatus)
  | .setOutputState outputNumber outputError outputState =>
    some (outputNumber, ⟨outputError, outputState⟩)
  | _ => none

/-- The presses the call sets. -/
def presses : StatusCall → Option UInt32
  | .setButtonPresses presses => some presses
  | _ => none

end StatusCall

namespace DeviceStatus

variable {I O J P : Nat}

/-- A setter called. -/
def perform (s : DeviceStatus I O) : StatusCall → DeviceStatus I O
  | .setInputState inputNumber inputState => s.setInputState inputNumber inputState
  | .setOutputState outputNumber outputError outputState =>
    s.setOutputState outputNumber outputError outputState
  | .setButtonPresses presses => s.setButtonPresses presses

/-- Setters called one after the other write their three parts each on its
own. -/
theorem foldl_perform (calls : List StatusCall) : ∀ s : DeviceStatus I O,
    calls.foldl perform s
      = ⟨writeAll (calls.filterMap StatusCall.inputWrite) s.inputStates,
        writeAll (calls.filterMap StatusCall.outputWrite) s.outputStates,
        (calls.filterMap StatusCall.presses).getLastD s.buttonPresses⟩ := by
  induction calls with
  | nil =>
    intro s
    rfl
  | cons call calls ih =>
    intro s
    rw [List.foldl_cons, ih]
    cases call with
    | setInputState inputNumber inputState => rfl
    | setOutputState outputNumber outputError outputState => rfl
    | setButtonPresses presses =>
      rw [List.filterMap_cons_some (f := StatusCall.presses) rfl, List.getLastD_cons]
      rfl

/-- **What is set is what is read.** A status set up by any calls of the
setters is written, and every object that has no more inputs and no more outputs
reads the text, whatever it held: `OK`, each input and each output is what the
last call for its number set, and so are the presses. -/
theorem calls_received (N : JsonText) (hN : N.Lossless) (hI : I ≤ 255) (hO : O ≤ 255)
    (hJ : J ≤ I) (hP : P ≤ O) (calls : List StatusCall) :
    ∃ text, (calls.foldl perform (fresh : DeviceStatus I O)).serializeToBuffer N true
        = .ok (some text)
      ∧ ∀ t : DeviceStatus J P, ∃ r, t.deserializeFromBuffer N (.data text) = (.ok .ok, r)
        ∧ (∀ (k : Nat) (hk : k < J), r.inputStates[k]
          = (lastWrite (k + 1) (calls.filterMap StatusCall.inputWrite)).getD false)
        ∧ (∀ (k : Nat) (hk : k < P), r.outputStates[k]
          = (lastWrite (k + 1) (calls.filterMap StatusCall.outputWrite)).getD ⟨false, false⟩)
        ∧ r.buttonPresses = (calls.filterMap StatusCall.presses).getLastD 0 := by
  refine ⟨_, serializeToBuffer_eq N true _, fun t => ⟨_,
    (deserialize_dump_iff N hN hI hO _ t _).mpr ⟨hJ, hP, rfl⟩, fun k hk => ?_, fun k hk => ?_, ?_⟩⟩
  · simp only [truncate, foldl_perform, Vector.getElem_cast, Vector.getElem_take]
    rw [writeAll_getElem (Nat.lt_of_lt_of_le hk hJ)]
    simp [fresh]
  · simp only [truncate, foldl_perform, Vector.getElem_cast, Vector.getElem_take]
    rw [writeAll_getElem (Nat.lt_of_lt_of_le hk hP)]
    simp [fresh]
  · simp only [truncate, foldl_perform]
    rfl

/-- Input 2 is set twice and input 9 does not exist; the reader has one output
less. -/
theorem calls_received_two :
    ∃ text, ([.setInputState 2 true, .setOutputState 1 true false, .setInputState 9 true,
          .setInputState 2 false, .setButtonPresses 4].foldl perform
          (fresh : DeviceStatus 2 2)).serializeToBuffer .compact true = .ok (some text)
      ∧ ∀ t : DeviceStatus 2 1, ∃ r, t.deserializeFromBuffer .compact (.data text) = (.ok .ok, r)
        ∧ (∀ (k : Nat) (hk : k < 2), r.inputStates[k]
          = (lastWrite (k + 1) ([.setInputState 2 true, .setOutputState 1 true false,
            .setInputState 9 true, .setInputState 2 false, .setButtonPresses 4].filterMap
              StatusCall.inputWrite)).getD false)
        ∧ (∀ (k : Nat) (hk : k < 1), r.outputStates[k]
          = (lastWrite (k + 1) ([.setInputState 2 true, .setOutputState 1 true false,
            .setInputState 9 true, .setInputState 2 false, .setButtonPresses 4].filterMap
              StatusCall.outputWrite)).getD ⟨false, false⟩)
        ∧ r.buttonPresses = ([.setInputState 2 true, .setOutputState 1 true false,
            .setInputState 9 true, .setInputState 2 false, .setButtonPresses 4].filterMap
              StatusCall.presses).getLastD 0 :=
  calls_received .compact JsonText.compact_lossless (by decide) (by decide) (by decide) (by decide) _

end DeviceStatus

end IoModule

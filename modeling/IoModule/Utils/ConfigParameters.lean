import IoModule.ForLoop
import IoModule.Json.Text

/-!
# `ConfigParameters`

A lookup table over the parameters of a configuration (`ConfigParameters.cpp`).
The constructor walks the C array and keeps a pair of texts for each parameter;
`getValue` walks the pairs and returns the second text of the first pair whose
first text is the key, or the empty text.

Reading notes:
- Keys and values are `char *`s to data that ends with a NUL (`CharPointer`).
  A `std::string_view` of such a pointer ends in front of the first NUL, and the
  size of the buffer is not looked at.
- The array and its `size` are one list. The index of the constructor's loop is
  a natural number.

The constructor makes both texts of a pair from the key. So the table has as
many pairs as there are parameters, and a listed key is answered with itself
(`getValue_eq`). `configParameters_faithful_iff` says when that is the value:
if the key is not listed, or the first parameter with it has it for a value as
well.
-/

namespace IoModule

/-- A `char *` to data that ends with a NUL. -/
structure CharPointer where
  memory : Bytes
  terminated : 0 ∈ memory

/-- `std::string_view` of the pointer. -/
def CharPointer.view (p : CharPointer) : Bytes := p.memory.takeWhile (· != 0)

/-- A text in memory, its NUL behind it. -/
def CharPointer.ofText (text : String) : CharPointer where
  memory := Json.ascii text ++ [0]
  terminated := List.mem_append_right _ (List.mem_singleton_self 0)

/-- A parameter of a configuration: the data of its two buffers. -/
structure ConfigParameter where
  key : CharPointer
  value : CharPointer

/-- `struct config` -/
structure Config where
  parameters : List ConfigParameter

/-- `class ConfigParameters` -/
structure ConfigParameters where
  parameters : List (Bytes × Bytes)
deriving DecidableEq, Repr

namespace ConfigParameters

/-- A round of the constructor's loop. -/
def emplaceParameter (parameters : List (Bytes × Bytes)) (p : ConfigParameter) :
    List (Bytes × Bytes) :=
  let key := p.key.view
  -- `key.data` a second time, where `value.data` is not read
  let value := p.key.view
  parameters ++ [(key, value)]

/-- The constructor. -/
def ofConfig (configData : Config) : ConfigParameters :=
  ⟨(List.finRange configData.parameters.length).foldl
    (fun parameters i => emplaceParameter parameters (configData.parameters.get i)) []⟩

/-- `getParametersCount` -/
def getParametersCount (t : ConfigParameters) : Nat := t.parameters.length

/-- `getValue` -/
def getValue (t : ConfigParameters) (key : CharPointer) : Bytes :=
  match forEach (fun i (_ : Unit) => (if i.1 == key.view then some i.2 else none, ()))
      t.parameters () with
  | (some value, _) => value
  | (none, _) => []

/-! ## What the table holds -/

/-- After some rounds there is a pair for each parameter they have seen. -/
theorem foldl_emplaceParameter {ι : Type} (parameter : ι → ConfigParameter) :
    ∀ (is : List ι) (parameters : List (Bytes × Bytes)),
      is.foldl (fun ps i => emplaceParameter ps (parameter i)) parameters
        = parameters ++ is.map fun i => ((parameter i).key.view, (parameter i).key.view) := by
  intro is
  induction is with
  | nil => exact fun parameters => (List.append_nil parameters).symm
  | cons i is ih =>
    intro parameters
    rw [List.foldl_cons, ih, List.map_cons]
    show (parameters ++ [_]) ++ _ = _
    rw [List.append_assoc]
    rfl

/-- The constructor makes a pair of the key, twice, for each parameter. -/
theorem ofConfig_parameters (configData : Config) :
    (ofConfig configData).parameters
      = configData.parameters.map fun p => (p.key.view, p.key.view) := by
  have hloop := foldl_emplaceParameter configData.parameters.get
    (List.finRange configData.parameters.length) []
  -- the indexes in order are the parameters in order
  have hlist := congrArg (List.map fun p : ConfigParameter => (p.key.view, p.key.view))
    (List.map_get_finRange configData.parameters)
  rw [List.map_map] at hlist
  exact hloop.trans hlist

/-- `getValue` is the first match. -/
theorem getValue_eq_find (t : ConfigParameters) (key : CharPointer) :
    t.getValue key = ((t.parameters.find? fun i => i.1 == key.view).map Prod.snd).getD [] := by
  unfold getValue
  rw [forEach_find]
  cases t.parameters.find? fun i => i.1 == key.view with
  | none => rfl
  | some i => rfl

/-- The first parameter with a key. -/
def firstParameter (configData : Config) (key : Bytes) : Option ConfigParameter :=
  configData.parameters.find? fun p => p.key.view == key

/-- The first parameter with a key has it. -/
theorem key_of_firstParameter {configData : Config} {key : Bytes} {p : ConfigParameter}
    (h : firstParameter configData key = some p) : p.key.view = key := by
  unfold firstParameter at h
  have hfound := List.find?_some h
  exact beq_iff_eq.mp hfound

/-- **What the table answers**: the key itself, if it is listed. -/
theorem getValue_eq (configData : Config) (key : CharPointer) :
    (ofConfig configData).getValue key
      = match firstParameter configData key.view with
        | some _ => key.view
        | none => [] := by
  rw [getValue_eq_find, ofConfig_parameters, List.find?_map]
  show ((Option.map _ (firstParameter configData key.view)).map Prod.snd).getD [] = _
  cases hfirst : firstParameter configData key.view with
  | none => rfl
  | some p => exact key_of_firstParameter hfirst

/-! ## A faithful table -/

/-- The table has as many parameters as the configuration, and answers the key
with the value of the first parameter that has it, or with the empty text. -/
structure FaithfulLookup (configData : Config) (key : CharPointer) : Prop where
  count : (ofConfig configData).getParametersCount = configData.parameters.length
  value : (ofConfig configData).getValue key
    = match firstParameter configData key.view with
      | some p => p.value.view
      | none => []

/-- **When the lookup is faithful.** For every configuration and every key:
exactly if the first parameter with the key, if there is one, has the key for a
value. -/
theorem configParameters_faithful_iff (configData : Config) (key : CharPointer) :
    FaithfulLookup configData key
      ↔ ∀ p, firstParameter configData key.view = some p → p.value.view = key.view := by
  have hcount : (ofConfig configData).getParametersCount = configData.parameters.length := by
    unfold getParametersCount
    rw [ofConfig_parameters, List.length_map]
  have hvalue := getValue_eq configData key
  constructor
  · intro h p hp
    have hsame := hvalue.symm.trans h.value
    rw [hp] at hsame
    exact hsame.symm
  · intro h
    refine ⟨hcount, hvalue.trans ?_⟩
    cases hfirst : firstParameter configData key.view with
    | none => rfl
    | some p => exact (h p hfirst).symm

/-- **The value is never read.** A table over one parameter answers its key
with the key. -/
theorem value_is_the_key :
    (ofConfig ⟨[⟨.ofText "mode", .ofText "fast"⟩]⟩).getParametersCount = 1
      ∧ (ofConfig ⟨[⟨.ofText "mode", .ofText "fast"⟩]⟩).getValue (.ofText "mode")
        = Json.ascii "mode"
      ∧ (CharPointer.ofText "fast").view = Json.ascii "fast"
      ∧ ¬ FaithfulLookup ⟨[⟨.ofText "mode", .ofText "fast"⟩]⟩ (.ofText "mode") := by
  have hkey : (ofConfig ⟨[⟨.ofText "mode", .ofText "fast"⟩]⟩).getValue (.ofText "mode")
      = Json.ascii "mode" := by decide +kernel
  refine ⟨by decide +kernel, hkey, by decide +kernel, fun h => ?_⟩
  have hvalue : Json.ascii "mode" = Json.ascii "fast" := hkey.symm.trans (h.value.trans (by rfl))
  exact absurd hvalue (by decide +kernel)

end ConfigParameters

end IoModule

import IoModule.Json.Value

/-!
# Growing a document by indexed writes

The encoders start from a `null` document and write through `operator[]`:
`j[i]["outNum"] = 3` turns `null` into an array, pads it with `null` up to
`i`, turns the new element into an object and adds the member. `writeIndex`
and `writeKey` are those two operators, each taking what is done to the slot
it reaches (so that a path of brackets is a nesting of calls). Indexing a
value of the wrong kind throws `type_error`.

What a loop of such writes leaves behind:
- `foldlM_writeIndex_null`: writing one slot of a `null` document for every
  element of a list, in order, gives the array of the written values, and
  leaves `null` when the list is empty (`slots`).
- `foldlM_writeIndex`: a non-empty loop of writes *through* one slot is one
  write of the looped value to that slot.
-/

namespace IoModule

namespace Json

/-- The elements a document shows to an indexed write: `null` becomes an
empty array first. -/
def elements? : Json → Option (List Json)
  | .null => some []
  | .array es => some es
  | _ => none

/-- Pad with `null` until index `i` exists. -/
def padTo (es : List Json) (i : Nat) : List Json :=
  es ++ List.replicate (i + 1 - es.length) .null

/-- `j[i]` as the place of a write `w`. -/
def writeIndex (j : Json) (i : Nat) (w : Json → Except JsonError Json) :
    Except JsonError Json :=
  match j.elements? with
  | none => .error .typeError
  | some es => do
    let v ← w ((padTo es i).getD i .null)
    return .array ((padTo es i).set i v)

/-- Replace the value under `key`, or append the member. -/
def setMember (key : String) (v : Json) : List (String × Json) → List (String × Json)
  | [] => [(key, v)]
  | (k, old) :: ms => if k = key then (k, v) :: ms else (k, old) :: setMember key v ms

/-- The members a document shows to a keyed write: `null` becomes an empty
object first. -/
def members? : Json → Option (List (String × Json))
  | .null => some []
  | .object ms => some ms
  | _ => none

/-- `j[key] = v`. -/
def writeKey (j : Json) (key : String) (v : Json) : Except JsonError Json :=
  match j.members? with
  | none => .error .typeError
  | some ms => .ok (.object (setMember key v ms))

/-- What a loop of writes to `0, 1, …` leaves behind: an untouched document
stays `null`. -/
def slots (es : List Json) : Json := if es.isEmpty then .null else .array es

/-- Both forms of an untouched or grown document show their elements. -/
@[simp] theorem elements?_slots (es : List Json) : (slots es).elements? = some es := by
  cases es <;> rfl

/-- Slots are read back in place. -/
theorem atIndex_slots {es : List Json} {i : Nat} (h : i < es.length) :
    (slots es).atIndex i = .ok es[i] := by
  cases es with
  | nil => exact absurd h (by simp)
  | cons e es => exact atIndex_array (e :: es) h

theorem getD_padTo_length (es : List Json) : (padTo es es.length).getD es.length .null = .null := by
  simp [padTo]

theorem set_padTo_length (es : List Json) (v : Json) :
    (padTo es es.length).set es.length v = es ++ [v] := by
  simp [padTo]

/-- A write to the first free slot appends the written value. -/
theorem writeIndex_slots (es : List Json) (w : Json → Except JsonError Json) :
    (slots es).writeIndex es.length w = (w .null).map fun v => slots (es ++ [v]) := by
  unfold writeIndex
  rw [elements?_slots]
  simp only [getD_padTo_length, set_padTo_length]
  cases w .null with
  | error e => rfl
  | ok v => cases es <;> rfl

/-- Writing the slots of a list one after the other, behind the slots that are
already there, collects the written values. -/
theorem foldlM_writeIndex_slots {α : Type} {w : α × Nat → Json → Except JsonError Json}
    {f : α × Nat → Json} (hw : ∀ p, w p .null = .ok (f p)) :
    ∀ (l : List α) (es : List Json),
      (l.zipIdx es.length).foldlM (fun (j : Json) p => j.writeIndex p.2 (w p)) (slots es)
        = .ok (slots (es ++ (l.zipIdx es.length).map f))
  | [], es => by
    rw [List.zipIdx_nil, List.map_nil, List.append_nil]
    rfl
  | x :: l, es => by
    -- the index of the round is the first free slot
    have hfirst : (slots es).writeIndex es.length (w (x, es.length))
        = .ok (slots (es ++ [f (x, es.length)])) := by
      rw [writeIndex_slots, hw]
      rfl
    have hothers := foldlM_writeIndex_slots hw l (es ++ [f (x, es.length)])
    rw [List.length_append, List.length_singleton, List.append_assoc] at hothers
    rw [List.zipIdx_cons, List.foldlM_cons, hfirst]
    exact hothers

/-- Writing the slots of a list from the start, out of a `null` document. -/
theorem foldlM_writeIndex_null {α : Type} {w : α × Nat → Json → Except JsonError Json}
    {f : α × Nat → Json} (hw : ∀ p, w p .null = .ok (f p)) (l : List α) :
    l.zipIdx.foldlM (fun (j : Json) p => j.writeIndex p.2 (w p)) .null
      = .ok (slots (l.zipIdx.map f)) :=
  foldlM_writeIndex_slots hw l []

theorem padTo_set_self (es : List Json) (i : Nat) (v : Json) :
    padTo ((padTo es i).set i v) i = (padTo es i).set i v := by
  have hlen : i + 1 - ((padTo es i).set i v).length = 0 := by
    simp only [padTo, List.length_set, List.length_append, List.length_replicate]
    omega
  rw [padTo, hlen, List.replicate_zero, List.append_nil]

theorem lt_length_padTo (es : List Json) (i : Nat) : i < (padTo es i).length := by
  simp only [padTo, List.length_append, List.length_replicate]
  omega

/-- Two writes through one slot are one write of both. -/
theorem writeIndex_writeIndex (j : Json) (i : Nat) (f g : Json → Except JsonError Json) :
    (j.writeIndex i f >>= fun j => j.writeIndex i g) = j.writeIndex i (fun a => f a >>= g) := by
  cases hj : j.elements? with
  | none => simp only [writeIndex, hj]; rfl
  | some es =>
    cases hf : f ((padTo es i).getD i .null) with
    | error e => simp only [writeIndex, hj, hf]; rfl
    | ok v =>
      have hget : ((padTo es i).set i v).getD i .null = v := by
        rw [List.getD_eq_getElem?_getD, List.getElem?_set_self (lt_length_padTo es i)]
        rfl
      have hsecond : (Json.array ((padTo es i).set i v)).writeIndex i g
          = (g v).map fun u => .array ((padTo es i).set i u) := by
        simp only [writeIndex, elements?, padTo_set_self, hget, List.set_set]
        cases g v <;> rfl
      have hboth : j.writeIndex i (fun a => f a >>= g)
          = (g v).map fun u => .array ((padTo es i).set i u) := by
        simp only [writeIndex, hj, hf]
        show (do let u ← g v; pure (Json.array ((padTo es i).set i u))) = _
        cases g v <;> rfl
      have hfirst : j.writeIndex i f = .ok (.array ((padTo es i).set i v)) := by
        simp only [writeIndex, hj, hf]
        rfl
      rw [hfirst, hboth]
      exact hsecond

/-- A non-empty loop that writes through one slot in every round writes the
looped value to that slot once. -/
theorem foldlM_writeIndex {α : Type} (i : Nat) (g : α → Json → Except JsonError Json) :
    ∀ {xs : List α} (j : Json), xs ≠ [] →
      xs.foldlM (fun (j : Json) y => j.writeIndex i (g y)) j
        = j.writeIndex i (fun a => xs.foldlM (fun a y => g y a) a)
  | [], _, h => absurd rfl h
  | [x], j, _ => by
    simp only [List.foldlM_cons, List.foldlM_nil, bind_pure]
  | x :: y :: ys, j, _ => by
    rw [List.foldlM_cons]
    have htail : (fun j : Json => (y :: ys).foldlM (fun (j : Json) z => j.writeIndex i (g z)) j)
        = fun j => j.writeIndex i (fun a => (y :: ys).foldlM (fun a z => g z a) a) := by
      funext j
      exact foldlM_writeIndex i g j (List.cons_ne_nil y ys)
    rw [htail, writeIndex_writeIndex]
    rfl

/-- A write whose effect on the slot it reaches is known. -/
theorem writeIndex_eq {j a v : Json} {i : Nat} {w : Json → Except JsonError Json} (es : List Json)
    (hj : j.elements? = some es) (ha : (padTo es i).getD i .null = a) (hw : w a = .ok v) :
    j.writeIndex i w = .ok (.array ((padTo es i).set i v)) := by
  unfold writeIndex
  simp only [hj, ha, hw]
  rfl

end Json

end IoModule

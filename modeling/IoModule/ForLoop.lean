import Mathlib.Data.List.Forall2

/-!
# `for` loops that leave early

A C++ loop body can leave the loop by a `return` or by an exception, and
whatever the rounds before it wrote stays written. `forEach` is that loop as
a function: it threads the state through the elements in order, stops at the
first round that answers `some e`, and hands back the state *reached*, not
the state it started from.

A loop whose rounds first read an element (which may throw, before anything
is written) and then write what they read is a `readThen` body, and splits
into its two halves: `forEach_readThen_ok` turns a run without a throw into
"read everything, then write everything", and `forEach_readThen_error` says a
throw is the throw of the reading half, with what was read before it written.
The reading half is a `mapM`, and `mapM_ok_iff` says what a successful one has
read: one result per element, in order. It rests on `bind_ok_iff`, which takes a
computation that went through apart.
-/

namespace IoModule

variable {ι σ ε β : Type}

/-- Run `body` over the elements in order. A round that answers `some e`
ends the loop with `e`; the state it leaves behind is kept. -/
def forEach (body : ι → σ → Option ε × σ) : List ι → σ → Option ε × σ
  | [], s => (none, s)
  | x :: xs, s =>
    match body x s with
    | (none, s') => forEach body xs s'
    -- a `return` or an exception: what was written so far stays
    | (some e, s') => (some e, s')

/-- A first round that does not stop hands its state to the rest. -/
theorem forEach_cons_next {body : ι → σ → Option ε × σ} {x : ι} {xs : List ι}
    {s s' : σ} (h : body x s = (none, s')) :
    forEach body (x :: xs) s = forEach body xs s' := by
  simp only [forEach, h]

/-- A first round that stops ends the loop. -/
theorem forEach_cons_stop {body : ι → σ → Option ε × σ} {x : ι} {xs : List ι}
    {s s' : σ} {e : ε} (h : body x s = (some e, s')) :
    forEach body (x :: xs) s = (some e, s') := by
  simp only [forEach, h]

/-- A change of the state that each round carries along, the loop carries
along. -/
theorem forEach_map {body : ι → σ → Option ε × σ} {f : σ → σ}
    (h : ∀ x s, body x (f s) = ((body x s).1, f (body x s).2)) : ∀ (xs : List ι) (s : σ),
    forEach body xs (f s) = ((forEach body xs s).1, f (forEach body xs s).2)
  | [], _ => rfl
  | x :: xs, s => by
    have hround := h x s
    rcases hbody : body x s with ⟨_ | e, s'⟩
    · rw [hbody] at hround
      rw [forEach_cons_next hround, forEach_cons_next hbody, forEach_map h xs s']
    · rw [hbody] at hround
      rw [forEach_cons_stop hround, forEach_cons_stop hbody]

/-- Rounds that do not stop hand their state to the rest. -/
theorem forEach_append_next {body : ι → σ → Option ε × σ} (ys : List ι) :
    ∀ (xs : List ι) {s s' : σ}, forEach body xs s = (none, s') →
      forEach body (xs ++ ys) s = forEach body ys s' := by
  intro xs
  induction xs with
  | nil =>
    intro s s' h
    cases h
    rfl
  | cons x xs ih =>
    intro s s' h
    rcases hround : body x s with ⟨_ | e, t⟩
    · rw [forEach_cons_next hround] at h
      rw [List.cons_append, forEach_cons_next hround]
      exact ih h
    · rw [forEach_cons_stop hround] at h
      cases h

/-- A loop that returns at the first element it looks for finds that one. -/
theorem forEach_find {found : ι → Bool} {result : ι → ε} : ∀ (xs : List ι) (s : σ),
    forEach (fun x s => (if found x then some (result x) else none, s)) xs s
      = ((xs.find? found).map result, s) := by
  intro xs
  induction xs with
  | nil => exact fun _ => rfl
  | cons x xs ih =>
    intro s
    by_cases hx : found x = true
    · rw [List.find?_cons_of_pos hx]
      exact forEach_cons_stop (by rw [if_pos hx])
    · rw [List.find?_cons_of_neg hx, ← ih s]
      exact forEach_cons_next (by rw [if_neg hx])

/-- A first step that goes through hands its result on. -/
theorem ok_bind {α : Type} (a : α) (f : α → Except ε β) : (Except.ok a >>= f) = f a := rfl

/-- A computation that goes through went through at its first step. -/
theorem bind_ok_iff {α : Type} {x : Except ε α} {f : α → Except ε β} {b : β} :
    (x >>= f) = .ok b ↔ ∃ a, x = .ok a ∧ f a = .ok b := by
  cases x with
  | error e => exact iff_of_false (fun h => nomatch h) fun ⟨_, h, _⟩ => nomatch h
  | ok a =>
    constructor
    · exact fun h => ⟨a, rfl, h⟩
    · intro hex
      obtain ⟨_, ha, h⟩ := hex
      cases ha
      exact h

/-- A computation whose second step goes through on everything goes through
when its first step does. -/
theorem bind_total_iff {α : Type} {x : Except ε α} {f : α → Except ε β}
    (hf : ∀ a, ∃ b, f a = .ok b) : (∃ b, (x >>= f) = .ok b) ↔ ∃ a, x = .ok a := by
  constructor
  · intro hex
    obtain ⟨b, h⟩ := hex
    obtain ⟨a, ha, -⟩ := bind_ok_iff.mp h
    exact ⟨a, ha⟩
  · intro hex
    obtain ⟨a, ha⟩ := hex
    obtain ⟨b, hb⟩ := hf a
    exact ⟨b, bind_ok_iff.mpr ⟨a, ha, hb⟩⟩

/-- A successful `mapM` is one success per element, in order. -/
theorem mapM_ok_iff {read : ι → Except ε β} : ∀ {xs : List ι} {bs : List β},
    xs.mapM read = .ok bs ↔ List.Forall₂ (fun x b => read x = .ok b) xs bs
  | [], bs => by
    rw [List.mapM_nil, List.forall₂_nil_left_iff]
    exact ⟨fun h => (Except.ok.inj h).symm, fun h => h ▸ rfl⟩
  | x :: xs, bs => by
    rw [List.mapM_cons, List.forall₂_cons_left_iff, bind_ok_iff]
    constructor
    · intro hex
      obtain ⟨b, hx, hrest⟩ := hex
      obtain ⟨bs', hxs, hbs⟩ := bind_ok_iff.mp hrest
      exact ⟨b, bs', hx, mapM_ok_iff.mp hxs, (Except.ok.inj hbs).symm⟩
    · intro hex
      obtain ⟨b, bs', hx, hxs, rfl⟩ := hex
      exact ⟨b, hx, bind_ok_iff.mpr ⟨bs', mapM_ok_iff.mpr hxs, rfl⟩⟩

/-- A `mapM` goes through exactly when every element reads. -/
theorem mapM_total_iff {read : ι → Except ε β} : ∀ {xs : List ι},
    (∃ bs, xs.mapM read = .ok bs) ↔ ∀ x ∈ xs, ∃ b, read x = .ok b
  | [] => iff_of_true ⟨[], List.mapM_nil⟩ fun _ h => absurd h List.not_mem_nil
  | x :: xs => by
    have hrest : (∃ bs, xs.mapM read = .ok bs) ↔ ∀ x ∈ xs, ∃ b, read x = .ok b := mapM_total_iff
    rw [List.forall_mem_cons, ← hrest]
    simp only [mapM_ok_iff, List.forall₂_cons_left_iff]
    constructor
    · intro hex
      obtain ⟨_, b, bs, hx, hxs, -⟩ := hex
      exact ⟨⟨b, hx⟩, bs, hxs⟩
    · intro hex
      obtain ⟨⟨b, hx⟩, bs, hxs⟩ := hex
      exact ⟨b :: bs, b, bs, hx, hxs, rfl⟩

/-- Every element that was read has its result among the results. -/
theorem exists_of_mapM {read : ι → Except ε β} : ∀ {xs : List ι} {bs : List β},
    xs.mapM read = .ok bs → ∀ x ∈ xs, ∃ b ∈ bs, read x = .ok b := by
  intro xs
  induction xs with
  | nil => exact fun _ _ h => absurd h List.not_mem_nil
  | cons y ys ih =>
    intro bs h x hx
    rw [mapM_ok_iff, List.forall₂_cons_left_iff] at h
    obtain ⟨b, bs', hy, hys, rfl⟩ := h
    rcases List.mem_cons.mp hx with rfl | hx
    · exact ⟨b, List.mem_cons_self, hy⟩
    · obtain ⟨c, hc, hread⟩ := ih (mapM_ok_iff.mpr hys) x hx
      exact ⟨c, List.mem_cons_of_mem b hc, hread⟩

/-- What reading keeps of each element, it keeps of the list. -/
theorem map_eq_of_mapM {γ : Type} {read : ι → Except ε β} {f : ι → γ} {g : β → γ} {xs : List ι}
    {bs : List β} (hkeep : ∀ x ∈ xs, ∀ b, read x = .ok b → f x = g b)
    (h : xs.mapM read = .ok bs) : xs.map f = bs.map g := by
  have hpairs : List.Forall₂ (fun x b => x ∈ xs ∧ read x = .ok b) xs bs :=
    (List.forall₂_and_left xs bs).mpr ⟨fun _ hx => hx, mapM_ok_iff.mp h⟩
  rw [← List.forall₂_eq_eq_eq, List.forall₂_map_left_iff, List.forall₂_map_right_iff]
  exact hpairs.imp fun x b hxb => hkeep x hxb.1 b hxb.2

/-- The results stand at the indices of their elements. -/
theorem getElem?_of_mapM {read : ι → Except ε β} {xs : List ι} {bs : List β}
    (h : xs.mapM read = .ok bs) (i : Nat) :
    (xs[i]? = none ∧ bs[i]? = none)
      ∨ ∃ x b, xs[i]? = some x ∧ bs[i]? = some b ∧ read x = .ok b := by
  obtain ⟨hlen, hread⟩ := List.forall₂_iff_get.mp (mapM_ok_iff.mp h)
  by_cases hi : i < xs.length
  · have hib : i < bs.length := by omega
    exact Or.inr ⟨xs[i], bs[i], List.getElem?_eq_getElem hi, List.getElem?_eq_getElem hib,
      hread i hi hib⟩
  · exact Or.inl ⟨List.getElem?_eq_none (by omega), List.getElem?_eq_none (by omega)⟩

/-- Reading a list with one element replaced. -/
theorem mapM_set {read : ι → Except ε β} {x : ι} {b : β} (hx : read x = .ok b) :
    ∀ {xs : List ι} {bs : List β} (i : Nat), xs.mapM read = .ok bs →
      (xs.set i x).mapM read = .ok (bs.set i b) := by
  intro xs
  induction xs with
  | nil =>
    intro bs i h
    rw [mapM_ok_iff, List.forall₂_nil_left_iff] at h
    subst h
    exact List.mapM_nil
  | cons y ys ih =>
    intro bs i h
    rw [mapM_ok_iff, List.forall₂_cons_left_iff] at h
    obtain ⟨c, cs, hy, hys, rfl⟩ := h
    cases i with
    | zero => exact mapM_ok_iff.mpr (.cons hx hys)
    | succ i => exact mapM_ok_iff.mpr (.cons hy (mapM_ok_iff.mp (ih i (mapM_ok_iff.mpr hys))))

/-- A loop over the indices of a list is a loop over its elements. -/
theorem mapM_range : ∀ {xs : List ι} {readAt : Nat → Except ε β} {read : ι → Except ε β},
    (∀ (i : Nat) (hi : i < xs.length), readAt i = read xs[i]) →
      (List.range xs.length).mapM readAt = xs.mapM read
  | [], _, _, _ => by rw [List.length_nil, List.range_zero, List.mapM_nil, List.mapM_nil]
  | x :: xs, readAt, read, h => by
    have hrest : (List.range xs.length).mapM (readAt ∘ Nat.succ) = xs.mapM read :=
      mapM_range fun i hi => h (i + 1) (Nat.succ_lt_succ hi)
    rw [List.length_cons, List.range_succ_eq_map, List.mapM_cons, List.mapM_map, List.mapM_cons,
      hrest, h 0 (Nat.succ_pos _)]
    rfl

/-- Reading by index, when index `i` yields the element at `i`. -/
theorem mapM_range_ok {readAt : Nat → Except ε β} {bs : List β}
    (h : ∀ (i : Nat) (hi : i < bs.length), readAt i = .ok bs[i]) :
    (List.range bs.length).mapM readAt = .ok bs := by
  have hself : bs.mapM (Except.ok : β → Except ε β) = .ok bs := by
    rw [mapM_ok_iff, List.forall₂_same]
    exact fun _ _ => rfl
  rw [← hself]
  exact mapM_range h

/-- Reading the first `n` indexes, when index `i` is read off the element at
`i`: there are that many elements, and each of them reads. -/
theorem mapM_range_take_iff {xs : List ι} {readAt : Nat → Except ε β} {read : ι → Except ε β}
    (h : ∀ i b, readAt i = .ok b ↔ ∃ x, xs[i]? = some x ∧ read x = .ok b) {n : Nat} {bs : List β} :
    (List.range n).mapM readAt = .ok bs ↔ n ≤ xs.length ∧ (xs.take n).mapM read = .ok bs := by
  rw [mapM_ok_iff, mapM_ok_iff, List.forall₂_iff_get, List.forall₂_iff_get]
  simp only [List.length_range, List.length_take, List.get_eq_getElem, List.getElem_range,
    List.getElem_take, h]
  constructor
  · intro hread
    obtain ⟨hlen, hread⟩ := hread
    -- the last index that was read is one of the list
    have hn : n ≤ xs.length := by
      by_contra hlt
      obtain ⟨x, hx, -⟩ := hread xs.length (by omega) (by omega)
      simp at hx
    refine ⟨hn, by omega, fun i hi hib => ?_⟩
    obtain ⟨x, hx, hb⟩ := hread i (by omega) hib
    rw [List.getElem?_eq_some_iff] at hx
    obtain ⟨_, rfl⟩ := hx
    exact hb
  · intro hread
    obtain ⟨hn, hlen, hread⟩ := hread
    refine ⟨by omega, fun i hi hib => ?_⟩
    exact ⟨xs[i], List.getElem?_eq_getElem (by omega), hread i (by omega) hib⟩

/-- A round that reads first and writes afterwards: a throwing read leaves
the state alone. -/
def readThen (read : ι → Except ε β) (write : σ → β → σ) (x : ι) (s : σ) :
    Option ε × σ :=
  match read x with
  | .ok b => (none, write s b)
  | .error e => (some e, s)

/-- When every read succeeds, the loop is: read all, then write all. -/
theorem forEach_readThen_ok {read : ι → Except ε β} {write : σ → β → σ} :
    ∀ {xs : List ι} {bs : List β} (s : σ), xs.mapM read = .ok bs →
      forEach (readThen read write) xs s = (none, bs.foldl write s)
  | [], bs, s, h => by
    rw [List.mapM_nil] at h
    cases h
    rfl
  | x :: xs, bs, s, h => by
    rw [mapM_ok_iff, List.forall₂_cons_left_iff] at h
    obtain ⟨b, bs', hx, hxs, rfl⟩ := h
    have hround : readThen read write x s = (none, write s b) := by
      simp only [readThen, hx]
    rw [forEach_cons_next hround, forEach_readThen_ok (write s b) (mapM_ok_iff.mpr hxs)]
    rfl

/-- What is read before the first throw. -/
def readWhile (read : ι → Except ε β) : List ι → List β
  | [] => []
  | x :: xs =>
    match read x with
    | .ok b => b :: readWhile read xs
    | .error _ => []

/-- Nothing is, when the first read throws. -/
theorem readWhile_cons_eq_nil_iff {read : ι → Except ε β} {x : ι} {xs : List ι} :
    readWhile read (x :: xs) = [] ↔ ∃ e, read x = .error e := by
  cases hx : read x with
  | error e => simp [readWhile, hx]
  | ok b => simp [readWhile, hx]

/-- Without a throw, everything is. -/
theorem readWhile_of_ok {read : ι → Except ε β} : ∀ {xs : List ι} {bs : List β},
    xs.mapM read = .ok bs → readWhile read xs = bs := by
  intro xs
  induction xs with
  | nil =>
    intro bs h
    rw [mapM_ok_iff, List.forall₂_nil_left_iff] at h
    rw [h, readWhile]
  | cons x xs ih =>
    intro bs h
    rw [mapM_ok_iff, List.forall₂_cons_left_iff] at h
    obtain ⟨b, bs', hx, hxs, rfl⟩ := h
    simp only [readWhile, hx, ih (mapM_ok_iff.mpr hxs)]

/-- When some read throws, the loop throws the same, and has written what was
read before. -/
theorem forEach_readThen_error {read : ι → Except ε β} {write : σ → β → σ} :
    ∀ {xs : List ι} {e : ε} (s : σ), xs.mapM read = .error e →
      forEach (readThen read write) xs s = (some e, (readWhile read xs).foldl write s)
  | [], e, s, h => by
    rw [List.mapM_nil] at h
    cases h
  | x :: xs, e, s, h => by
    rw [List.mapM_cons] at h
    cases hx : read x with
    | error e' =>
      rw [hx] at h
      cases h
      simp only [readWhile, hx]
      exact forEach_cons_stop (by simp only [readThen, hx]; rfl)
    | ok b =>
      cases hxs : xs.mapM read with
      | error e' =>
        rw [hx, hxs] at h
        cases h
        have hround : readThen read write x s = (none, write s b) := by
          simp only [readThen, hx]
        rw [forEach_cons_next hround, forEach_readThen_error (write s b) hxs]
        simp only [readWhile, hx]
        rfl
      | ok bs' => rw [hx, hxs] at h; cases h

end IoModule

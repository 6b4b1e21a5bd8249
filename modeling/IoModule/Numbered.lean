import Mathlib.Logic.Nontrivial.Basic

/-!
# Arrays written by number

A fixed-size array whose cells are addressed from outside by a number
counted from 1: a write through number `m` reaches cell `m - 1`, and a
number the array does not have is ignored. `writeNumber` is one such write,
`writeAll` a list of them in order.

`writeAll_getElem` says what is left at the end: each cell holds what the
last write carrying its number wrote, or its old content when no write
carried it. From that:
- `writeAll_eq`, `writeAll_determined_iff`: the writes alone determine the
  array exactly when they reach every cell.
- `writeAll_unchanged_iff`: they change nothing exactly when they reach none.
- `writeAll_set_iff`: what one of them writes can be seen at the end exactly
  when it reaches a cell and no later one carries its number.
-/

namespace IoModule

variable {α : Type} {n : Nat}

/-- Write through a number counted from 1; other numbers are ignored. -/
def writeNumber (cells : Vector α n) (number : UInt8) (x : α) : Vector α n :=
  if h : number.toNat ≤ n ∧ number.toNat ≠ 0 then
    cells.set (number.toNat - 1) x (by omega)
  else cells

/-- Writes in list order. -/
def writeAll (ws : List (UInt8 × α)) (cells : Vector α n) : Vector α n :=
  ws.foldl (fun cells w => writeNumber cells w.1 w.2) cells

/-- What the last write through `number` wrote, if there was one. -/
def lastWrite (number : Nat) : List (UInt8 × α) → Option α
  | [] => none
  | w :: ws =>
    match lastWrite number ws with
    | some x => some x
    | none => if w.1.toNat = number then some w.2 else none

/-- A write changes the cell of its number and no other. -/
theorem writeNumber_getElem (cells : Vector α n) (number : UInt8) (x : α) {k : Nat} (hk : k < n) :
    (writeNumber cells number x)[k] = if number.toNat = k + 1 then x else cells[k] := by
  unfold writeNumber
  split
  next h =>
    rw [Vector.getElem_set]
    by_cases hkn : number.toNat = k + 1
    · rw [if_pos hkn, if_pos (by omega)]
    · rw [if_neg hkn, if_neg (by omega)]
  next h => rw [if_neg (by omega)]

theorem lastWrite_cons (number : Nat) (w : UInt8 × α) (ws : List (UInt8 × α)) :
    lastWrite number (w :: ws)
      = (lastWrite number ws).or (if w.1.toNat = number then some w.2 else none) := by
  rw [lastWrite]
  cases lastWrite number ws <;> rfl

/-- After a list of writes each cell holds its last write, or what it held. -/
theorem writeAll_getElem {k : Nat} (hk : k < n) :
    ∀ (ws : List (UInt8 × α)) (cells : Vector α n),
      (writeAll ws cells)[k] = (lastWrite (k + 1) ws).getD cells[k]
  | [], cells => rfl
  | w :: ws, cells => by
    have hrest := writeAll_getElem hk ws (writeNumber cells w.1 w.2)
    show (writeAll ws (writeNumber cells w.1 w.2))[k] = _
    rw [hrest, writeNumber_getElem _ _ _ hk, lastWrite_cons]
    cases lastWrite (k + 1) ws with
    | some x => rfl
    | none =>
      rw [Option.none_or]
      split <;> rfl

/-- Writes that reach every cell determine the array. -/
theorem writeAll_eq {ws : List (UInt8 × α)} {v : Vector α n}
    (h : ∀ (k : Nat) (hk : k < n), lastWrite (k + 1) ws = some v[k]) (cells : Vector α n) :
    writeAll ws cells = v := by
  ext k hk
  rw [writeAll_getElem hk, h k hk]
  rfl

/-- A list numbered in order from `start + 1` on: the number `k + 1` belongs
to the element `k - start`. -/
theorem lastWrite_zipIdx {k : Nat} :
    ∀ (l : List α) (start : Nat), start + l.length ≤ 255 →
      lastWrite (k + 1) ((l.zipIdx start).map fun p => (UInt8.ofNat (p.2 + 1), p.1))
        = if k < start then none else l[k - start]?
  | [], start, _ => by simp [lastWrite]
  | x :: l, start, hlen => by
    rw [List.length_cons] at hlen
    -- the bound keeps the number from wrapping
    have hnumber : (UInt8.ofNat (start + 1)).toNat = start + 1 := by
      rw [UInt8.toNat_ofNat']
      omega
    rw [List.zipIdx_cons, List.map_cons, lastWrite_cons, lastWrite_zipIdx l (start + 1) (by omega),
      hnumber]
    rcases Nat.lt_trichotomy k start with hlt | heq | hgt
    · rw [if_pos (by omega), if_pos hlt, if_neg (by omega), Option.none_or]
    · subst heq
      rw [if_pos (by omega), if_pos rfl, if_neg (by omega), Nat.sub_self, Option.none_or]
      rfl
    · rw [if_neg (by omega), if_neg (by omega), if_neg (by omega), Option.or_none,
        show k - start = k - (start + 1) + 1 from by omega, List.getElem?_cons_succ]

/-- Writing a list back under its own numbers restores it. -/
theorem writeAll_zipIdx (v cells : Vector α n) (hn : n ≤ 255) :
    writeAll (v.toList.zipIdx.map fun p => (UInt8.ofNat (p.2 + 1), p.1)) cells = v := by
  apply writeAll_eq
  intro k hk
  have hlen : v.toList.length = n := Vector.length_toList
  rw [lastWrite_zipIdx _ _ (by omega), if_neg (by omega), Nat.sub_zero,
    List.getElem?_eq_getElem (by omega), Vector.getElem_toList]

/-! ## What a list of writes reaches -/

theorem lastWrite_append (number : Nat) (later : List (UInt8 × α)) :
    ∀ earlier : List (UInt8 × α),
      lastWrite number (earlier ++ later) = (lastWrite number later).or (lastWrite number earlier)
  | [] => by rw [List.nil_append, lastWrite, Option.or_none]
  | w :: ws => by
    rw [List.cons_append, lastWrite_cons, lastWrite_append number later ws, lastWrite_cons,
      Option.or_assoc]

/-- No write carried the number. -/
theorem lastWrite_eq_none_iff (number : Nat) :
    ∀ ws : List (UInt8 × α), lastWrite number ws = none ↔ ∀ w ∈ ws, w.1.toNat ≠ number
  | [] => by simp [lastWrite]
  | w :: ws => by
    rw [lastWrite_cons, Option.or_eq_none_iff, lastWrite_eq_none_iff number ws, List.forall_mem_cons,
      and_comm]
    simp

/-- A write whose number no later write carries is the last one. -/
theorem lastWrite_split {number : UInt8} {x : α} (earlier : List (UInt8 × α))
    {later : List (UInt8 × α)} (hlater : ∀ w ∈ later, w.1 ≠ number) :
    lastWrite number.toNat (earlier ++ (number, x) :: later) = some x := by
  have hnone : lastWrite number.toNat later = none :=
    (lastWrite_eq_none_iff _ later).mpr fun w hw h => hlater w hw (UInt8.toNat_inj.mp h)
  rw [lastWrite_append, lastWrite_cons, hnone, if_pos rfl, Option.none_or, Option.some_or]

/-- When no two writes carry one number, each write is the last of its
number. -/
theorem lastWrite_of_nodup {ws : List (UInt8 × α)} (hnodup : (ws.map Prod.fst).Nodup)
    {w : UInt8 × α} (hw : w ∈ ws) : lastWrite w.1.toNat ws = some w.2 := by
  obtain ⟨earlier, later, rfl⟩ := List.append_of_mem hw
  refine lastWrite_split earlier fun v hv heq => ?_
  rw [List.map_append, List.map_cons] at hnodup
  have hnotMem := (List.nodup_cons.mp (List.nodup_append.mp hnodup).2.1).1
  exact hnotMem (heq ▸ List.mem_map_of_mem hv)

/-- **When the writes alone determine the array**: when they reach every
cell. -/
theorem writeAll_determined_iff [Nontrivial α] (ws : List (UInt8 × α)) :
    (∀ u v : Vector α n, writeAll ws u = writeAll ws v)
      ↔ ∀ k < n, ∃ w ∈ ws, w.1.toNat = k + 1 := by
  constructor
  · intro h k hk
    by_contra hmissing
    obtain ⟨x, y, hxy⟩ := exists_pair_ne α
    have hnone : lastWrite (k + 1) ws = none :=
      (lastWrite_eq_none_iff _ ws).mpr fun w hw heq => hmissing ⟨w, hw, heq⟩
    -- the cell still holds what it held
    have hcell := congrArg (fun v => v[k]) (h (Vector.replicate n x) (Vector.replicate n y))
    simp only [writeAll_getElem hk, hnone, Vector.getElem_replicate, Option.getD_none] at hcell
    exact hxy hcell
  · intro h u v
    ext k hk
    obtain ⟨w, hw, hnumber⟩ := h k hk
    rw [writeAll_getElem hk, writeAll_getElem hk]
    cases hlast : lastWrite (k + 1) ws with
    | some x => rfl
    | none => exact absurd hnumber ((lastWrite_eq_none_iff _ ws).mp hlast w hw)

/-- **When a list of writes leaves every array alone**: when no number in it
is one of a cell. -/
theorem writeAll_unchanged_iff [Nontrivial α] (ws : List (UInt8 × α)) :
    (∀ v : Vector α n, writeAll ws v = v) ↔ ∀ w ∈ ws, ∀ k < n, w.1.toNat ≠ k + 1 := by
  constructor
  · intro h w hw k hk hnumber
    obtain ⟨x, hx⟩ : ∃ x, lastWrite (k + 1) ws = some x := by
      rw [← Option.ne_none_iff_exists']
      exact fun hnone => (lastWrite_eq_none_iff _ ws).mp hnone w hw hnumber
    -- an array that holds something else there is changed
    obtain ⟨y, hy⟩ := exists_ne x
    have hcell := congrArg (fun v => v[k]) (h (Vector.replicate n y))
    simp only [writeAll_getElem hk, hx, Vector.getElem_replicate, Option.getD_some] at hcell
    exact hy hcell.symm
  · intro h v
    ext k hk
    have hnone : lastWrite (k + 1) ws = none :=
      (lastWrite_eq_none_iff _ ws).mpr fun w hw => h w hw k hk
    rw [writeAll_getElem hk, hnone]
    rfl

/-! ## One write replaced -/

/-- The last write through a number, seen from the write at index `i`: one
behind it, or itself, or one before it. -/
theorem lastWrite_set {ws : List (UInt8 × α)} {i : Nat} (hi : i < ws.length) (v : UInt8 × α)
    (number : Nat) :
    lastWrite number (ws.set i v)
      = (lastWrite number (ws.drop (i + 1))).or
        ((if v.1.toNat = number then some v.2 else none).or (lastWrite number (ws.take i))) := by
  rw [List.set_eq_take_append_cons_drop, if_pos hi, lastWrite_append, lastWrite_cons,
    Option.or_assoc]

theorem lastWrite_at {ws : List (UInt8 × α)} {i : Nat} {w : UInt8 × α} (hi : ws[i]? = some w)
    (number : Nat) :
    lastWrite number ws
      = (lastWrite number (ws.drop (i + 1))).or
        ((if w.1.toNat = number then some w.2 else none).or (lastWrite number (ws.take i))) := by
  obtain ⟨hlt, rfl⟩ := List.getElem?_eq_some_iff.mp hi
  rw [← lastWrite_set hlt, List.set_getElem_self]

/-- What a write writes is not seen in a cell of another number. -/
theorem writeAll_set_getElem {ws : List (UInt8 × α)} {i : Nat} {number : UInt8} {x : α}
    (hi : ws[i]? = some (number, x)) (y : α) (cells : Vector α n) {k : Nat} (hk : k < n)
    (hne : number.toNat ≠ k + 1) :
    (writeAll (ws.set i (number, y)) cells)[k] = (writeAll ws cells)[k] := by
  obtain ⟨hlt, -⟩ := List.getElem?_eq_some_iff.mp hi
  rw [writeAll_getElem hk, writeAll_getElem hk, lastWrite_set hlt, lastWrite_at hi, if_neg hne,
    if_neg hne]

/-- The writes behind index `i` through a number. -/
theorem lastWrite_drop_eq_none_iff (ws : List (UInt8 × α)) (i : Nat) (number : UInt8) :
    lastWrite number.toNat (ws.drop (i + 1)) = none
      ↔ ¬ ∃ j y, i < j ∧ ws[j]? = some (number, y) := by
  rw [lastWrite_eq_none_iff]
  constructor
  · intro h hex
    obtain ⟨j, y, hij, hj⟩ := hex
    refine h (number, y) (List.mem_iff_getElem?.mpr ⟨j - (i + 1), ?_⟩) rfl
    rw [List.getElem?_drop, show i + 1 + (j - (i + 1)) = j from by omega, hj]
  · intro h w hw heq
    obtain ⟨d, hd⟩ := List.mem_iff_getElem?.mp hw
    rw [List.getElem?_drop] at hd
    exact h ⟨i + 1 + d, w.2, by omega, by rw [hd, ← UInt8.toNat_inj.mp heq]⟩

/-- **When it does not matter what one write writes**: its number is none of
a cell, or a later write carries it again. -/
theorem writeAll_set_iff [Nontrivial α] {ws : List (UInt8 × α)} {i : Nat} {number : UInt8} {x : α}
    (hi : ws[i]? = some (number, x)) (cells : Vector α n) :
    (∀ y, writeAll (ws.set i (number, y)) cells = writeAll ws cells)
      ↔ ∀ k < n, number.toNat = k + 1 → ∃ j y, i < j ∧ ws[j]? = some (number, y) := by
  obtain ⟨hlt, -⟩ := List.getElem?_eq_some_iff.mp hi
  constructor
  · intro h k hk hnumber
    by_contra hlast
    have hnone := (lastWrite_drop_eq_none_iff ws i number).mpr hlast
    -- nothing hides the write, so writing something else shows
    obtain ⟨y, hy⟩ := exists_ne x
    have hcell := congrArg (fun v => v[k]) (h y)
    simp only [writeAll_getElem hk, ← hnumber] at hcell
    rw [lastWrite_set hlt, lastWrite_at hi, hnone, if_pos rfl, if_pos rfl] at hcell
    exact hy hcell
  · intro h y
    ext k hk
    by_cases hnumber : number.toNat = k + 1
    · -- a later write carries the number, so neither is the last one
      obtain ⟨v, hv⟩ : ∃ v, lastWrite number.toNat (ws.drop (i + 1)) = some v := by
        rw [← Option.ne_none_iff_exists']
        exact fun hnone => (lastWrite_drop_eq_none_iff ws i number).mp hnone (h k hk hnumber)
      rw [writeAll_getElem hk, writeAll_getElem hk, ← hnumber, lastWrite_set hlt, lastWrite_at hi, hv,
        Option.some_or, Option.some_or]
    · exact writeAll_set_getElem hi y cells hk hnumber

end IoModule

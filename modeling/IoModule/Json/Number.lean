import IoModule.Json.Text

/-!
# Numbers no `double` holds

`json::parse` has two ways to fail. What is no JSON is a `parse_error`. A
number literal that is JSON but too large for a `double` is `out_of_range`,
which derives from `json::exception` as well but is no `parse_error`.
`JsonText.Handled` says of a text that a handler for `parse_error` is enough.

`ranged` is a reader that shows the difference. It reads as `compact` does,
except for a text that is one number literal: it takes the literal apart
(`readNumber`) and throws `out_of_range` if its value would round to infinity.
-/

namespace IoModule

/-- Parsing the text succeeds or throws `parse_error`. -/
def JsonText.Handled (N : JsonText) (bs : Bytes) : Prop :=
  ∀ e, N.parse bs = .error e → e = .parseError

/-- A number literal without its sign: the digits as one number, and the power
of ten of the last digit. -/
structure NumberLiteral where
  digits : Nat
  exponent : Int
deriving DecidableEq, Repr

namespace Json

/-- The digits of an exponent, all of them. -/
def readExponentDigits (bs : Bytes) : Option Nat :=
  if bs ≠ [] ∧ bs.all isDigit then some (digitsValue bs) else none

/-- An exponent up to the end of the text, or none. -/
def readExponent : Bytes → Option Int
  | [] => some 0
  | e :: bs =>
    -- `e` or `E`, then a sign or none
    if e = 101 ∨ e = 69 then
      if bs.head? = some 45 then (readExponentDigits bs.tail).map fun n => -(n : Int)
      else if bs.head? = some 43 then (readExponentDigits bs.tail).map fun n => (n : Int)
      else (readExponentDigits bs).map fun n => (n : Int)
    else none

/-- A text that is one number literal. -/
def readNumber (bs : Bytes) : Option NumberLiteral :=
  let bs := if bs.head? = some 45 then bs.tail else bs
  let whole := bs.takeWhile isDigit
  let rest := bs.dropWhile isDigit
  -- no number starts with a zero and goes on with digits
  if whole = [] ∨ (whole.head? = some 48 ∧ whole ≠ [48]) then none
  else if rest.head? = some 46 then
    let fraction := rest.tail.takeWhile isDigit
    if fraction = [] then none
    else (readExponent (rest.tail.dropWhile isDigit)).map fun e =>
      ⟨digitsValue (whole ++ fraction), e - fraction.length⟩
  else (readExponent rest).map fun e => ⟨digitsValue whole, e⟩

end Json

/-- The value rounds to infinity: it is at least halfway from the largest
`double` to `2 ^ 1024`. -/
def NumberLiteral.overRange (l : NumberLiteral) : Bool :=
  (2 ^ 1024 - 2 ^ 970) * 10 ^ (-l.exponent).toNat ≤ l.digits * 10 ^ l.exponent.toNat

/-- `json::parse`, for compact texts and for texts of one number. -/
def Json.parseRanged (bs : Bytes) : Except JsonError Json :=
  match readNumber bs with
  | some l => if l.overRange then .error .outOfRange else parse bs
  | none => parse bs

/-- The reader that knows the range of a `double`, and the compact writer. -/
def JsonText.ranged : JsonText := ⟨Json.parseRanged, Json.dump⟩

/-! ## Plain documents are in range -/

namespace Json

/-- A text that starts with neither a digit nor a minus is no number. -/
theorem readNumber_none {b : UInt8} (bs : Bytes) (hdigit : isDigit b = false) (hminus : b ≠ 45) :
    readNumber (b :: bs) = none := by
  have hhead : ¬ (b :: bs).head? = some 45 := fun h => hminus (Option.some.inj h)
  have hwhole : (b :: bs).takeWhile isDigit = [] := by simp [hdigit]
  unfold readNumber
  simp only [if_neg hhead, hwhole, true_or, if_true]

/-- A decimal, with or without a minus, is the literal of its digits, unless
it is no literal at all. -/
theorem readNumber_decimal {k : Nat} {bs : Bytes} {l : NumberLiteral}
    (hbs : (if bs.head? = some 45 then bs.tail else bs) = decimal k)
    (h : readNumber bs = some l) : l = ⟨k, 0⟩ := by
  have hall := decimal_isDigit k
  have hwhole : (decimal k).takeWhile isDigit = decimal k := by
    rw [← List.append_nil (decimal k), List.takeWhile_append_of_pos hall, List.takeWhile_nil]
  have hrest : (decimal k).dropWhile isDigit = [] := by
    rw [← List.append_nil (decimal k), List.dropWhile_append_of_pos hall, List.dropWhile_nil]
  unfold readNumber at h
  simp only [hbs, hwhole, hrest] at h
  split at h
  next => cases h
  next =>
    rw [if_neg (by simp)] at h
    simp only [readExponent, Option.map_some, Option.some.injEq] at h
    rw [← h, digitsValue_decimal]

/-- No decimal starts with a minus. -/
theorem decimal_head (k : Nat) : (decimal k).head? ≠ some 45 := by
  intro h
  have hdigit := decimal_isDigit k 45 (List.mem_of_mem_head? h)
  exact absurd hdigit (by decide)

/-- A number of at most 64 bits is far from the range. -/
theorem overRange_of_lt {k : Nat} (h : k < 2 ^ 65) : NumberLiteral.overRange ⟨k, 0⟩ = false := by
  have hrange : 2 ^ 65 ≤ 2 ^ 1024 - 2 ^ 970 := by decide +kernel
  unfold NumberLiteral.overRange
  rw [decide_eq_false_iff_not]
  simp only [Int.neg_zero, Int.toNat_zero, pow_zero, Nat.mul_one]
  omega

/-- The text of a plain document that is no integer is no number. -/
theorem readNumber_dump_none : ∀ {j : Json}, j.plain = true → (∀ n, j ≠ .integer n) →
    readNumber (dump j) = none
  | .null, _, _ => by decide +kernel
  | .boolean true, _, _ => by decide +kernel
  | .boolean false, _, _ => by decide +kernel
  | .integer n, _, hother => absurd rfl (hother n)
  | .string _, _, _ => readNumber_none (b := 34) _ (by decide) (by decide)
  | .array [], _, _ => readNumber_none (b := 91) _ (by decide) (by decide)
  | .array (_ :: _), _, _ => readNumber_none (b := 91) _ (by decide) (by decide)
  | .object [], _, _ => readNumber_none (b := 123) _ (by decide) (by decide)
  | .object ((_, _) :: _), _, _ => readNumber_none (b := 123) _ (by decide) (by decide)

/-- The text of an integer of at most 64 bits is in range. -/
theorem not_overRange_integer {n : Int} (hbits : -2 ^ 63 ≤ n ∧ n < 2 ^ 64) {l : NumberLiteral}
    (h : readNumber (integerText n) = some l) : l.overRange = false := by
  have hdigits : (if (integerText n).head? = some 45 then (integerText n).tail
      else integerText n) = decimal n.natAbs := by
    unfold integerText
    by_cases hneg : n < 0
    · rw [if_pos hneg]
      rfl
    · rw [if_neg hneg, if_neg (decimal_head n.natAbs)]
  rw [readNumber_decimal hdigits h]
  exact overRange_of_lt (by omega)

/-- The text of a plain document is no number out of range. -/
theorem not_overRange_dump {j : Json} (hplain : j.plain = true) {l : NumberLiteral}
    (h : readNumber (dump j) = some l) : l.overRange = false := by
  by_cases hinteger : ∃ n, j = .integer n
  · obtain ⟨n, rfl⟩ := hinteger
    have hbits : -2 ^ 63 ≤ n ∧ n < 2 ^ 64 := of_decide_eq_true hplain
    rw [dump] at h
    exact not_overRange_integer hbits h
  · have hother : ∀ n, j ≠ .integer n := fun n hn => hinteger ⟨n, hn⟩
    rw [readNumber_dump_none hplain hother] at h
    cases h

end Json

/-- **It is a reader of what an encoder writes**, like the compact one. -/
theorem JsonText.ranged_lossless : JsonText.ranged.Lossless := by
  intro j hplain
  show Json.parseRanged (Json.dump j) = .ok j
  have hcompact : Json.parse (Json.dump j) = .ok j := JsonText.compact_lossless j hplain
  unfold Json.parseRanged
  cases hnumber : Json.readNumber (Json.dump j) with
  | none => exact hcompact
  | some l =>
    simp only [Json.not_overRange_dump hplain hnumber]
    exact hcompact

end IoModule

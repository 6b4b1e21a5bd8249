import IoModule.Json.Build
import Mathlib.Data.Nat.Digits.Defs

/-!
# JSON text: the reader and the writer the module relies on

`json::parse` and `to_string` belong to a library outside this repository.
`JsonText` takes them as parameters: bytes to a document or an exception,
and a document to bytes. The one thing the module relies on is `Lossless`:
a document written by an encoder is read back as it was. An encoder writes
`plain` documents only: integers of at most 64 bits, no floats, printable
strings that need no escape, and no key twice.

`compact` is a concrete reader and writer for such documents, without blanks
(`to_string` writes none): `[{"outNum":3,"actType":1}]`. It is a
recursive-descent reader over fuel, and `compact_lossless` is its round trip:
every number is followed by a byte that is no digit, and the fuel only has to
cover the length of the text (`parseValue_dump`).
-/

namespace IoModule

/-- A byte string. -/
abbrev Bytes := List UInt8

/-- A reader and a writer of JSON text. -/
structure JsonText where
  /-- `json::parse` -/
  parse : Bytes → Except JsonError Json
  /-- `to_string` -/
  dump : Json → Bytes

namespace Json

/-- A string the text carries as it is: printable ASCII without the quote
and the backslash. -/
def plainString (s : String) : Bool :=
  s.toList.all fun c => 32 ≤ c.toNat && c.toNat ≤ 126 && c.toNat != 34 && c.toNat != 92

mutual

/-- The documents an encoder writes. -/
def plain : Json → Bool
  | .null => true
  | .boolean _ => true
  | .integer n => decide (-2 ^ 63 ≤ n ∧ n < 2 ^ 64)
  | .float _ => false
  | .string s => plainString s
  | .array es => plainElements es
  | .object ms => decide (ms.map Prod.fst).Nodup && plainMembers ms

/-- Every element is plain. -/
def plainElements : List Json → Bool
  | [] => true
  | e :: es => plain e && plainElements es

/-- Every key and every value is plain. -/
def plainMembers : List (String × Json) → Bool
  | [] => true
  | (k, v) :: ms => plainString k && plain v && plainMembers ms

end

theorem plainElements_iff : ∀ es : List Json, plainElements es = true ↔ ∀ e ∈ es, plain e = true
  | [] => by simp [plainElements]
  | e :: es => by simp [plainElements, plainElements_iff es]

/-- A document grown by writes is plain when its slots are. -/
theorem plain_slots (es : List Json) : (slots es).plain = true ↔ ∀ e ∈ es, plain e = true := by
  cases es with
  | nil => simp [slots, plain]
  | cons e es => exact plainElements_iff (e :: es)

end Json

/-- What the module relies on: an encoder's document survives the text. -/
def JsonText.Lossless (N : JsonText) : Prop :=
  ∀ j : Json, j.plain = true → N.parse (N.dump j) = .ok j

/-! ## A compact writer -/

namespace Json

/-- The bytes of an ASCII string. -/
def ascii (s : String) : Bytes := s.toList.map fun c => UInt8.ofNat c.toNat

/-- A natural number in decimal. -/
def decimal (n : Nat) : Bytes :=
  if n = 0 then [48] else (Nat.digits 10 n).reverse.map fun d => UInt8.ofNat (48 + d)

/-- An integer in decimal, `-` (45) in front of a negative one. -/
def integerText (n : Int) : Bytes :=
  if n < 0 then 45 :: decimal n.natAbs else decimal n.natAbs

/-- A string between quotes (34). -/
def quoted (s : String) : Bytes := 34 :: (ascii s ++ [34])

mutual

/-- The text of a document. A float has none: no encoder writes one. -/
def dump : Json → Bytes
  | .null => ascii "null"
  | .boolean true => ascii "true"
  | .boolean false => ascii "false"
  | .integer n => integerText n
  | .float _ => []
  | .string s => quoted s
  | .array [] => [91, 93]
  | .array (e :: es) => 91 :: (dump e ++ dumpElements es)
  | .object [] => [123, 125]
  | .object ((k, v) :: ms) => 123 :: (quoted k ++ 58 :: (dump v ++ dumpMembers ms))

/-- The elements after the first, a comma (44) before each, and the closing
bracket (93). -/
def dumpElements : List Json → Bytes
  | [] => [93]
  | e :: es => 44 :: (dump e ++ dumpElements es)

/-- The members after the first, a comma before each, and the closing brace
(125). -/
def dumpMembers : List (String × Json) → Bytes
  | [] => [125]
  | (k, v) :: ms => 44 :: (quoted k ++ 58 :: (dump v ++ dumpMembers ms))

end

/-! ## A reader for it -/

/-- A decimal digit. -/
def isDigit (b : UInt8) : Bool := 48 ≤ b.toNat && b.toNat ≤ 57

/-- The number a run of digits stands for. -/
def digitsValue (bs : Bytes) : Nat := bs.foldl (fun acc b => acc * 10 + (b.toNat - 48)) 0

/-- The leading digits as a number, and what follows them. -/
def readDigits (bs : Bytes) : Option (Nat × Bytes) :=
  match bs.takeWhile isDigit with
  | [] => none
  | d :: ds => some (digitsValue (d :: ds), bs.dropWhile isDigit)

/-- The characters up to the closing quote, and what follows it. -/
def readString : Bytes → Option (List Char × Bytes)
  | [] => none
  | b :: bs =>
    if b = 34 then some ([], bs)
    -- an escape: no plain string is written with one
    else if b = 92 then none
    else (readString bs).map fun p => (Char.ofNat b.toNat :: p.1, p.2)

/-- `bs` without the word `w` in front. -/
def readWord : Bytes → Bytes → Option Bytes
  | [], bs => some bs
  | _ :: _, [] => none
  | c :: w, b :: bs => if b = c then readWord w bs else none

/-- One of the three literal words. -/
def readLiteral (bs : Bytes) : Option (Json × Bytes) :=
  match readWord (ascii "null") bs with
  | some rest => some (.null, rest)
  | none =>
    match readWord (ascii "true") bs with
    | some rest => some (.boolean true, rest)
    | none =>
      match readWord (ascii "false") bs with
      | some rest => some (.boolean false, rest)
      | none => none

mutual

/-- Read one value off the front. -/
def parseValue : Nat → Bytes → Option (Json × Bytes)
  | 0, _ => none
  | _ + 1, [] => none
  | n + 1, b :: bs =>
    -- `[`, and `]` at once when there is no element
    if b = 91 then
      if bs.head? = some 93 then some (.array [], bs.tail)
      else match parseValue n bs with
        | none => none
        | some (e, rest) => (parseElements n rest).map fun p => (.array (e :: p.1), p.2)
    -- `{`, likewise
    else if b = 123 then
      if bs.head? = some 125 then some (.object [], bs.tail)
      else match parseMember n bs with
        | none => none
        | some (m, rest) => (parseMembers n rest).map fun p => (.object (m :: p.1), p.2)
    else if b = 34 then (readString bs).map fun p => (.string (String.ofList p.1), p.2)
    else if b = 45 then (readDigits bs).map fun p => (.integer (-(p.1 : Int)), p.2)
    else if isDigit b then (readDigits (b :: bs)).map fun p => (.integer p.1, p.2)
    else readLiteral (b :: bs)

/-- Read the elements after the first. -/
def parseElements : Nat → Bytes → Option (List Json × Bytes)
  | 0, _ => none
  | _ + 1, [] => none
  | n + 1, b :: bs =>
    if b = 93 then some ([], bs)
    else if b = 44 then
      match parseValue n bs with
      | none => none
      | some (e, rest) => (parseElements n rest).map fun p => (e :: p.1, p.2)
    else none

/-- Read one `"key":value`. -/
def parseMember : Nat → Bytes → Option ((String × Json) × Bytes)
  | 0, _ => none
  | _ + 1, [] => none
  | n + 1, b :: bs =>
    if b = 34 then
      match readString bs with
      | some (key, 58 :: rest) =>
        (parseValue n rest).map fun p => ((String.ofList key, p.1), p.2)
      | _ => none
    else none

/-- Read the members after the first. -/
def parseMembers : Nat → Bytes → Option (List (String × Json) × Bytes)
  | 0, _ => none
  | _ + 1, [] => none
  | n + 1, b :: bs =>
    if b = 125 then some ([], bs)
    else if b = 44 then
      match parseMember n bs with
      | none => none
      | some (m, rest) => (parseMembers n rest).map fun p => (m :: p.1, p.2)
    else none

end

/-- Read a whole text: one value and nothing after it. -/
def parse (bs : Bytes) : Except JsonError Json :=
  -- every call of the reader consumes a byte, so the length is fuel enough
  match parseValue (bs.length + 1) bs with
  | some (j, []) => .ok j
  | _ => .error .parseError

end Json

/-! ## Digits -/

namespace Json

/-- The digits of a number, most significant first. -/
def digitsOf (n : Nat) : List Nat := if n = 0 then [0] else (Nat.digits 10 n).reverse

theorem decimal_eq (n : Nat) : decimal n = (digitsOf n).map fun d => UInt8.ofNat (48 + d) := by
  unfold decimal digitsOf
  split <;> rfl

theorem digitsOf_lt {n d : Nat} (h : d ∈ digitsOf n) : d < 10 := by
  unfold digitsOf at h
  split at h
  · have : d = 0 := by simpa using h
    omega
  · exact Nat.digits_lt_base (by omega) (List.mem_reverse.mp h)

theorem digitsOf_ne_nil (n : Nat) : digitsOf n ≠ [] := by
  unfold digitsOf
  split
  · simp
  · next hn => simp [Nat.digits_ne_nil_iff_ne_zero.mpr hn]

theorem digitByte_toNat {d : Nat} (h : d < 10) : (UInt8.ofNat (48 + d)).toNat = 48 + d := by
  rw [UInt8.toNat_ofNat']
  omega

theorem isDigit_digitByte {d : Nat} (h : d < 10) : isDigit (UInt8.ofNat (48 + d)) = true := by
  simp only [isDigit, digitByte_toNat h, Bool.and_eq_true, decide_eq_true_eq]
  omega

theorem decimal_isDigit (n : Nat) : ∀ b ∈ decimal n, isDigit b = true := by
  intro b hb
  rw [decimal_eq] at hb
  obtain ⟨d, hd, rfl⟩ := List.mem_map.mp hb
  exact isDigit_digitByte (digitsOf_lt hd)

theorem decimal_ne_nil (n : Nat) : decimal n ≠ [] := by
  rw [decimal_eq]
  simpa using digitsOf_ne_nil n

/-- Positional value of a list of digits, most significant first. -/
theorem digitsValue_map : ∀ (ds : List Nat) (acc : Nat), (∀ d ∈ ds, d < 10) →
    (ds.map fun d => UInt8.ofNat (48 + d)).foldl (fun acc b => acc * 10 + (b.toNat - 48)) acc
      = ds.foldl (fun acc d => acc * 10 + d) acc
  | [], _, _ => rfl
  | d :: ds, acc, h => by
    have hd : d < 10 := h d (List.mem_cons_self ..)
    simp only [List.map_cons, List.foldl_cons, digitByte_toNat hd, Nat.add_sub_cancel_left]
    exact digitsValue_map ds _ fun x hx => h x (List.mem_cons_of_mem _ hx)

theorem foldl_digitsOf (n : Nat) : (digitsOf n).foldl (fun acc d => acc * 10 + d) 0 = n := by
  unfold digitsOf
  split
  · next hn => simp [hn]
  · rw [List.foldl_reverse]
    have h := Nat.ofDigits_digits 10 n
    rw [Nat.ofDigits_eq_foldr] at h
    calc (Nat.digits 10 n).foldr (fun d acc => acc * 10 + d) 0
        = (Nat.digits 10 n).foldr (fun d acc => d + 10 * acc) 0 := by
          congr 1
          funext d acc
          omega
      _ = n := by simpa using h

theorem digitsValue_decimal (n : Nat) : digitsValue (decimal n) = n := by
  rw [digitsValue, decimal_eq, digitsValue_map _ _ fun d hd => digitsOf_lt hd]
  exact foldl_digitsOf n

/-- What may follow a number: nothing, or a byte that is no digit. -/
def EndsNumber (rest : Bytes) : Prop := ∀ b ∈ rest.head?, isDigit b = false

theorem takeWhile_endsNumber {rest : Bytes} (h : EndsNumber rest) :
    rest.takeWhile isDigit = [] ∧ rest.dropWhile isDigit = rest := by
  cases rest with
  | nil => exact ⟨rfl, rfl⟩
  | cons b bs =>
    have hb : isDigit b = false := h b rfl
    simp [hb]

/-- Reading back a decimal stops where the number ends. -/
theorem readDigits_decimal (n : Nat) {rest : Bytes} (h : EndsNumber rest) :
    readDigits (decimal n ++ rest) = some (n, rest) := by
  obtain ⟨htake, hdrop⟩ := takeWhile_endsNumber h
  have hall := decimal_isDigit n
  unfold readDigits
  rw [List.takeWhile_append_of_pos hall, List.dropWhile_append_of_pos hall, htake, hdrop,
    List.append_nil]
  cases hd : decimal n with
  | nil => exact absurd hd (decimal_ne_nil n)
  | cons d ds =>
    show some (digitsValue (d :: ds), rest) = some (n, rest)
    rw [← hd, digitsValue_decimal]

/-! ## Strings -/

theorem charByte_toNat {c : Char} (h : c.toNat ≤ 126) : (UInt8.ofNat c.toNat).toNat = c.toNat := by
  rw [UInt8.toNat_ofNat']
  omega

/-- Reading back a plain string stops at the closing quote. -/
theorem readString_chars : ∀ (cs : List Char) (rest : Bytes),
    (cs.all fun c => 32 ≤ c.toNat && c.toNat ≤ 126 && c.toNat != 34 && c.toNat != 92) = true →
    readString ((cs.map fun c => UInt8.ofNat c.toNat) ++ 34 :: rest) = some (cs, rest)
  | [], rest, _ => by simp [readString]
  | c :: cs, rest, h => by
    simp only [List.all_cons, Bool.and_eq_true, decide_eq_true_eq, bne_iff_ne, ne_eq] at h
    obtain ⟨⟨⟨⟨_, hhi⟩, hquote⟩, hslash⟩, hcs⟩ := h
    have hnat := charByte_toNat hhi
    have h34 : UInt8.ofNat c.toNat ≠ 34 := fun he => hquote (by rw [← hnat, he]; rfl)
    have h92 : UInt8.ofNat c.toNat ≠ 92 := fun he => hslash (by rw [← hnat, he]; rfl)
    simp only [List.map_cons, List.cons_append, readString, if_neg h34, if_neg h92,
      readString_chars cs rest hcs, Option.map_some, hnat, Char.ofNat_toNat]

theorem readString_ascii {s : String} (h : plainString s = true) (rest : Bytes) :
    readString (ascii s ++ 34 :: rest) = some (s.toList, rest) :=
  readString_chars s.toList rest h

/-! ## Round trip -/

/-- A number starts with a digit or with `-`. -/
theorem integerText_head (n : Int) :
    ∃ b bs, integerText n = b :: bs ∧ (b = 45 ∨ isDigit b = true) := by
  unfold integerText
  split
  · exact ⟨45, _, rfl, Or.inl rfl⟩
  · cases hd : decimal n.natAbs with
    | nil => exact absurd hd (decimal_ne_nil _)
    | cons b bs =>
      have hb : isDigit b = true :=
        decimal_isDigit n.natAbs b (by rw [hd]; exact List.mem_cons_self ..)
      exact ⟨b, bs, rfl, Or.inr hb⟩

/-- A digit is none of the bytes the reader dispatches on first. -/
theorem isDigit_ne {b : UInt8} (h : isDigit b = true) :
    b ≠ 91 ∧ b ≠ 123 ∧ b ≠ 34 ∧ b ≠ 45 ∧ b ≠ 93 := by
  refine ⟨?_, ?_, ?_, ?_, ?_⟩ <;> (rintro rfl; exact absurd h (by decide))

/-- The text of a plain document is not empty and does not start with `]`. -/
theorem dump_head : ∀ {j : Json}, j.plain = true → ∃ b bs, dump j = b :: bs ∧ b ≠ 93
  | .null, _ => ⟨110, [117, 108, 108], by decide +kernel, by decide⟩
  | .boolean true, _ => ⟨116, [114, 117, 101], by decide +kernel, by decide⟩
  | .boolean false, _ => ⟨102, [97, 108, 115, 101], by decide +kernel, by decide⟩
  | .integer n, _ => by
    obtain ⟨b, bs, hb, hdig⟩ := integerText_head n
    refine ⟨b, bs, by rw [dump, hb], ?_⟩
    rcases hdig with rfl | hdig
    · decide
    · exact (isDigit_ne hdig).2.2.2.2
  | .string s, _ => ⟨34, _, rfl, by decide⟩
  | .array [], _ => ⟨91, _, rfl, by decide⟩
  | .array (_ :: _), _ => ⟨91, _, rfl, by decide⟩
  | .object [], _ => ⟨123, _, rfl, by decide⟩
  | .object ((_, _) :: _), _ => ⟨123, _, rfl, by decide⟩

theorem endsNumber_cons {b : UInt8} {bs : Bytes} (h : isDigit b = false) : EndsNumber (b :: bs) := by
  intro c hc
  have hcb : c = b := by simpa using hc.symm
  rw [hcb]
  exact h

theorem endsNumber_elements (es : List Json) (rest : Bytes) :
    EndsNumber (dumpElements es ++ rest) := by
  cases es <;> exact endsNumber_cons (by decide)

theorem endsNumber_members (ms : List (String × Json)) (rest : Bytes) :
    EndsNumber (dumpMembers ms ++ rest) := by
  cases ms <;> exact endsNumber_cons (by decide)

/-- The literal words are read back. -/
theorem readLiteral_word (rest : Bytes) :
    readLiteral (ascii "null" ++ rest) = some (.null, rest)
      ∧ readLiteral (ascii "true" ++ rest) = some (.boolean true, rest)
      ∧ readLiteral (ascii "false" ++ rest) = some (.boolean false, rest) := by
  have hnull : ascii "null" = [110, 117, 108, 108] := by decide +kernel
  have htrue : ascii "true" = [116, 114, 117, 101] := by decide +kernel
  have hfalse : ascii "false" = [102, 97, 108, 115, 101] := by decide +kernel
  simp [readLiteral, hnull, htrue, hfalse, readWord]

/-- A literal word is handed to `readLiteral`. -/
theorem parseValue_word {b : UInt8} {bs : Bytes} (n : Nat)
    (h : b = 110 ∨ b = 116 ∨ b = 102) :
    parseValue (n + 1) (b :: bs) = readLiteral (b :: bs) := by
  rcases h with rfl | rfl | rfl <;> simp [parseValue, isDigit]

/-- Numbers are read back. -/
theorem parseValue_integerText (z : Int) (n : Nat) {rest : Bytes} (h : EndsNumber rest) :
    parseValue (n + 1) (integerText z ++ rest) = some (.integer z, rest) := by
  unfold integerText
  split
  · next hneg =>
    have hread := readDigits_decimal z.natAbs h
    have hz : -(z.natAbs : Int) = z := by omega
    have h91 : ¬ (45 : UInt8) = 91 := by decide
    have h123 : ¬ (45 : UInt8) = 123 := by decide
    have h34 : ¬ (45 : UInt8) = 34 := by decide
    simp only [List.cons_append, parseValue, if_neg h91, if_neg h123, if_neg h34, reduceIte,
      hread, Option.map_some, hz]
  · next hpos =>
    have hread := readDigits_decimal z.natAbs h
    have hz : (z.natAbs : Int) = z := by omega
    cases hd : decimal z.natAbs with
    | nil => exact absurd hd (decimal_ne_nil _)
    | cons b bs =>
      have hb : isDigit b = true :=
        decimal_isDigit z.natAbs b (by rw [hd]; exact List.mem_cons_self ..)
      obtain ⟨h91, h123, h34, h45, _⟩ := isDigit_ne hb
      rw [hd] at hread
      rw [List.cons_append] at hread ⊢
      simp only [parseValue, if_neg h91, if_neg h123, if_neg h34, if_neg h45, if_pos hb, hread,
        Option.map_some, hz]

mutual

/-- **Round trip, one value.** With fuel for its length, the reader takes a
plain document's text off the front of whatever follows it. -/
theorem parseValue_dump : ∀ (j : Json) (n : Nat) (rest : Bytes), j.plain = true →
    (dump j).length ≤ n → EndsNumber rest → parseValue n (dump j ++ rest) = some (j, rest)
  | j, 0, rest, hj, hn, _ => by
    obtain ⟨b, bs, hb, _⟩ := dump_head hj
    rw [hb] at hn
    exact absurd hn (by simp)
  | .null, n + 1, rest, _, _, _ => by
    rw [show dump .null = ascii "null" from rfl, ← (readLiteral_word rest).1]
    exact parseValue_word n (Or.inl (by decide +kernel))
  | .boolean true, n + 1, rest, _, _, _ => by
    rw [show dump (.boolean true) = ascii "true" from rfl, ← (readLiteral_word rest).2.1]
    exact parseValue_word n (Or.inr (Or.inl (by decide +kernel)))
  | .boolean false, n + 1, rest, _, _, _ => by
    rw [show dump (.boolean false) = ascii "false" from rfl, ← (readLiteral_word rest).2.2]
    exact parseValue_word n (Or.inr (Or.inr (by decide +kernel)))
  | .integer z, n + 1, rest, _, _, hrest => parseValue_integerText z n hrest
  | .string s, n + 1, rest, hj, _, _ => by
    have hs : plainString s = true := hj
    have hread := readString_ascii hs rest
    simp [dump, quoted, parseValue, hread, String.ofList_toList]
  | .array [], n + 1, rest, _, _, _ => by simp [dump, parseValue]
  | .array (e :: es), n + 1, rest, hj, hn, _ => by
    simp only [plain, plainElements, Bool.and_eq_true] at hj
    -- the reader must not take the first element for the closing bracket
    obtain ⟨b, bs, hb, h93⟩ := dump_head hj.1
    have hhead : (dump e ++ (dumpElements es ++ rest)).head? ≠ some 93 := by
      rw [hb]
      simpa using h93
    simp only [dump, List.length_cons, List.length_append] at hn
    have hfirst := parseValue_dump e n (dumpElements es ++ rest) hj.1 (by omega)
      (endsNumber_elements es rest)
    have hothers := parseElements_dump es n rest hj.2 (by omega)
    simp only [dump, List.cons_append, List.append_assoc, parseValue, reduceIte, if_neg hhead,
      hfirst, hothers, Option.map_some]
  | .object [], n + 1, rest, _, _, _ => by simp [dump, parseValue]
  | .object ((k, v) :: ms), n + 1, rest, hj, hn, _ => by
    simp only [plain, plainMembers, Bool.and_eq_true] at hj
    obtain ⟨_, ⟨hk, hv⟩, hms⟩ := hj
    simp only [dump, quoted, List.length_cons, List.length_append, List.length_nil] at hn
    have hmember := parseMember_dump k v n (dumpMembers ms ++ rest) hk hv (by omega)
      (endsNumber_members ms rest)
    have hothers := parseMembers_dump ms n rest hms (by omega)
    have hhead : (quoted k ++ 58 :: (dump v ++ (dumpMembers ms ++ rest))).head? ≠ some 125 := by
      simp [quoted]
    have h123 : ¬ (123 : UInt8) = 91 := by decide
    simp only [dump, List.cons_append, List.append_assoc, parseValue, if_neg h123, reduceIte,
      if_neg hhead, hmember, hothers, Option.map_some]

/-- Round trip of the elements after the first. -/
theorem parseElements_dump : ∀ (es : List Json) (n : Nat) (rest : Bytes),
    plainElements es = true → (dumpElements es).length ≤ n →
    parseElements n (dumpElements es ++ rest) = some (es, rest)
  | es, 0, rest, _, hn => by cases es <;> exact absurd hn (by simp [dumpElements])
  | [], n + 1, rest, _, _ => by simp [dumpElements, parseElements]
  | e :: es, n + 1, rest, hes, hn => by
    simp only [plainElements, Bool.and_eq_true] at hes
    simp only [dumpElements, List.length_cons, List.length_append] at hn
    have hfirst := parseValue_dump e n (dumpElements es ++ rest) hes.1 (by omega)
      (endsNumber_elements es rest)
    have hothers := parseElements_dump es n rest hes.2 (by omega)
    have h44 : ¬ (44 : UInt8) = 93 := by decide
    simp only [dumpElements, List.cons_append, List.append_assoc, parseElements, if_neg h44,
      reduceIte, hfirst, hothers, Option.map_some]

/-- Round trip of one member. -/
theorem parseMember_dump : ∀ (k : String) (v : Json) (n : Nat) (rest : Bytes),
    plainString k = true → v.plain = true → (dump v).length + 1 ≤ n → EndsNumber rest →
    parseMember n (quoted k ++ 58 :: (dump v ++ rest)) = some ((k, v), rest)
  | _, _, 0, _, _, _, hn, _ => absurd hn (by omega)
  | k, v, n + 1, rest, hk, hv, hn, hrest => by
    have hvalue := parseValue_dump v n rest hv (by omega) hrest
    have hread := readString_ascii hk (58 :: (dump v ++ rest))
    simp only [quoted, List.cons_append, List.append_assoc, List.nil_append, parseMember,
      reduceIte, hread, hvalue, Option.map_some, String.ofList_toList]

/-- Round trip of the members after the first. -/
theorem parseMembers_dump : ∀ (ms : List (String × Json)) (n : Nat) (rest : Bytes),
    plainMembers ms = true → (dumpMembers ms).length ≤ n →
    parseMembers n (dumpMembers ms ++ rest) = some (ms, rest)
  | ms, 0, rest, _, hn => by cases ms <;> exact absurd hn (by simp [dumpMembers])
  | [], n + 1, rest, _, _ => by simp [dumpMembers, parseMembers]
  | (k, v) :: ms, n + 1, rest, hms, hn => by
    simp only [plainMembers, Bool.and_eq_true] at hms
    obtain ⟨⟨hk, hv⟩, hms⟩ := hms
    simp only [dumpMembers, quoted, List.length_cons, List.length_append, List.length_nil] at hn
    have hmember := parseMember_dump k v n (dumpMembers ms ++ rest) hk hv (by omega)
      (endsNumber_members ms rest)
    have hothers := parseMembers_dump ms n rest hms (by omega)
    have h44 : ¬ (44 : UInt8) = 125 := by decide
    simp only [dumpMembers, List.cons_append, List.append_assoc, parseMembers, if_neg h44,
      reduceIte, hmember, hothers, Option.map_some]

end

end Json

/-- The compact reader and writer. -/
def JsonText.compact : JsonText := ⟨Json.parse, Json.dump⟩

/-- **The compact text is lossless** on every plain document. -/
theorem JsonText.compact_lossless : JsonText.compact.Lossless := by
  intro j hj
  have hread := Json.parseValue_dump j ((Json.dump j).length + 1) [] hj (by omega)
    (fun b hb => by cases hb)
  rw [List.append_nil] at hread
  show Json.parse (Json.dump j) = .ok j
  unfold Json.parse
  rw [hread]

end IoModule

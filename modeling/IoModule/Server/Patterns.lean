import Mathlib.Data.List.TakeWhile
import Mathlib.Data.Set.List
import IoModule.Server.Init

/-!
# What the patterns of `init` accept

Two settings are checked by a `std::regex`. `Init` has the two patterns as
regular expressions; here is what they mean.

- A name is a word of lower-case letters, digits and underscores
  (`acceptsName_iff`).
- A number is what `std::stoi` makes one of: spaces, a sign, digits, and behind
  them anything that is no digit (`acceptsCount_iff`).
- A URL has the parts of the structure `Url`: a scheme, domains with a dot
  behind each, a host, an optional port, and the segments of a path. `acceptsUrl`
  accepts exactly the texts of such URLs (`acceptsUrl_iff`).
-/

namespace IoModule

namespace Pattern

open RegularExpression

/-- Any number of characters out of some. -/
abbrev Chars (chars : String) := { w : List Char // ∀ c ∈ w, c ∈ chars.toList }

/-- At least one character out of some. -/
abbrev Word (chars : String) := { w : List Char // w ≠ [] ∧ ∀ c ∈ w, c ∈ chars.toList }

/-! ## The pieces of a pattern -/

theorem mem_char {c : Char} {w : List Char} : w ∈ (char c).matches' ↔ w = [c] := Iff.rfl

theorem mem_oneOf {chars : String} {w : List Char} :
    w ∈ (oneOf chars).matches' ↔ ∃ c ∈ chars.toList, w = [c] := by
  unfold oneOf
  induction chars.toList with
  | nil => simp
  | cons c cs ih =>
    rw [List.map_cons, List.sum_cons, matches'_add, Language.mem_add, ih, mem_char]
    simp

theorem mem_text {chars : String} {w : List Char} :
    w ∈ (text chars).matches' ↔ w = chars.toList := by
  unfold text
  induction chars.toList generalizing w with
  | nil => simp
  | cons c cs ih =>
    rw [List.map_cons, List.prod_cons, matches'_mul, Language.mem_mul]
    constructor
    · intro hex
      obtain ⟨a, ha, b, hb, rfl⟩ := hex
      rw [mem_char.mp ha, ih.mp hb, List.singleton_append]
    · intro hw
      exact ⟨[c], mem_char.mpr rfl, cs, ih.mpr rfl, hw.symm⟩

theorem mem_star_oneOf {chars : String} {w : List Char} :
    w ∈ (oneOf chars).star.matches' ↔ ∀ c ∈ w, c ∈ chars.toList := by
  rw [matches'_star, Language.mem_kstar]
  constructor
  · intro hex c hc
    obtain ⟨ws, rfl, hws⟩ := hex
    obtain ⟨v, hv, hcv⟩ := List.mem_flatten.mp hc
    obtain ⟨d, hd, rfl⟩ := mem_oneOf.mp (hws v hv)
    rw [List.mem_singleton.mp hcv]
    exact hd
  · intro h
    refine ⟨w.map fun c => [c], (List.flatMap_singleton' w).symm, fun v hv => ?_⟩
    obtain ⟨c, hc, rfl⟩ := List.mem_map.mp hv
    exact mem_oneOf.mpr ⟨c, h c hc, rfl⟩

theorem mem_oneOrMore_oneOf {chars : String} {w : List Char} :
    w ∈ (oneOrMore (oneOf chars)).matches' ↔ w ≠ [] ∧ ∀ c ∈ w, c ∈ chars.toList := by
  unfold oneOrMore
  rw [matches'_mul, Language.mem_mul]
  constructor
  · intro hex
    obtain ⟨a, ha, b, hb, rfl⟩ := hex
    obtain ⟨c, hc, rfl⟩ := mem_oneOf.mp ha
    exact ⟨List.cons_ne_nil c b, List.forall_mem_cons.mpr ⟨hc, mem_star_oneOf.mp hb⟩⟩
  · intro h
    obtain ⟨hne, hall⟩ := h
    cases w with
    | nil => exact absurd rfl hne
    | cons c cs =>
      obtain ⟨hc, hcs⟩ := List.forall_mem_cons.mp hall
      exact ⟨[c], mem_oneOf.mpr ⟨c, hc, rfl⟩, cs, mem_star_oneOf.mpr hcs, rfl⟩

theorem mem_orNot {r : RegularExpression Char} {w : List Char} :
    w ∈ (orNot r).matches' ↔ w ∈ r.matches' ∨ w = [] := Iff.rfl

/-- A piece that may be left out, and may be repeated: any number of it. -/
theorem mem_oneOrMore_orNot {r : RegularExpression Char} {w : List Char} :
    w ∈ (oneOrMore (orNot r)).matches'
      ↔ ∃ ws : List (List Char), (∀ v ∈ ws, v ∈ r.matches') ∧ w = ws.flatten := by
  unfold oneOrMore
  rw [matches'_mul, matches'_star, Language.mem_mul]
  constructor
  · intro hex
    obtain ⟨a, ha, b, hb, rfl⟩ := hex
    obtain ⟨vs, rfl, hvs⟩ := Language.mem_kstar.mp hb
    -- the pieces left out are the empty ones
    refine ⟨(a :: vs).filter fun v => !v.isEmpty, fun v hv => ?_, by
      rw [List.flatten_filter_not_isEmpty]; rfl⟩
    obtain ⟨hmem, hne⟩ := List.mem_filter.mp hv
    have hpiece : v ∈ (orNot r).matches' := by
      rcases List.mem_cons.mp hmem with rfl | hmem
      · exact ha
      · exact hvs v hmem
    rcases mem_orNot.mp hpiece with hr | rfl
    · exact hr
    · cases hne
  · intro hex
    obtain ⟨ws, hws, rfl⟩ := hex
    exact ⟨[], mem_orNot.mpr (Or.inr rfl), _, Language.mem_kstar.mpr
      ⟨ws, rfl, fun v hv => mem_orNot.mpr (Or.inl (hws v hv))⟩, rfl⟩

/-- A piece of one form that may be left out. -/
theorem mem_orNot_form {α : Type} {r : RegularExpression Char} {f : α → List Char}
    (h : ∀ v, v ∈ r.matches' ↔ ∃ x, f x = v) {w : List Char} :
    w ∈ (orNot r).matches' ↔ ∃ x : Option α, w = (x.map f).getD [] := by
  rw [mem_orNot, h]
  constructor
  · intro hor
    rcases hor with ⟨x, rfl⟩ | rfl
    · exact ⟨some x, rfl⟩
    · exact ⟨none, rfl⟩
  · intro hex
    obtain ⟨x, rfl⟩ := hex
    cases x with
    | none => exact Or.inr rfl
    | some x => exact Or.inl ⟨x, rfl⟩

/-- A piece of one form that may be left out and may be repeated. -/
theorem mem_oneOrMore_orNot_form {α : Type} {r : RegularExpression Char} {f : α → List Char}
    (h : ∀ v, v ∈ r.matches' ↔ ∃ x, f x = v) {w : List Char} :
    w ∈ (oneOrMore (orNot r)).matches' ↔ ∃ xs : List α, w = (xs.map f).flatten := by
  rw [mem_oneOrMore_orNot]
  constructor
  · intro hex
    obtain ⟨ws, hws, rfl⟩ := hex
    obtain ⟨xs, rfl⟩ := (Set.range_list_map f).ge fun v hv => (h v).mp (hws v hv)
    exact ⟨xs, rfl⟩
  · intro hex
    obtain ⟨xs, rfl⟩ := hex
    refine ⟨_, fun v hv => ?_, rfl⟩
    obtain ⟨x, -, hx⟩ := List.mem_map.mp hv
    exact (h v).mpr ⟨x, hx⟩

/-! ## URLs -/

/-- `[\w-]` -/
def wordChars : String := lowercase ++ "ABCDEFGHIJKLMNOPQRSTUVWXYZ" ++ digits ++ "_-"

/-- A URL as the pattern has it: a scheme, the domains in front of the host,
the host, a port and the segments of a path. -/
structure Url where
  secure : Bool
  domains : List (Word wordChars)
  host : Word wordChars
  port : Option (Word digits)
  path : List (Chars wordChars)

namespace Url

/-- The text of a domain, a port, a segment. -/
def domainText (domain : Word wordChars) : List Char := domain.1 ++ ".".toList
def portText (port : Word digits) : List Char := ":".toList ++ port.1
def segmentText (segment : Chars wordChars) : List Char := "/".toList ++ segment.1

/-- The text of a URL. -/
def toText (u : Url) : List Char :=
  (if u.secure then "https".toList else "http".toList) ++ "://".toList
    ++ (u.domains.map domainText).flatten ++ u.host.1 ++ (u.port.map portText).getD []
    ++ (u.path.map segmentText).flatten

end Url

theorem mem_scheme {w : List Char} :
    w ∈ (text "http" + text "https").matches'
      ↔ ∃ secure : Bool, w = if secure then "https".toList else "http".toList := by
  rw [matches'_add, Language.mem_add, mem_text, mem_text]
  simp

theorem mem_domain {w : List Char} :
    w ∈ (oneOrMore wordOrDash * text ".").matches' ↔ ∃ domain, Url.domainText domain = w := by
  rw [matches'_mul, Language.mem_mul]
  constructor
  · intro hex
    obtain ⟨a, ha, b, hb, rfl⟩ := hex
    rw [mem_text.mp hb]
    exact ⟨⟨a, mem_oneOrMore_oneOf.mp ha⟩, rfl⟩
  · intro hex
    obtain ⟨domain, rfl⟩ := hex
    exact ⟨domain.1, mem_oneOrMore_oneOf.mpr domain.2, _, mem_text.mpr rfl, rfl⟩

theorem mem_port {w : List Char} :
    w ∈ (text ":" * oneOrMore (oneOf digits)).matches' ↔ ∃ port, Url.portText port = w := by
  rw [matches'_mul, Language.mem_mul]
  constructor
  · intro hex
    obtain ⟨a, ha, b, hb, rfl⟩ := hex
    rw [mem_text.mp ha]
    exact ⟨⟨b, mem_oneOrMore_oneOf.mp hb⟩, rfl⟩
  · intro hex
    obtain ⟨port, rfl⟩ := hex
    exact ⟨_, mem_text.mpr rfl, port.1, mem_oneOrMore_oneOf.mpr port.2, rfl⟩

theorem mem_segment {w : List Char} :
    w ∈ (text "/" * wordOrDash.star).matches' ↔ ∃ segment, Url.segmentText segment = w := by
  rw [matches'_mul, Language.mem_mul]
  constructor
  · intro hex
    obtain ⟨a, ha, b, hb, rfl⟩ := hex
    rw [mem_text.mp ha]
    exact ⟨⟨b, mem_star_oneOf.mp hb⟩, rfl⟩
  · intro hex
    obtain ⟨segment, rfl⟩ := hex
    exact ⟨_, mem_text.mpr rfl, segment.1, mem_star_oneOf.mpr segment.2, rfl⟩

end Pattern

/-- **What a URL is to `init`**: the text of a scheme, domains, a host, a port
and a path. -/
theorem acceptsUrl_iff (value : String) :
    acceptsUrl value = true ↔ ∃ u : Pattern.Url, value.toList = u.toText := by
  unfold acceptsUrl Pattern.url
  rw [RegularExpression.rmatch_iff_matches']
  simp only [RegularExpression.matches'_mul, Language.mem_mul]
  constructor
  · intro hex
    obtain ⟨_, ⟨_, ⟨_, ⟨_, ⟨scheme, hscheme, colon, hcolon, rfl⟩, domains, hdomains, rfl⟩,
      host, hhost, rfl⟩, port, hport, rfl⟩, path, hpath, htext⟩ := hex
    obtain ⟨secure, rfl⟩ := Pattern.mem_scheme.mp hscheme
    obtain ⟨domains, rfl⟩ := (Pattern.mem_oneOrMore_orNot_form fun _ => Pattern.mem_domain).mp hdomains
    obtain ⟨port, rfl⟩ := (Pattern.mem_orNot_form fun _ => Pattern.mem_port).mp hport
    obtain ⟨path, rfl⟩ := (Pattern.mem_oneOrMore_orNot_form fun _ => Pattern.mem_segment).mp hpath
    rw [Pattern.mem_text.mp hcolon] at htext
    exact ⟨⟨secure, domains, ⟨host, Pattern.mem_oneOrMore_oneOf.mp hhost⟩, port, path⟩, htext.symm⟩
  · intro hex
    obtain ⟨u, hu⟩ := hex
    exact ⟨_, ⟨_, ⟨_, ⟨_, ⟨_, Pattern.mem_scheme.mpr ⟨u.secure, rfl⟩, _, Pattern.mem_text.mpr rfl, rfl⟩,
      _, (Pattern.mem_oneOrMore_orNot_form fun _ => Pattern.mem_domain).mpr ⟨u.domains, rfl⟩, rfl⟩,
      _, Pattern.mem_oneOrMore_oneOf.mpr u.host.2, rfl⟩,
      _, (Pattern.mem_orNot_form fun _ => Pattern.mem_port).mpr ⟨u.port, rfl⟩, rfl⟩,
      _, (Pattern.mem_oneOrMore_orNot_form fun _ => Pattern.mem_segment).mpr ⟨u.path, rfl⟩, hu.symm⟩

/-- **What a name is to `init`**: a word of the characters it lists. -/
theorem acceptsName_iff (value : String) :
    acceptsName value = true ↔ value ≠ ""
      ∧ ∀ c ∈ value.toList, c ∈ (Pattern.lowercase ++ Pattern.digits ++ "_").toList := by
  unfold acceptsName Pattern.name
  rw [Bool.and_eq_true, RegularExpression.rmatch_iff_matches', Pattern.mem_star_oneOf, bne_iff_ne,
    and_comm]

/-! ## Numbers -/

/-- The number that digits write. -/
def decimal (ds : List Char) : Nat := ds.foldl (fun n c => 10 * n + (c.toNat - '0'.toNat)) 0

/-- A text that `std::stoi` reads as a number that is not negative. Whatever
follows the digits is not looked at. -/
structure CountText (value : String) (n : Nat) (spaces sign ds rest : List Char) : Prop where
  text_eq : value.toList = spaces ++ (sign ++ (ds ++ rest))
  spaces : ∀ c ∈ spaces, isSpace c = true
  sign : sign = [] ∨ sign = ['+'] ∨ (sign = ['-'] ∧ n = 0)
  digits_ne : ds ≠ []
  digits : ∀ c ∈ ds, c.isDigit = true
  ends : ∀ c ∈ rest.head?, c.isDigit = false
  decimal_eq : decimal ds = n
  fits : n < 2 ^ 31

/-- A digit is neither a space nor a sign. -/
theorem digit_cases {c : Char} (h : c.isDigit = true) : isSpace c = false ∧ c ≠ '-' ∧ c ≠ '+' := by
  have hlow : 48 ≤ c.toNat ∧ c.toNat ≤ 57 := by
    simpa [Char.isDigit, UInt32.le_iff_toNat_le] using h
  refine ⟨?_, ?_, ?_⟩
  · have hspace : c ≠ ' ' := by
      rintro rfl
      exact absurd hlow.1 (by decide)
    simp [isSpace, hspace]
    omega
  · rintro rfl
    exact absurd hlow.1 (by decide)
  · rintro rfl
    exact absurd hlow.1 (by decide)

/-- What `std::stoi` makes of the text behind the sign. -/
def stoiDigits (negative : Bool) (cs : List Char) : Option Int :=
  match cs.takeWhile Char.isDigit with
  | [] => none
  | ds =>
    let n : Int := if negative then -(decimal ds : Int) else decimal ds
    if -2 ^ 31 ≤ n ∧ n < 2 ^ 31 then some n else none

/-- The sign in front of a text, and what is behind it. -/
def splitSign : List Char → Bool × List Char
  | '-' :: cs => (true, cs)
  | '+' :: cs => (false, cs)
  | cs => (false, cs)

theorem stoi_eq (value : String) :
    stoi value = stoiDigits (splitSign (value.toList.dropWhile isSpace)).1
      (splitSign (value.toList.dropWhile isSpace)).2 := rfl

/-- A text splits at the end of its digits. -/
theorem takeWhile_digits_eq_iff (cs ds : List Char) :
    cs.takeWhile Char.isDigit = ds ↔ ∃ rest, cs = ds ++ rest ∧ (∀ c ∈ ds, c.isDigit = true)
      ∧ ∀ c ∈ rest.head?, c.isDigit = false := by
  constructor
  · rintro rfl
    refine ⟨cs.dropWhile Char.isDigit, List.takeWhile_append_dropWhile.symm,
      fun c hc => List.mem_takeWhile_imp hc, fun c hc => ?_⟩
    have hend := List.head?_dropWhile_not Char.isDigit cs
    rw [hc] at hend
    exact hend
  · intro hex
    obtain ⟨rest, rfl, hds, hrest⟩ := hex
    rw [List.takeWhile_append_of_pos hds]
    cases rest with
    | nil => simp
    | cons c rest =>
      have hc : c.isDigit = false := hrest c rfl
      rw [List.takeWhile_cons_of_neg (by simp [hc]), List.append_nil]

/-- The digits behind a sign, and what follows them. -/
theorem stoiDigits_natCast_iff (negative : Bool) (cs : List Char) (n : Nat) :
    stoiDigits negative cs = some (n : Int) ↔ ∃ ds rest, cs = ds ++ rest ∧ ds ≠ []
      ∧ (∀ c ∈ ds, c.isDigit = true) ∧ (∀ c ∈ rest.head?, c.isDigit = false)
      ∧ decimal ds = n ∧ n < 2 ^ 31 ∧ (negative = true → n = 0) := by
  cases hds : cs.takeWhile Char.isDigit with
  | nil =>
    simp only [stoiDigits, hds]
    refine iff_of_false (fun h => nomatch h) fun hex => ?_
    obtain ⟨ds, rest, hcs, hne, hall, hend, -⟩ := hex
    have htake := (takeWhile_digits_eq_iff cs ds).mpr ⟨rest, hcs, hall, hend⟩
    exact hne (htake.symm.trans hds)
  | cons d ds =>
    have hvalue : stoiDigits negative cs = some (n : Int)
        ↔ decimal (d :: ds) = n ∧ n < 2 ^ 31 ∧ (negative = true → n = 0) := by
      simp only [stoiDigits, hds]
      generalize decimal (d :: ds) = magnitude
      cases negative with
      | false =>
        rw [if_neg Bool.false_ne_true, Option.ite_none_right_eq_some, Option.some.injEq]
        simp only [reduceCtorEq, false_implies, and_true]
        omega
      | true =>
        rw [if_pos rfl, Option.ite_none_right_eq_some, Option.some.injEq]
        simp only [true_implies]
        omega
    rw [hvalue]
    constructor
    · intro h
      obtain ⟨rest, hcs, hall, hend⟩ := (takeWhile_digits_eq_iff cs _).mp hds
      exact ⟨d :: ds, rest, hcs, List.cons_ne_nil d ds, hall, hend, h⟩
    · intro hex
      obtain ⟨ds', rest, hcs, -, hall, hend, h⟩ := hex
      have htake := (takeWhile_digits_eq_iff cs ds').mpr ⟨rest, hcs, hall, hend⟩
      rw [← hds, htake]
      exact h

/-- A text whose first character is no sign. -/
theorem splitSign_unsigned {c : Char} (hminus : c ≠ '-') (hplus : c ≠ '+') (cs : List Char) :
    splitSign (c :: cs) = (false, c :: cs) := by
  unfold splitSign
  split
  next heq => exact absurd (List.cons.inj heq).1 hminus
  next heq => exact absurd (List.cons.inj heq).1 hplus
  next => rfl

/-- The sign that was split off. -/
theorem splitSign_cases (cs : List Char) : ∃ sign, cs = sign ++ (splitSign cs).2
    ∧ (sign = [] ∨ sign = ['+'] ∨ (sign = ['-'] ∧ (splitSign cs).1 = true)) := by
  unfold splitSign
  split
  next => exact ⟨['-'], rfl, Or.inr (Or.inr ⟨rfl, rfl⟩)⟩
  next => exact ⟨['+'], rfl, Or.inr (Or.inl rfl)⟩
  next => exact ⟨[], rfl, Or.inl rfl⟩

/-- Behind the spaces and the sign of a number stand its digits. -/
theorem CountText.splitSign_eq {value : String} {n : Nat} {spaces sign ds rest : List Char}
    (h : CountText value n spaces sign ds rest) :
    ∃ negative, splitSign (value.toList.dropWhile isSpace) = (negative, ds ++ rest)
      ∧ (negative = true → n = 0) := by
  obtain ⟨d, ds', rfl⟩ := List.exists_cons_of_ne_nil h.digits_ne
  obtain ⟨hspace, hminus, hplus⟩ := digit_cases (h.digits d (List.mem_cons_self ..))
  rw [h.text_eq, List.dropWhile_append_of_pos h.spaces]
  rcases h.sign with rfl | rfl | ⟨rfl, hzero⟩
  · refine ⟨false, ?_, fun hneg => nomatch hneg⟩
    rw [List.nil_append, List.cons_append, List.dropWhile_cons_of_neg (by simp [hspace])]
    exact splitSign_unsigned hminus hplus _
  · exact ⟨false, rfl, fun hneg => nomatch hneg⟩
  · exact ⟨true, rfl, fun _ => hzero⟩

/-- **What a number is to `init`.** -/
theorem stoi_natCast_iff (value : String) (n : Nat) :
    stoi value = some (n : Int) ↔ ∃ spaces sign ds rest, CountText value n spaces sign ds rest := by
  rw [stoi_eq, stoiDigits_natCast_iff]
  constructor
  · intro hex
    obtain ⟨ds, rest, hcs, hne, hall, hend, hdecimal, hfits, hzero⟩ := hex
    obtain ⟨sign, hsign, hkind⟩ := splitSign_cases (value.toList.dropWhile isSpace)
    have hvalue := (List.takeWhile_append_dropWhile (p := isSpace) (l := value.toList)).symm
    rw [hsign, hcs] at hvalue
    refine ⟨_, sign, ds, rest, hvalue, fun c hc => List.mem_takeWhile_imp hc, ?_, hne, hall, hend,
      hdecimal, hfits⟩
    rcases hkind with hnone | hplus | ⟨hminus, hnegative⟩
    · exact Or.inl hnone
    · exact Or.inr (Or.inl hplus)
    · exact Or.inr (Or.inr ⟨hminus, hzero hnegative⟩)
  · intro hex
    obtain ⟨spaces, sign, ds, rest, h⟩ := hex
    obtain ⟨negative, hsplit, hzero⟩ := h.splitSign_eq
    rw [hsplit]
    exact ⟨ds, rest, rfl, h.digits_ne, h.digits, h.ends, h.decimal_eq, h.fits, hzero⟩

/-- A number passes its check if it is one. -/
theorem acceptsCount_iff (value : String) :
    acceptsCount value = true
      ↔ ∃ n spaces sign ds rest, CountText value n spaces sign ds rest := by
  simp only [← stoi_natCast_iff]
  constructor
  · intro h
    obtain ⟨n, hn, hnonneg⟩ := stoi_of_acceptsCount h
    exact ⟨n.toNat, by rw [hn, Int.toNat_of_nonneg hnonneg]⟩
  · intro hex
    obtain ⟨n, hn⟩ := hex
    have hne : value ≠ "" := by
      rintro rfl
      cases hn
    unfold acceptsCount
    rw [hn]
    simp [hne]

end IoModule

import Mathlib.Computability.RegularExpressions
import IoModule.Dispatch
import IoModule.Server.Context

/-!
# `init`

`init` builds the context of the external server API from the key/value pairs
of its configuration (`external_server_api.cpp`). It declares a variable for
each of eight settings, walks the pairs, and returns `nullptr` at the first
value that fails its check. The variables are then handed to the HTTP client:
four strings, and four numbers for the guard of its request frequency.

Reading notes:
- A `std::string` is a `String` with a character for each byte.
- The four strings start out empty. The four numbers are declared without a
  value: `none` is the value of a number nothing has been assigned to.
- The order of the pairs is that of the map behind the configuration. It is a
  list here, whatever the order is.
- `std::regex_match` matches the whole text, so the anchors say nothing more,
  and a quantifier applies to what is in front of it, quantified or not.

No check is made after the loop. So what is listed is checked, and the
variables hold what is listed (`init_builtFrom`), but a setting that is not
listed is not missed: `init_built_from_settings_iff` says that the context is
built from proper settings exactly if all of them are listed or a listed one
is refused.
-/

namespace IoModule

/-! ## The patterns -/

namespace Pattern

/-- `[..]` -/
def oneOf (chars : String) : RegularExpression Char :=
  (chars.toList.map RegularExpression.char).sum

/-- The text itself. -/
def text (chars : String) : RegularExpression Char :=
  (chars.toList.map RegularExpression.char).prod

/-- `..?` -/
def orNot (r : RegularExpression Char) : RegularExpression Char := r + 1

/-- `..+` -/
def oneOrMore (r : RegularExpression Char) : RegularExpression Char := r * r.star

/-- `[0-9]` -/
def digits : String := "0123456789"

/-- `[a-z]` -/
def lowercase : String := "abcdefghijklmnopqrstuvwxyz"

/-- `[\w-]`: letters, digits, the underscore and the dash. -/
def wordOrDash : RegularExpression Char :=
  oneOf (lowercase ++ "ABCDEFGHIJKLMNOPQRSTUVWXYZ" ++ digits ++ "_-")

/-- `^(http|https)://([\w-]+\.)?+[\w-]+(:[0-9]+)?(/[\w-]*)?+$` -/
def url : RegularExpression Char :=
  (text "http" + text "https") * text "://"
    * oneOrMore (orNot (oneOrMore wordOrDash * text "."))
    * oneOrMore wordOrDash
    * orNot (text ":" * oneOrMore (oneOf digits))
    * oneOrMore (orNot (text "/" * wordOrDash.star))

/-- `^[a-z0-9_]*$` -/
def name : RegularExpression Char := (oneOf (lowercase ++ digits ++ "_")).star

end Pattern

/-! ## The checks -/

/-- `isspace`, in the locale a program starts with. -/
def isSpace (c : Char) : Bool :=
  c = ' ' || (9 ≤ c.toNat && c.toNat ≤ 13)

/-- `std::stoi`: spaces, a sign and as many digits as follow. It throws
without a digit, and on what is no `int`. -/
def stoi (str : String) : Option Int :=
  let (negative, rest) := match str.toList.dropWhile isSpace with
    | '-' :: cs => (true, cs)
    | '+' :: cs => (false, cs)
    | cs => (false, cs)
  match rest.takeWhile Char.isDigit with
  | [] => none
  | ds =>
    let magnitude : Nat := ds.foldl (fun n c => 10 * n + (c.toNat - '0'.toNat)) 0
    let n : Int := if negative then -magnitude else magnitude
    if -2 ^ 31 ≤ n ∧ n < 2 ^ 31 then some n else none

/-- The check of `api_url`. -/
def acceptsUrl (value : String) : Bool := Pattern.url.rmatch value.toList

/-- The check of `api_key`. -/
def acceptsKey (value : String) : Bool := value != ""

/-- The check of `company_name` and `car_name`. -/
def acceptsName (value : String) : Bool := Pattern.name.rmatch value.toList && value != ""

/-- The check of a number, an exception being a failed one. -/
def acceptsCount (value : String) : Bool :=
  match stoi value with
  | none => false
  | some n => !(n < 0 || value == "")

/-! ## The function -/

/-- The variables of `init`. -/
structure InitLocals where
  apiUrl : String
  apiKey : String
  companyName : String
  carName : String
  maxRequestsThresholdCount : Option Int
  maxRequestsThresholdPeriodMs : Option Int
  delayAfterThresholdReachedMs : Option Int
  retryRequestsDelayMs : Option Int
deriving DecidableEq, Repr

/-- As they are declared. -/
def InitLocals.declared : InitLocals := ⟨"", "", "", "", none, none, none, none⟩

/-- A setting: a branch of the chain in `init`. -/
abbrev Setting := Branch String String InitLocals

namespace Setting

/-- `api_url` -/
def apiUrl : Setting := ⟨"api_url", acceptsUrl, fun v s => { s with apiUrl := v }⟩

/-- `api_key` -/
def apiKey : Setting := ⟨"api_key", acceptsKey, fun v s => { s with apiKey := v }⟩

/-- `company_name` -/
def companyName : Setting := ⟨"company_name", acceptsName, fun v s => { s with companyName := v }⟩

/-- `car_name` -/
def carName : Setting := ⟨"car_name", acceptsName, fun v s => { s with carName := v }⟩

/-- `max_requests_threshold_count` -/
def maxRequestsThresholdCount : Setting :=
  ⟨"max_requests_threshold_count", acceptsCount,
    fun v s => { s with maxRequestsThresholdCount := stoi v }⟩

/-- `max_requests_threshold_period_ms` -/
def maxRequestsThresholdPeriodMs : Setting :=
  ⟨"max_requests_threshold_period_ms", acceptsCount,
    fun v s => { s with maxRequestsThresholdPeriodMs := stoi v }⟩

/-- `delay_after_threshold_reached_ms` -/
def delayAfterThresholdReachedMs : Setting :=
  ⟨"delay_after_threshold_reached_ms", acceptsCount,
    fun v s => { s with delayAfterThresholdReachedMs := stoi v }⟩

/-- `retry_requests_delay_ms` -/
def retryRequestsDelayMs : Setting :=
  ⟨"retry_requests_delay_ms", acceptsCount,
    fun v s => { s with retryRequestsDelayMs := stoi v }⟩

/-- The chain. -/
def all : List Setting :=
  [apiUrl, apiKey, companyName, carName, maxRequestsThresholdCount, maxRequestsThresholdPeriodMs,
    delayAfterThresholdReachedMs, retryRequestsDelayMs]

end Setting

/-- `FleetApiClientConfig` -/
structure FleetApiClientConfig where
  apiUrl : String
  apiKey : String
  companyName : String
  carName : String
deriving DecidableEq, Repr

/-- `RequestFrequencyGuardConfig`. A number nothing was assigned to is
`none`. -/
structure RequestFrequencyGuardConfig where
  maxRequestsThresholdCount : Option Int
  maxRequestsThresholdPeriodMs : Option Int
  delayAfterThresholdReachedMs : Option Int
  retryRequestsDelayMs : Option Int
deriving DecidableEq, Repr

/-- What `init` returns: the client it makes, by its configuration, and the
rest of the context. -/
structure InitResult where
  fleetApiConfig : FleetApiClientConfig
  requestFrequencyGuardConfig : RequestFrequencyGuardConfig
  context : Context
deriving DecidableEq, Repr

/-- `init`, on the pairs of the configuration. `none` is `nullptr`. -/
def init (config : List (String × String)) : Option InitResult :=
  match forEach (dispatch Setting.all) config InitLocals.declared with
  | (some (), _) => none
  | (none, s) => some
    { fleetApiConfig := ⟨s.apiUrl, s.apiKey, s.companyName, s.carName⟩
      requestFrequencyGuardConfig :=
        ⟨s.maxRequestsThresholdCount, s.maxRequestsThresholdPeriodMs,
          s.delayAfterThresholdReachedMs, s.retryRequestsDelayMs⟩
      context := Context.initial }

/-! ## What a context is built from -/

variable {config : List (String × String)}

/-- The field is the value that is listed for the setting, which passes its
check. -/
def TextFrom (config : List (String × String)) (b : Setting) (field : String) : Prop :=
  (b.key, field) ∈ config ∧ b.accepts field = true

/-- The field is the number that is listed for the setting, which passes its
check. -/
def CountFrom (config : List (String × String)) (b : Setting) (field : Option Int) : Prop :=
  ∃ value n, (b.key, value) ∈ config ∧ b.accepts value = true ∧ stoi value = some n ∧ 0 ≤ n
    ∧ field = some n

/-- Every field that is handed to the client is the value of its setting. -/
structure BuiltFrom (config : List (String × String)) (r : InitResult) : Prop where
  apiUrl : TextFrom config Setting.apiUrl r.fleetApiConfig.apiUrl
  apiKey : TextFrom config Setting.apiKey r.fleetApiConfig.apiKey
  companyName : TextFrom config Setting.companyName r.fleetApiConfig.companyName
  carName : TextFrom config Setting.carName r.fleetApiConfig.carName
  maxRequestsThresholdCount : CountFrom config Setting.maxRequestsThresholdCount
    r.requestFrequencyGuardConfig.maxRequestsThresholdCount
  maxRequestsThresholdPeriodMs : CountFrom config Setting.maxRequestsThresholdPeriodMs
    r.requestFrequencyGuardConfig.maxRequestsThresholdPeriodMs
  delayAfterThresholdReachedMs : CountFrom config Setting.delayAfterThresholdReachedMs
    r.requestFrequencyGuardConfig.delayAfterThresholdReachedMs
  retryRequestsDelayMs : CountFrom config Setting.retryRequestsDelayMs
    r.requestFrequencyGuardConfig.retryRequestsDelayMs

/-- Every setting is listed. -/
def ListsAll (config : List (String × String)) : Prop :=
  ∀ b ∈ Setting.all, b.key ∈ config.map Prod.fst

/-- Some listed setting fails its check. -/
def ListsRefused (config : List (String × String)) : Prop :=
  ∃ entry ∈ config, Refused Setting.all entry

/-- What passes the check of a number is one, and not negative. -/
theorem stoi_of_acceptsCount {value : String} (h : acceptsCount value = true) :
    ∃ n, stoi value = some n ∧ 0 ≤ n := by
  unfold acceptsCount at h
  cases hn : stoi value with
  | none =>
    rw [hn] at h
    cases h
  | some n =>
    rw [hn] at h
    simp only [Bool.not_eq_true', Bool.or_eq_false_iff, decide_eq_false_iff_not, Int.not_lt] at h
    exact ⟨n, rfl, h.1⟩

/-! ## The loop -/

/-- No two branches compare with the same key. -/
theorem settingKeys_nodup : (Setting.all.map Branch.key).Nodup := by decide

/-- Each variable is the slot of its branch. -/
theorem setting_slots :
    Slot Setting.all Setting.apiUrl InitLocals.apiUrl id
      ∧ Slot Setting.all Setting.apiKey InitLocals.apiKey id
      ∧ Slot Setting.all Setting.companyName InitLocals.companyName id
      ∧ Slot Setting.all Setting.carName InitLocals.carName id
      ∧ Slot Setting.all Setting.maxRequestsThresholdCount
        InitLocals.maxRequestsThresholdCount stoi
      ∧ Slot Setting.all Setting.maxRequestsThresholdPeriodMs
        InitLocals.maxRequestsThresholdPeriodMs stoi
      ∧ Slot Setting.all Setting.delayAfterThresholdReachedMs
        InitLocals.delayAfterThresholdReachedMs stoi
      ∧ Slot Setting.all Setting.retryRequestsDelayMs InitLocals.retryRequestsDelayMs stoi := by
  have hmem : ∀ i (h : i < Setting.all.length), Setting.all[i] ∈ Setting.all :=
    fun _ h => List.getElem_mem h
  refine ⟨⟨hmem 0 (by decide), fun _ _ => rfl, ?_⟩, ⟨hmem 1 (by decide), fun _ _ => rfl, ?_⟩,
    ⟨hmem 2 (by decide), fun _ _ => rfl, ?_⟩, ⟨hmem 3 (by decide), fun _ _ => rfl, ?_⟩,
    ⟨hmem 4 (by decide), fun _ _ => rfl, ?_⟩, ⟨hmem 5 (by decide), fun _ _ => rfl, ?_⟩,
    ⟨hmem 6 (by decide), fun _ _ => rfl, ?_⟩, ⟨hmem 7 (by decide), fun _ _ => rfl, ?_⟩⟩
  all_goals
    intro c hc hother v s
    simp only [Setting.all, List.mem_cons, List.not_mem_nil, or_false] at hc
    rcases hc with rfl | rfl | rfl | rfl | rfl | rfl | rfl | rfl
    -- the assignment of another field, or the branch itself
    all_goals first | rfl | exact absurd rfl hother

section Runs

variable {s : InitLocals}

/-- A listed value is in its variable after the loop. -/
theorem value_of_slot {β : Type} {b : Setting} {get : InitLocals → β} {value : String → β}
    (h : Slot Setting.all b get value) (hkeys : (config.map Prod.fst).Nodup)
    (hrun : forEach (dispatch Setting.all) config InitLocals.declared = (none, s))
    (hlisted : b.key ∈ config.map Prod.fst) :
    ∃ v, (b.key, v) ∈ config ∧ b.accepts v = true ∧ get s = value v := by
  obtain ⟨entry, hmem, hkey⟩ := List.mem_map.mp hlisted
  have hmem' : (b.key, entry.2) ∈ config := hkey ▸ hmem
  obtain ⟨haccepts, hvalue⟩ := h.filled settingKeys_nodup config hkeys hmem' hrun
  exact ⟨entry.2, hmem', haccepts, hvalue⟩

theorem textFrom_of_slot {b : Setting} {get : InitLocals → String} (h : Slot Setting.all b get id)
    (hkeys : (config.map Prod.fst).Nodup)
    (hrun : forEach (dispatch Setting.all) config InitLocals.declared = (none, s))
    (hlisted : b.key ∈ config.map Prod.fst) : TextFrom config b (get s) := by
  obtain ⟨v, hmem, haccepts, hvalue⟩ := value_of_slot h hkeys hrun hlisted
  rw [hvalue]
  exact ⟨hmem, haccepts⟩

theorem countFrom_of_slot {b : Setting} {get : InitLocals → Option Int}
    (h : Slot Setting.all b get stoi) (hcheck : b.accepts = acceptsCount)
    (hkeys : (config.map Prod.fst).Nodup)
    (hrun : forEach (dispatch Setting.all) config InitLocals.declared = (none, s))
    (hlisted : b.key ∈ config.map Prod.fst) : CountFrom config b (get s) := by
  obtain ⟨v, hmem, haccepts, hvalue⟩ := value_of_slot h hkeys hrun hlisted
  obtain ⟨n, hn, hnonneg⟩ := stoi_of_acceptsCount (hcheck ▸ haccepts)
  exact ⟨v, n, hmem, haccepts, hn, hnonneg, hvalue.trans hn⟩

end Runs

/-! ## The context -/

/-- `init` returns a context exactly if no listed setting is refused. -/
theorem init_returns_iff : (∃ r, init config = some r) ↔ ¬ ListsRefused config := by
  have hends := forEach_dispatch_ends_iff settingKeys_nodup config InitLocals.declared
  have hlists : ¬ ListsRefused config ↔ ∀ entry ∈ config, ¬ Refused Setting.all entry := by
    unfold ListsRefused
    simp only [not_exists, not_and]
  rw [hlists, ← hends]
  unfold init
  rcases forEach (dispatch Setting.all) config InitLocals.declared with ⟨_ | u, s⟩
  · exact iff_of_true ⟨_, rfl⟩ ⟨s, rfl⟩
  · exact iff_of_false (fun ⟨_, h⟩ => nomatch h) fun ⟨_, h⟩ => nomatch h

/-- Whatever the settings are, a run starts with nothing connected, nothing
queued and nothing polled. -/
theorem init_context {r : InitResult} (h : init config = some r) : r.context = Context.initial := by
  unfold init at h
  split at h
  next => cases h
  next =>
    cases h
    rfl

/-- A context whose settings are all listed is built from them. -/
theorem init_builtFrom (hkeys : (config.map Prod.fst).Nodup) (hall : ListsAll config)
    {r : InitResult} (h : init config = some r) : BuiltFrom config r := by
  unfold init at h
  rcases hrun : forEach (dispatch Setting.all) config InitLocals.declared with ⟨_ | u, s⟩
  · rw [hrun] at h
    cases h
    obtain ⟨hurl, hkey, hcompany, hcar, hcount, hperiod, hdelay, hretry⟩ := setting_slots
    exact {
      apiUrl := textFrom_of_slot hurl hkeys hrun (hall _ hurl.mem)
      apiKey := textFrom_of_slot hkey hkeys hrun (hall _ hkey.mem)
      companyName := textFrom_of_slot hcompany hkeys hrun (hall _ hcompany.mem)
      carName := textFrom_of_slot hcar hkeys hrun (hall _ hcar.mem)
      maxRequestsThresholdCount := countFrom_of_slot hcount rfl hkeys hrun (hall _ hcount.mem)
      maxRequestsThresholdPeriodMs :=
        countFrom_of_slot hperiod rfl hkeys hrun (hall _ hperiod.mem)
      delayAfterThresholdReachedMs := countFrom_of_slot hdelay rfl hkeys hrun (hall _ hdelay.mem)
      retryRequestsDelayMs := countFrom_of_slot hretry rfl hkeys hrun (hall _ hretry.mem) }
  · rw [hrun] at h
    cases h

/-- What is built from settings lists them all. -/
theorem BuiltFrom.listsAll {r : InitResult} (h : BuiltFrom config r) : ListsAll config := by
  have htext : ∀ {b : Setting} {field : String}, TextFrom config b field →
      b.key ∈ config.map Prod.fst := fun hfield => List.mem_map_of_mem (f := Prod.fst) hfield.1
  have hcount : ∀ {b : Setting} {field : Option Int}, CountFrom config b field →
      b.key ∈ config.map Prod.fst :=
    fun ⟨_, _, hmem, _⟩ => List.mem_map_of_mem (f := Prod.fst) hmem
  intro b hb
  simp only [Setting.all, List.mem_cons, List.not_mem_nil, or_false] at hb
  rcases hb with rfl | rfl | rfl | rfl | rfl | rfl | rfl | rfl
  · exact htext h.apiUrl
  · exact htext h.apiKey
  · exact htext h.companyName
  · exact htext h.carName
  · exact hcount h.maxRequestsThresholdCount
  · exact hcount h.maxRequestsThresholdPeriodMs
  · exact hcount h.delayAfterThresholdReachedMs
  · exact hcount h.retryRequestsDelayMs

/-- **When `init` builds its context from proper settings.** For every list of
pairs with no key twice, in any order and with any other keys: whenever `init`
returns a context all eight settings are listed, pass their checks and are what
the client is handed, exactly if a listed setting fails its check, so that there
is no context, or all of them are listed. -/
theorem init_built_from_settings_iff (config : List (String × String))
    (hkeys : (config.map Prod.fst).Nodup) :
    (∀ r, init config = some r → BuiltFrom config r)
      ↔ ListsRefused config ∨ ListsAll config := by
  constructor
  · intro h
    by_cases hrefused : ListsRefused config
    · exact Or.inl hrefused
    · obtain ⟨r, hr⟩ := init_returns_iff.mpr hrefused
      exact Or.inr (h r hr).listsAll
  · intro h r hr
    rcases h with hrefused | hall
    · exact absurd hrefused (init_returns_iff.mp ⟨r, hr⟩)
    · exact init_builtFrom hkeys hall hr

/-- All settings, in another order and with a key `init` does not know. -/
def fullConfig : List (String × String) :=
  [("retry_requests_delay_ms", "200"), ("api_key", "k"), ("verbose", ""), ("car_name", "car_1"),
    ("company_name", "ba"), ("api_url", "http://a:1"), ("max_requests_threshold_count", "10"),
    ("max_requests_threshold_period_ms", "5000"), ("delay_after_threshold_reached_ms", "+50")]

/-- The context built from them. -/
theorem init_built_from_settings_iff_full :
    (∀ r, init fullConfig = some r → BuiltFrom fullConfig r)
      ↔ ListsRefused fullConfig ∨ ListsAll fullConfig :=
  init_built_from_settings_iff fullConfig (by decide)

/-- The settings the documentation lists, without a company and a car. -/
def documentedConfig : List (String × String) :=
  [("api_url", "http://a"), ("api_key", "k"), ("max_requests_threshold_count", "10"),
    ("max_requests_threshold_period_ms", "5000"), ("delay_after_threshold_reached_ms", "5000"),
    ("retry_requests_delay_ms", "200")]

/-- **Contexts built from missing settings.** Without any setting there is a
context, whose guard runs on numbers nothing was assigned to. With the
documented ones there is one for a car without a name, which is refused if it is
listed. -/
theorem init_from_missing_settings :
    (∃ r, init [] = some r ∧ r.requestFrequencyGuardConfig = ⟨none, none, none, none⟩
        ∧ ¬ BuiltFrom [] r)
      ∧ (∃ r, init documentedConfig = some r ∧ r.fleetApiConfig.carName = ""
        ∧ ¬ BuiltFrom documentedConfig r)
      ∧ init (documentedConfig ++ [("car_name", "")]) = none := by
  refine ⟨⟨_, rfl, rfl, fun h => ?_⟩, ?_, by decide +kernel⟩
  · exact List.not_mem_nil h.apiUrl.1
  · have hinit : init documentedConfig = some ⟨⟨"http://a", "k", "", ""⟩,
        ⟨some 10, some 5000, some 5000, some 200⟩, Context.initial⟩ := by
      decide +kernel
    refine ⟨_, hinit, rfl, fun h => ?_⟩
    exact absurd h.carName.1 (by decide)

end IoModule

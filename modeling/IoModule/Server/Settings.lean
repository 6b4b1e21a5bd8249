import IoModule.Server.Patterns

/-!
# `init` as a function of its settings

The loop of `init` walks pairs. What comes out of it can be said without the
loop, as long as no key is listed twice (the configuration is a map): each
variable is made from the value listed for its key, or is as it was declared, and
there is no context exactly if a listed value is refused (`init_eq_listed`).

- `init_depends_on_settings`: neither the order of the pairs nor pairs with
  other keys can be seen in what `init` returns.
- `init_spec`: what `init` returns for a configuration, in terms of the texts
  in it: URLs with their parts, words, and numbers that are not negative.
-/

namespace IoModule

variable {config config' : List (String × String)}

/-- The value that is listed for a setting. -/
def Setting.listed (config : List (String × String)) (b : Setting) : Option String :=
  (config.find? fun entry => entry.1 = b.key).map Prod.snd

/-- What `init` returns, read off the listed values. -/
def initFromListed (config : List (String × String)) : Option InitResult :=
  if ∀ b ∈ Setting.all, ∀ v ∈ b.listed config, b.accepts v = true then some
    { fleetApiConfig :=
        ⟨(Setting.apiUrl.listed config).getD "", (Setting.apiKey.listed config).getD "",
          (Setting.companyName.listed config).getD "", (Setting.carName.listed config).getD ""⟩
      requestFrequencyGuardConfig :=
        ⟨(Setting.maxRequestsThresholdCount.listed config).bind stoi,
          (Setting.maxRequestsThresholdPeriodMs.listed config).bind stoi,
          (Setting.delayAfterThresholdReachedMs.listed config).bind stoi,
          (Setting.retryRequestsDelayMs.listed config).bind stoi⟩
      context := Context.initial }
  else none

/-! ## The listed values -/

/-- Where no key is listed twice, the listed value is the one of the pair. -/
theorem mem_listed_iff (hkeys : (config.map Prod.fst).Nodup) (b : Setting) (v : String) :
    v ∈ b.listed config ↔ (b.key, v) ∈ config := by
  unfold Setting.listed
  induction config with
  | nil => simp
  | cons entry config ih =>
    rw [List.map_cons, List.nodup_cons] at hkeys
    by_cases hkey : entry.1 = b.key
    · rw [List.find?_cons_of_pos (by simpa using hkey), List.mem_cons]
      constructor
      · intro hv
        obtain rfl : entry.2 = v := by simpa using hv
        exact Or.inl (Prod.ext hkey.symm rfl)
      · intro hor
        rcases hor with heq | hmem
        · rw [← heq]
          rfl
        · -- the key is not listed again
          have hagain := List.mem_map_of_mem (f := Prod.fst) hmem
          exact absurd (hkey ▸ hagain) hkeys.1
    · rw [List.find?_cons_of_neg (by simpa using hkey), ih hkeys.2, List.mem_cons]
      constructor
      · exact Or.inr
      · intro hor
        rcases hor with heq | hmem
        · exact absurd (congrArg Prod.fst heq).symm hkey
        · exact hmem

/-- No listed value is refused: each passes the check of its setting. -/
theorem not_listsRefused_iff (hkeys : (config.map Prod.fst).Nodup) :
    ¬ ListsRefused config ↔ ∀ b ∈ Setting.all, ∀ v ∈ b.listed config, b.accepts v = true := by
  constructor
  · intro h b hb v hv
    by_contra hno
    exact h ⟨(b.key, v), (mem_listed_iff hkeys b v).mp hv, b, hb, rfl, Bool.eq_false_iff.mpr hno⟩
  · intro h hrefused
    obtain ⟨entry, hmem, b, hb, hkey, hno⟩ := hrefused
    have hlisted : entry.2 ∈ Setting.listed config b :=
      (mem_listed_iff hkeys b entry.2).mpr (hkey ▸ hmem)
    rw [h b hb entry.2 hlisted] at hno
    cases hno

/-- Where there is no listed value the key is not listed. -/
theorem listed_eq_none_iff (hkeys : (config.map Prod.fst).Nodup) (b : Setting) :
    b.listed config = none ↔ b.key ∉ config.map Prod.fst := by
  rw [Option.eq_none_iff_forall_not_mem]
  constructor
  · intro h hmem
    obtain ⟨entry, hentry, hkey⟩ := List.mem_map.mp hmem
    exact h entry.2 ((mem_listed_iff hkeys b entry.2).mpr (hkey ▸ hentry))
  · intro h v hv
    exact h (List.mem_map_of_mem (f := Prod.fst) ((mem_listed_iff hkeys b v).mp hv))

/-- A variable after the loop: made from the listed value, or as it was. -/
theorem Slot.eq_listed {β : Type} {b : Setting} {get : InitLocals → β} {value : String → β}
    (h : Slot Setting.all b get value) (hkeys : (config.map Prod.fst).Nodup) {s : InitLocals}
    (hrun : forEach (dispatch Setting.all) config InitLocals.declared = (none, s)) :
    get s = ((b.listed config).map value).getD (get InitLocals.declared) := by
  cases hlisted : Setting.listed config b with
  | none => exact h.kept_run settingKeys_nodup config ((listed_eq_none_iff hkeys b).mp hlisted) hrun
  | some v =>
    exact (h.filled settingKeys_nodup config hkeys ((mem_listed_iff hkeys b v).mp hlisted) hrun).2

/-- **`init`, read off the listed values.** -/
theorem init_eq_listed (hkeys : (config.map Prod.fst).Nodup) :
    init config = initFromListed config := by
  unfold initFromListed
  by_cases hproper : ∀ b ∈ Setting.all, ∀ v ∈ b.listed config, b.accepts v = true
  · rw [if_pos hproper]
    obtain ⟨r, hr⟩ := init_returns_iff.mpr ((not_listsRefused_iff hkeys).mpr hproper)
    rw [hr]
    unfold init at hr
    rcases hrun : forEach (dispatch Setting.all) config InitLocals.declared with ⟨_ | u, s⟩
    · rw [hrun] at hr
      cases hr
      obtain ⟨hurl, hkey, hcompany, hcar, hcount, hperiod, hdelay, hretry⟩ := setting_slots
      have htext : ∀ {b : Setting} {get : InitLocals → String}, Slot Setting.all b get id →
          get InitLocals.declared = "" → get s = (b.listed config).getD "" := by
        intro b get hslot hdeclared
        rw [hslot.eq_listed hkeys hrun, hdeclared, Option.map_id_fun, id]
      have hnumber : ∀ {b : Setting} {get : InitLocals → Option Int},
          Slot Setting.all b get stoi → get InitLocals.declared = none →
          get s = (b.listed config).bind stoi := by
        intro b get hslot hdeclared
        rw [hslot.eq_listed hkeys hrun, hdeclared]
        cases b.listed config <;> rfl
      rw [htext hurl rfl, htext hkey rfl, htext hcompany rfl, htext hcar rfl, hnumber hcount rfl,
        hnumber hperiod rfl, hnumber hdelay rfl, hnumber hretry rfl]
    · rw [hrun] at hr
      cases hr
  · rw [if_neg hproper]
    by_contra hsome
    obtain ⟨r, hr⟩ := Option.ne_none_iff_exists'.mp hsome
    exact hproper ((not_listsRefused_iff hkeys).mp (init_returns_iff.mp ⟨r, hr⟩))

/-- **`init` looks at its settings only.** Two configurations without repeated
keys that list the same values for the eight settings, in any order and next to
any other pairs, make `init` return the same. -/
theorem init_depends_on_settings (hkeys : (config.map Prod.fst).Nodup)
    (hkeys' : (config'.map Prod.fst).Nodup)
    (hsame : ∀ b ∈ Setting.all, ∀ v, (b.key, v) ∈ config ↔ (b.key, v) ∈ config') :
    init config = init config' := by
  have hlisted : ∀ b ∈ Setting.all, b.listed config = b.listed config' := by
    intro b hb
    ext v
    exact ((mem_listed_iff hkeys b v).trans (hsame b hb v)).trans (mem_listed_iff hkeys' b v).symm
  obtain ⟨hurl, hkey, hcompany, hcar, hcount, hperiod, hdelay, hretry⟩ := setting_slots
  have hproper : (∀ b ∈ Setting.all, ∀ v ∈ b.listed config, b.accepts v = true)
      ↔ ∀ b ∈ Setting.all, ∀ v ∈ b.listed config', b.accepts v = true :=
    forall₂_congr fun b hb => by rw [hlisted b hb]
  rw [init_eq_listed hkeys, init_eq_listed hkeys']
  unfold initFromListed
  simp only [hproper, hlisted _ hurl.mem, hlisted _ hkey.mem, hlisted _ hcompany.mem,
    hlisted _ hcar.mem, hlisted _ hcount.mem, hlisted _ hperiod.mem, hlisted _ hdelay.mem,
    hlisted _ hretry.mem]

/-- The full configuration backwards, without the key nobody knows. -/
theorem init_depends_on_settings_reversed :
    init fullConfig = init (fullConfig.reverse.filter fun entry => entry.1 ≠ "verbose") :=
  init_depends_on_settings (by decide) (by decide) fun b hb v => by
    have hkey : b.key ≠ "verbose" := by
      simp only [Setting.all, List.mem_cons, List.not_mem_nil, or_false] at hb
      rcases hb with rfl | rfl | rfl | rfl | rfl | rfl | rfl | rfl <;> decide
    simp [List.mem_filter, hkey]

/-! ## The texts behind it -/

/-- The field is the text that is listed under a key, which is a good one; or
nothing is listed, and it is empty. -/
def TextGiven (config : List (String × String)) (key : String) (good : String → Prop)
    (field : String) : Prop :=
  ((key, field) ∈ config ∧ good field) ∨ (key ∉ config.map Prod.fst ∧ field = "")

/-- The field is the number in the text that is listed under a key; or nothing
is listed, and nothing was assigned to it. -/
def CountGiven (config : List (String × String)) (key : String) (field : Option Int) : Prop :=
  (∃ v n spaces sign ds rest, (key, v) ∈ config ∧ CountText v n spaces sign ds rest
    ∧ field = some (n : Int)) ∨ (key ∉ config.map Prod.fst ∧ field = none)

/-- The text of a URL. -/
def IsUrl (value : String) : Prop := ∃ u : Pattern.Url, value.toList = u.toText

/-- A word of lower-case letters, digits and underscores. -/
def IsName (value : String) : Prop :=
  value ≠ "" ∧ ∀ c ∈ value.toList, c ∈ (Pattern.lowercase ++ Pattern.digits ++ "_").toList

/-- A result whose fields are the texts and the numbers of a configuration. -/
structure InitResult.ReadFrom (config : List (String × String)) (r : InitResult) : Prop where
  apiUrl : TextGiven config "api_url" IsUrl r.fleetApiConfig.apiUrl
  apiKey : TextGiven config "api_key" (· ≠ "") r.fleetApiConfig.apiKey
  companyName : TextGiven config "company_name" IsName r.fleetApiConfig.companyName
  carName : TextGiven config "car_name" IsName r.fleetApiConfig.carName
  maxRequestsThresholdCount : CountGiven config "max_requests_threshold_count"
    r.requestFrequencyGuardConfig.maxRequestsThresholdCount
  maxRequestsThresholdPeriodMs : CountGiven config "max_requests_threshold_period_ms"
    r.requestFrequencyGuardConfig.maxRequestsThresholdPeriodMs
  delayAfterThresholdReachedMs : CountGiven config "delay_after_threshold_reached_ms"
    r.requestFrequencyGuardConfig.delayAfterThresholdReachedMs
  retryRequestsDelayMs : CountGiven config "retry_requests_delay_ms"
    r.requestFrequencyGuardConfig.retryRequestsDelayMs
  context : r.context = Context.initial

theorem textGiven_iff (hkeys : (config.map Prod.fst).Nodup) (b : Setting) {good : String → Prop}
    (hgood : ∀ v, b.accepts v = true ↔ good v) (field : String) :
    TextGiven config b.key good field
      ↔ (∀ v ∈ b.listed config, b.accepts v = true) ∧ (b.listed config).getD "" = field := by
  unfold TextGiven
  rw [← mem_listed_iff hkeys, ← listed_eq_none_iff hkeys]
  cases Setting.listed config b with
  | none =>
    constructor
    · intro hor
      rcases hor with ⟨hsome, -⟩ | ⟨-, hempty⟩
      · cases hsome
      · exact ⟨fun _ hv => (nomatch hv), hempty.symm⟩
    · intro h
      exact Or.inr ⟨rfl, h.2.symm⟩
  | some v =>
    constructor
    · intro hor
      rcases hor with ⟨hsome, hfield⟩ | ⟨hnone, -⟩
      · cases hsome
        refine ⟨fun w hw => ?_, rfl⟩
        cases hw
        exact (hgood _).mpr hfield
      · cases hnone
    · intro h
      obtain ⟨haccepts, hfield⟩ := h
      have hsame : v = field := hfield
      rw [← hsame]
      exact Or.inl ⟨rfl, (hgood v).mp (haccepts v rfl)⟩

theorem countGiven_iff (hkeys : (config.map Prod.fst).Nodup) (b : Setting)
    (hcheck : b.accepts = acceptsCount) (field : Option Int) :
    CountGiven config b.key field
      ↔ (∀ v ∈ b.listed config, b.accepts v = true) ∧ (b.listed config).bind stoi = field := by
  unfold CountGiven
  simp only [← mem_listed_iff hkeys]
  rw [← listed_eq_none_iff hkeys, hcheck]
  cases Setting.listed config b with
  | none =>
    constructor
    · intro hor
      rcases hor with ⟨v, _, _, _, _, _, hsome, -⟩ | ⟨-, hempty⟩
      · cases hsome
      · exact ⟨fun _ hv => (nomatch hv), hempty.symm⟩
    · intro h
      exact Or.inr ⟨rfl, h.2.symm⟩
  | some v =>
    constructor
    · intro hor
      rcases hor with ⟨w, n, spaces, sign, ds, rest, hsome, htext, rfl⟩ | ⟨hnone, -⟩
      · cases hsome
        refine ⟨fun w hw => ?_, (stoi_natCast_iff v n).mpr ⟨_, _, _, _, htext⟩⟩
        cases hw
        exact (acceptsCount_iff v).mpr ⟨n, _, _, _, _, htext⟩
      · cases hnone
    · intro h
      obtain ⟨haccepts, rfl⟩ := h
      obtain ⟨n, spaces, sign, ds, rest, htext⟩ := (acceptsCount_iff v).mp (haccepts v rfl)
      exact Or.inl ⟨v, n, spaces, sign, ds, rest, rfl, htext,
        (stoi_natCast_iff v n).mpr ⟨_, _, _, _, htext⟩⟩

/-- **What `init` returns.** For a configuration without repeated keys, `init`
returns a result exactly if the result is read from the configuration: a listed
URL is one and is the URL of the client, the key is not empty, the names are
words, and the numbers are those their texts begin with. What is not listed stays
empty, or nothing is assigned to it. -/
theorem init_spec (hkeys : (config.map Prod.fst).Nodup) (r : InitResult) :
    init config = some r ↔ r.ReadFrom config := by
  have hurl := textGiven_iff hkeys Setting.apiUrl acceptsUrl_iff r.fleetApiConfig.apiUrl
  have hkey : TextGiven config "api_key" (· ≠ "") r.fleetApiConfig.apiKey ↔ _ :=
    textGiven_iff hkeys Setting.apiKey (fun v => bne_iff_ne) r.fleetApiConfig.apiKey
  have hcompany := textGiven_iff hkeys Setting.companyName acceptsName_iff
    r.fleetApiConfig.companyName
  have hcar := textGiven_iff hkeys Setting.carName acceptsName_iff r.fleetApiConfig.carName
  have hcount := countGiven_iff hkeys Setting.maxRequestsThresholdCount rfl
    r.requestFrequencyGuardConfig.maxRequestsThresholdCount
  have hperiod := countGiven_iff hkeys Setting.maxRequestsThresholdPeriodMs rfl
    r.requestFrequencyGuardConfig.maxRequestsThresholdPeriodMs
  have hdelay := countGiven_iff hkeys Setting.delayAfterThresholdReachedMs rfl
    r.requestFrequencyGuardConfig.delayAfterThresholdReachedMs
  have hretry := countGiven_iff hkeys Setting.retryRequestsDelayMs rfl
    r.requestFrequencyGuardConfig.retryRequestsDelayMs
  rw [init_eq_listed hkeys]
  unfold initFromListed
  rw [Option.ite_none_right_eq_some]
  obtain ⟨surl, skey, scompany, scar, scount, speriod, sdelay, sretry⟩ := setting_slots
  constructor
  · intro h
    obtain ⟨haccepts, hr⟩ := h
    cases hr
    exact {
      apiUrl := hurl.mpr ⟨haccepts _ surl.mem, rfl⟩
      apiKey := hkey.mpr ⟨haccepts _ skey.mem, rfl⟩
      companyName := hcompany.mpr ⟨haccepts _ scompany.mem, rfl⟩
      carName := hcar.mpr ⟨haccepts _ scar.mem, rfl⟩
      maxRequestsThresholdCount := hcount.mpr ⟨haccepts _ scount.mem, rfl⟩
      maxRequestsThresholdPeriodMs := hperiod.mpr ⟨haccepts _ speriod.mem, rfl⟩
      delayAfterThresholdReachedMs := hdelay.mpr ⟨haccepts _ sdelay.mem, rfl⟩
      retryRequestsDelayMs := hretry.mpr ⟨haccepts _ sretry.mem, rfl⟩
      context := rfl }
  · intro h
    obtain ⟨aurl, hurl⟩ := hurl.mp h.apiUrl
    obtain ⟨akey, hkey⟩ := hkey.mp h.apiKey
    obtain ⟨acompany, hcompany⟩ := hcompany.mp h.companyName
    obtain ⟨acar, hcar⟩ := hcar.mp h.carName
    obtain ⟨acount, hcount⟩ := hcount.mp h.maxRequestsThresholdCount
    obtain ⟨aperiod, hperiod⟩ := hperiod.mp h.maxRequestsThresholdPeriodMs
    obtain ⟨adelay, hdelay⟩ := hdelay.mp h.delayAfterThresholdReachedMs
    obtain ⟨aretry, hretry⟩ := hretry.mp h.retryRequestsDelayMs
    refine ⟨fun b hb => ?_, ?_⟩
    · simp only [Setting.all, List.mem_cons, List.not_mem_nil, or_false] at hb
      rcases hb with rfl | rfl | rfl | rfl | rfl | rfl | rfl | rfl <;> assumption
    · rw [hurl, hkey, hcompany, hcar, hcount, hperiod, hdelay, hretry, ← h.context]

/-- The full configuration, with a number in front of a letter. -/
def exampleConfig : List (String × String) :=
  [("retry_requests_delay_ms", " 200ms"), ("api_key", "k"), ("verbose", ""), ("car_name", "car_1"),
    ("api_url", "http://a.b:1/c")]

/-- What it makes: two settings are not listed. -/
theorem init_spec_example :
    init exampleConfig = some ⟨⟨"http://a.b:1/c", "k", "", "car_1"⟩, ⟨none, none, none, some 200⟩,
        Context.initial⟩
      ↔ InitResult.ReadFrom exampleConfig ⟨⟨"http://a.b:1/c", "k", "", "car_1"⟩,
        ⟨none, none, none, some 200⟩, Context.initial⟩ :=
  init_spec (by decide) _

end IoModule

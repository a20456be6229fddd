import Mathlib.Data.List.Sort
import VolumeSync.Config
import VolumeSync.Proofs.BoundedNumbers

-- Which variables make a configuration, and why others make none. The ceiling
-- is looked at before what has to be set, and both before the rules, so of
-- several troubles one kind is told; what is told of it is exact, and so is
-- the configuration where there is no trouble.

namespace VolumeSync

/-- No two rules are about one setting. -/
theorem Flaw.setting_injective : Function.Injective Flaw.setting := by
  intro f g
  cases f <;> cases g <;> decide

namespace Config

/-! ## What the variables say -/

/-- The variable is not set, or to blanks only. -/
def isUnset (lookup : Lookup) (name : String) : Bool :=
  (lookup name).all fun raw => Text.trim raw = ""

/-- The variable is set to this value, with blanks around it or not. -/
def Sets (lookup : Lookup) (name value : String) : Prop :=
  ∃ raw, lookup name = some raw ∧ value = Text.trim raw ∧ value ≠ ""

/-- The variables ask for this ceiling, or for none. -/
inductive SaysCeiling (lookup : Lookup) : Option Nat → Prop where
  | unset (h : isUnset lookup "PVWATCHER_MAX_CONCURRENT_TASKS" = true) : SaysCeiling lookup none
  | written {value : String} {n : Nat} (h : Sets lookup "PVWATCHER_MAX_CONCURRENT_TASKS" value)
      (hn : Text.WritesNat value.toList n) (hlt : n < wordCount 64) : SaysCeiling lookup (some n)

/-- The ceiling begins with digits that are too large a number. -/
def CeilingOverruns (lookup : Lookup) : Prop :=
  ∃ value, Sets lookup "PVWATCHER_MAX_CONCURRENT_TASKS" value ∧
    Text.Overruns (wordCount 64) value.toList

/-- The first of the variables that have to be set and are not. -/
def firstMissing? (lookup : Lookup) : Option String :=
  ["PVWATCHER_PROVISIONER_NAME", "PVWATCHER_VOLUME_TYPE", "PVWATCHER_PROVIDER_URL"].find?
    (isUnset lookup)

/-- The configuration is what the variables say. -/
structure IsReadFrom (lookup : Lookup) (c : Config) : Prop where
  ceiling : SaysCeiling lookup c.maxConcurrentTasks
  provisionerName : Sets lookup "PVWATCHER_PROVISIONER_NAME" c.provisionerName
  volumeType : Sets lookup "PVWATCHER_VOLUME_TYPE" c.volumeType
  providerUrl : Sets lookup "PVWATCHER_PROVIDER_URL" c.providerUrl
  providerType : c.providerType = (lookup "PVWATCHER_PROVIDER_TYPE").getD "vpc-classic"
  providerToken : ∀ token, c.providerToken = some token ↔
    lookup "PVWATCHER_PROVIDER_TOKEN" = some token ∧ token ≠ ""
  podName : ∀ name, c.podName = some name ↔ lookup "POD_NAME" = some name ∧ name ≠ ""
  logLevel : c.logLevel = (lookup "PVWATCHER_LOG_LEVEL").getD "info"

/-- The configuration keeps the rules. -/
structure IsValid (c : Config) : Prop where
  ceiling : ∀ n, c.maxConcurrentTasks = some n → 1 ≤ n
  providerType : c.providerType ≠ ""
  providerUrl : (Url.parse? c.providerUrl.toList).isSome

/-- The variables break the rule of this name for the setting. -/
inductive Violates (lookup : Lookup) : String → String → Prop where
  | ceiling (h : SaysCeiling lookup (some 0)) : Violates lookup "max_concurrent_tasks" "range"
  | providerType (h : lookup "PVWATCHER_PROVIDER_TYPE" = some "") :
      Violates lookup "provider_type" "length"
  | providerUrl {value : String} (h : Sets lookup "PVWATCHER_PROVIDER_URL" value)
      (hurl : Url.parse? value.toList = none) : Violates lookup "provider_url" "url"

/-- What comes of the variables. -/
inductive Makes (lookup : Lookup) : Except Refusal Config → Prop where
  /-- The ceiling is no number in range: nothing else is looked at. -/
  | unreadable {reason : Text.NumberError} (h : ¬∃ ceiling, SaysCeiling lookup ceiling)
      (hreason : reason = .tooLarge ↔ CeilingOverruns lookup) :
      Makes lookup (.error (.ceilingUnreadable reason))
  /-- A variable that has to be set is not: the first one is told. -/
  | missing {name : String} (h : ∃ ceiling, SaysCeiling lookup ceiling)
      (hname : firstMissing? lookup = some name) : Makes lookup (.error (.missing name))
  /-- Rules are broken: these, each of them once, by the settings' names. -/
  | invalid {flaws : List Flaw} (h : ∃ ceiling, SaysCeiling lookup ceiling)
      (hset : firstMissing? lookup = none) (hne : flaws ≠ [])
      (hsorted : flaws.Pairwise fun f g => f.setting < g.setting)
      (hflaws : ∀ setting rule,
        (∃ f ∈ flaws, f.setting = setting ∧ f.rule = rule) ↔ Violates lookup setting rule) :
      Makes lookup (.error (.invalid flaws))
  | accepted {c : Config} (h : IsReadFrom lookup c) (hvalid : c.IsValid) : Makes lookup (.ok c)

/-! ## Single variables -/

section Variables

variable {lookup : Lookup} {name : String}

theorem not_isUnset_iff : isUnset lookup name = false ↔ ∃ value, Sets lookup name value := by
  unfold isUnset Sets
  rcases lookup name with _ | raw
  · simp
  · simp

theorem Sets.unique {value value' : String} (h : Sets lookup name value)
    (h' : Sets lookup name value') : value = value' := by
  obtain ⟨raw, hraw, rfl, _⟩ := h
  obtain ⟨raw', hraw', rfl, _⟩ := h'
  rw [Option.some.inj (hraw.symm.trans hraw')]

theorem Sets.not_isUnset {value : String} (h : Sets lookup name value) :
    isUnset lookup name = false := not_isUnset_iff.mpr ⟨value, h⟩

theorem required_of_isUnset (h : isUnset lookup name = true) :
    required lookup name = .error (.missing name) := by
  unfold isUnset at h
  unfold required
  rcases hraw : lookup name with _ | raw
  · rfl
  · rw [hraw] at h
    have hblank : Text.trim raw = "" := of_decide_eq_true h
    rw [Option.map_some, hblank]
    rfl

theorem required_of_sets {value : String} (h : Sets lookup name value) :
    required lookup name = .ok value := by
  obtain ⟨raw, hraw, hvalue, hne⟩ := h
  unfold required
  rw [hraw, Option.map_some, ← hvalue]
  split
  · rename_i hnone
    cases hnone
  · rename_i hempty
    exact absurd (Option.some.inj hempty) hne
  · rename_i hsome
    obtain rfl := Option.some.inj hsome
    rfl

theorem nonempty?_eq_some_iff {value : String} :
    nonempty? lookup name = some value ↔ lookup name = some value ∧ value ≠ "" := by
  unfold nonempty?
  rw [Option.filter_eq_some_iff, decide_eq_true_iff]

theorem ceiling_of_isUnset (h : isUnset lookup Variable.maxConcurrentTasks = true) :
    ceiling lookup = .ok none := by
  unfold isUnset at h
  unfold ceiling
  rcases hraw : lookup Variable.maxConcurrentTasks with _ | raw
  · rfl
  · rw [hraw] at h
    have hblank : Text.trim raw = "" := of_decide_eq_true h
    have hnil : Text.trimChars raw.toList = [] := by
      rw [← Text.toList_trim, hblank]
      rfl
    rw [Option.map_some, hnil]

theorem ceiling_of_sets {value : String} (h : Sets lookup Variable.maxConcurrentTasks value) :
    ceiling lookup = match Text.readBelow ceilingBound value.toList with
      | .ok n => .ok (some n)
      | .error reason => .error (.ceilingUnreadable reason) := by
  obtain ⟨raw, hraw, rfl, hne⟩ := h
  unfold ceiling
  rw [hraw, Option.map_some, ← Text.toList_trim]
  split
  · rename_i hnone
    cases hnone
  · rename_i hnil
    exact absurd (String.toList_eq_nil_iff.mp (Option.some.inj hnil)) hne
  · rename_i hsome
    obtain rfl := Option.some.inj hsome
    rfl

end Variables

/-! ## All variables -/

section Reading

variable {lookup : Lookup}

/-- Readings stop at the first that fails. -/
theorem bind_of_eq_error {α β ε : Type} {first : Except ε α} {err : ε} (h : first = .error err)
    (next : α → Except ε β) : first >>= next = .error err := by
  rw [h]
  rfl

theorem bind_of_eq_ok {α β ε : Type} {first : Except ε α} {a : α} (h : first = .ok a)
    (next : α → Except ε β) : first >>= next = next a := by
  rw [h]
  rfl

theorem isUnset_or_sets (lookup : Lookup) (name : String) :
    isUnset lookup name = true ∨ ∃ value, Sets lookup name value := by
  rcases hunset : isUnset lookup name with _ | _
  · exact .inr (not_isUnset_iff.mp hunset)
  · exact .inl rfl

theorem ceilingBound_pos : 0 < ceilingBound := by decide

theorem ceiling_of_saysCeiling {c : Option Nat} (h : SaysCeiling lookup c) :
    ceiling lookup = .ok c := by
  cases h with
  | unset h => exact ceiling_of_isUnset h
  | written h hn hlt =>
    rw [ceiling_of_sets h, (Text.readBelow_eq_ok_iff ceilingBound_pos).mpr ⟨hn, hlt⟩]

theorem SaysCeiling.unique {c c' : Option Nat} (h : SaysCeiling lookup c)
    (h' : SaysCeiling lookup c') : c = c' :=
  Except.ok.inj ((ceiling_of_saysCeiling h).symm.trans (ceiling_of_saysCeiling h'))

/-- A ceiling that cannot be read is refused for one of two reasons. -/
theorem ceiling_of_not_saysCeiling (h : ¬∃ c, SaysCeiling lookup c) :
    ∃ reason, ceiling lookup = .error (.ceilingUnreadable reason) ∧
      (reason = .tooLarge ↔ CeilingOverruns lookup) := by
  rcases isUnset_or_sets lookup Variable.maxConcurrentTasks with hunset | ⟨value, hvalue⟩
  · exact absurd ⟨_, .unset hunset⟩ h
  · rcases hread : Text.readBelow ceilingBound value.toList with reason | n
    · refine ⟨reason, by rw [ceiling_of_sets hvalue, hread], ?_⟩
      have hoverruns : CeilingOverruns lookup ↔ Text.Overruns (wordCount 64) value.toList := by
        constructor
        · rintro ⟨value', hvalue', hover⟩
          rwa [hvalue.unique hvalue']
        · intro hover
          exact ⟨value, hvalue, hover⟩
      have hlarge : Text.readBelow ceilingBound value.toList = .error .tooLarge ↔
          Text.Overruns (wordCount 64) value.toList :=
        Text.readBelow_eq_tooLarge_iff ceilingBound_pos
      rw [hread, Except.error.injEq] at hlarge
      exact hlarge.trans hoverruns.symm
    · obtain ⟨hn, hlt⟩ := (Text.readBelow_eq_ok_iff ceilingBound_pos).mp hread
      exact absurd ⟨_, .written hvalue hn hlt⟩ h

/-- The variables that have to be set are looked at in turn. -/
theorem read_of_firstMissing {c : Option Nat} (h : SaysCeiling lookup c) {name : String}
    (hname : firstMissing? lookup = some name) : read lookup = .error (.missing name) := by
  change [Variable.provisionerName, Variable.volumeType, Variable.providerUrl].find?
    (isUnset lookup) = some name at hname
  unfold read
  rw [bind_of_eq_ok (ceiling_of_saysCeiling h)]
  rcases isUnset_or_sets lookup Variable.provisionerName with hunset | ⟨provisioner, hprovisioner⟩
  · rw [List.find?_cons_of_pos hunset] at hname
    cases hname
    exact bind_of_eq_error (required_of_isUnset hunset) _
  rw [List.find?_cons_of_neg (Bool.eq_false_iff.mp hprovisioner.not_isUnset)] at hname
  rw [bind_of_eq_ok (required_of_sets hprovisioner)]
  rcases isUnset_or_sets lookup Variable.volumeType with hunset | ⟨volumeType, hvolumeType⟩
  · rw [List.find?_cons_of_pos hunset] at hname
    cases hname
    exact bind_of_eq_error (required_of_isUnset hunset) _
  rw [List.find?_cons_of_neg (Bool.eq_false_iff.mp hvolumeType.not_isUnset)] at hname
  rw [bind_of_eq_ok (required_of_sets hvolumeType)]
  rcases isUnset_or_sets lookup Variable.providerUrl with hunset | ⟨url, hurl⟩
  · rw [List.find?_cons_of_pos hunset] at hname
    cases hname
    exact bind_of_eq_error (required_of_isUnset hunset) _
  · rw [List.find?_cons_of_neg (Bool.eq_false_iff.mp hurl.not_isUnset)] at hname
    cases hname

/-- Where nothing is missing there is a configuration to read. -/
theorem exists_isReadFrom {c : Option Nat} (h : SaysCeiling lookup c)
    (hset : firstMissing? lookup = none) : ∃ config, IsReadFrom lookup config := by
  have hsets : ∀ name ∈ ["PVWATCHER_PROVISIONER_NAME", "PVWATCHER_VOLUME_TYPE",
      "PVWATCHER_PROVIDER_URL"], ∃ value, Sets lookup name value := fun name hname =>
    not_isUnset_iff.mp (Bool.eq_false_iff.mpr (List.find?_eq_none.mp hset name hname))
  obtain ⟨provisioner, hprovisioner⟩ := hsets "PVWATCHER_PROVISIONER_NAME" (by simp)
  obtain ⟨volumeType, hvolumeType⟩ := hsets "PVWATCHER_VOLUME_TYPE" (by simp)
  obtain ⟨url, hurl⟩ := hsets "PVWATCHER_PROVIDER_URL" (by simp)
  let config : Config := ⟨provisioner, volumeType,
    (lookup Variable.providerType).getD defaultProviderType, url,
    nonempty? lookup Variable.providerToken, c, nonempty? lookup Variable.podName,
    (lookup Variable.logLevel).getD defaultLogLevel⟩
  exact ⟨config, h, hprovisioner, hvolumeType, hurl, rfl, fun _ => nonempty?_eq_some_iff,
    fun _ => nonempty?_eq_some_iff, rfl⟩

theorem read_of_isReadFrom {c : Config} (h : IsReadFrom lookup c) : read lookup = .ok c := by
  have htype : (lookup Variable.providerType).getD defaultProviderType = c.providerType :=
    h.providerType.symm
  have htoken : nonempty? lookup Variable.providerToken = c.providerToken :=
    Option.ext fun token => nonempty?_eq_some_iff.trans (h.providerToken token).symm
  have hpod : nonempty? lookup Variable.podName = c.podName :=
    Option.ext fun name => nonempty?_eq_some_iff.trans (h.podName name).symm
  have hlevel : (lookup Variable.logLevel).getD defaultLogLevel = c.logLevel := h.logLevel.symm
  have hprovisioner : required lookup Variable.provisionerName = .ok c.provisionerName :=
    required_of_sets h.provisionerName
  have hvolumeType : required lookup Variable.volumeType = .ok c.volumeType :=
    required_of_sets h.volumeType
  have hurl : required lookup Variable.providerUrl = .ok c.providerUrl :=
    required_of_sets h.providerUrl
  unfold read
  rw [bind_of_eq_ok (ceiling_of_saysCeiling h.ceiling), bind_of_eq_ok hprovisioner,
    bind_of_eq_ok hvolumeType, bind_of_eq_ok hurl, htype, htoken, hpod, hlevel]
  rfl

theorem read_eq_error_of_not_saysCeiling {reason : Text.NumberError}
    (h : ceiling lookup = .error (.ceilingUnreadable reason)) :
    read lookup = .error (.ceilingUnreadable reason) := by
  unfold read
  exact bind_of_eq_error h _

/-! ## The rules -/

theorem ofLookup_of_read_eq_error {refusal : Refusal} (h : read lookup = .error refusal) :
    ofLookup lookup = .error refusal := bind_of_eq_error h _

theorem ofLookup_of_read_eq_ok {c : Config} (h : read lookup = .ok c) :
    ofLookup lookup = if c.flaws = [] then .ok c else .error (.invalid c.flaws) := by
  unfold ofLookup
  rw [bind_of_eq_ok h]
  by_cases hflaws : c.flaws = []
  · rw [if_pos hflaws, if_pos (List.isEmpty_iff.mpr hflaws)]
    rfl
  · rw [if_neg hflaws, if_neg (mt List.isEmpty_iff.mp hflaws)]
    rfl

theorem rules_sorted : rules.Pairwise fun f g => f.setting < g.setting := by decide

theorem mem_rules (f : Flaw) : f ∈ rules := by cases f <;> decide

theorem flaws_sorted (c : Config) : c.flaws.Pairwise fun f g => f.setting < g.setting :=
  rules_sorted.filter _

theorem mem_flaws_iff {c : Config} {f : Flaw} : f ∈ c.flaws ↔ c.breaks f = true := by
  unfold flaws
  rw [List.mem_filter]
  exact and_iff_right (mem_rules f)

theorem Sets.not_isEmpty {name value : String} (h : Sets lookup name value) :
    value.isEmpty = false := by
  obtain ⟨_, _, _, hne⟩ := h
  exact Bool.eq_false_iff.mpr fun hempty => hne (String.isEmpty_iff.mp hempty)

theorem Violates.cases_setting {setting rule : String} (h : Violates lookup setting rule) :
    setting = "max_concurrent_tasks" ∧ SaysCeiling lookup (some 0) ∨
    setting = "provider_type" ∧ lookup "PVWATCHER_PROVIDER_TYPE" = some "" ∨
    setting = "provider_url" ∧ ∃ value, Sets lookup "PVWATCHER_PROVIDER_URL" value ∧
      Url.parse? value.toList = none := by
  cases h with
  | ceiling h => exact .inl ⟨rfl, h⟩
  | providerType h => exact .inr (.inl ⟨rfl, h⟩)
  | providerUrl h hurl => exact .inr (.inr ⟨rfl, _, h, hurl⟩)

/-- The rules that the configuration breaks are those that its variables do. -/
theorem breaks_iff {c : Config} (h : IsReadFrom lookup c) (f : Flaw) :
    c.breaks f = true ↔ Violates lookup f.setting f.rule := by
  cases f with
  | ceilingZero =>
    rw [breaks, beq_iff_eq]
    constructor
    · intro hzero
      exact .ceiling (hzero ▸ h.ceiling)
    · intro hviolates
      rcases hviolates.cases_setting with ⟨_, hzero⟩ | ⟨hsetting, _⟩ | ⟨hsetting, _⟩
      · exact h.ceiling.unique hzero
      · exact absurd hsetting (by decide)
      · exact absurd hsetting (by decide)
  | providerTypeEmpty =>
    rw [breaks, String.isEmpty_iff, h.providerType]
    constructor
    · intro hempty
      rcases htype : lookup "PVWATCHER_PROVIDER_TYPE" with _ | value
      · rw [htype] at hempty
        exact absurd hempty (by decide)
      · rw [htype] at hempty
        obtain rfl : value = "" := hempty
        exact .providerType htype
    · intro hviolates
      rcases hviolates.cases_setting with ⟨hsetting, _⟩ | ⟨_, hempty⟩ | ⟨hsetting, _⟩
      · exact absurd hsetting (by decide)
      · rw [hempty, Option.getD_some]
      · exact absurd hsetting (by decide)
  | providerUrlMalformed =>
    rw [breaks, Url.isUrl, Bool.not_eq_true', Option.isSome_eq_false_iff, Option.isNone_iff_eq_none]
    constructor
    · exact .providerUrl h.providerUrl
    · intro hviolates
      rcases hviolates.cases_setting with ⟨hsetting, _⟩ | ⟨hsetting, _⟩ | ⟨_, value, hvalue, hurl⟩
      · exact absurd hsetting (by decide)
      · exact absurd hsetting (by decide)
      · rwa [h.providerUrl.unique hvalue]
  | provisionerNameEmpty =>
    refine iff_of_false (Bool.eq_false_iff.mp h.provisionerName.not_isEmpty) fun hviolates => ?_
    rcases hviolates.cases_setting with ⟨hsetting, _⟩ | ⟨hsetting, _⟩ | ⟨hsetting, _⟩ <;>
      exact absurd hsetting (by decide)
  | volumeTypeEmpty =>
    refine iff_of_false (Bool.eq_false_iff.mp h.volumeType.not_isEmpty) fun hviolates => ?_
    rcases hviolates.cases_setting with ⟨hsetting, _⟩ | ⟨hsetting, _⟩ | ⟨hsetting, _⟩ <;>
      exact absurd hsetting (by decide)

theorem Violates.exists_flaw {setting rule : String} (h : Violates lookup setting rule) :
    ∃ f : Flaw, f.setting = setting ∧ f.rule = rule := by
  cases h with
  | ceiling => exact ⟨.ceilingZero, rfl, rfl⟩
  | providerType => exact ⟨.providerTypeEmpty, rfl, rfl⟩
  | providerUrl => exact ⟨.providerUrlMalformed, rfl, rfl⟩

theorem violates_iff {c : Config} (h : IsReadFrom lookup c) (setting rule : String) :
    (∃ f ∈ c.flaws, f.setting = setting ∧ f.rule = rule) ↔ Violates lookup setting rule := by
  constructor
  · rintro ⟨f, hf, rfl, rfl⟩
    exact (breaks_iff h f).mp (mem_flaws_iff.mp hf)
  · intro hviolates
    obtain ⟨f, rfl, rfl⟩ := hviolates.exists_flaw
    exact ⟨f, mem_flaws_iff.mpr ((breaks_iff h f).mpr hviolates), rfl, rfl⟩

theorem flaws_eq_nil_iff {c : Config} (h : IsReadFrom lookup c) : c.flaws = [] ↔ c.IsValid := by
  have hnil : c.flaws = [] ↔ ∀ f, ¬ c.breaks f = true := by
    rw [flaws, List.filter_eq_nil_iff]
    exact ⟨fun hkept f => hkept f (mem_rules f), fun hkept f _ => hkept f⟩
  rw [hnil]
  constructor
  · intro hkept
    refine ⟨fun n hn => Nat.pos_of_ne_zero ?_, fun hempty => ?_, ?_⟩
    · rintro rfl
      exact hkept .ceilingZero (beq_iff_eq.mpr hn)
    · exact hkept .providerTypeEmpty (String.isEmpty_iff.mpr hempty)
    · have hurl := Bool.eq_false_iff.mpr (hkept .providerUrlMalformed)
      rwa [breaks, Bool.not_eq_false', Url.isUrl] at hurl
  · rintro ⟨hceiling, htype, hurl⟩ f hbreaks
    cases f with
    | ceilingZero => exact absurd (hceiling 0 (beq_iff_eq.mp hbreaks)) (by decide)
    | providerTypeEmpty => exact htype (String.isEmpty_iff.mp hbreaks)
    | providerUrlMalformed =>
      rw [breaks, Url.isUrl, hurl] at hbreaks
      cases hbreaks
    | provisionerNameEmpty => exact Bool.eq_false_iff.mp h.provisionerName.not_isEmpty hbreaks
    | volumeTypeEmpty => exact Bool.eq_false_iff.mp h.volumeType.not_isEmpty hbreaks

/-- Flaws in the order of the settings' names are known from their names. -/
theorem eq_of_names {l m : List Flaw} (hl : l.Pairwise fun f g => f.setting < g.setting)
    (hm : m.Pairwise fun f g => f.setting < g.setting)
    (h : ∀ setting rule, (∃ f ∈ l, f.setting = setting ∧ f.rule = rule) ↔
      ∃ f ∈ m, f.setting = setting ∧ f.rule = rule) : l = m := by
  have hmem : ∀ {l : List Flaw} {f : Flaw},
      f ∈ l ↔ ∃ g ∈ l, g.setting = f.setting ∧ g.rule = f.rule := by
    intro l f
    constructor
    · intro hf
      exact ⟨f, hf, rfl, rfl⟩
    · rintro ⟨g, hg, hsetting, _⟩
      rwa [← Flaw.setting_injective hsetting]
  have : Std.Irrefl fun f g : Flaw => f.setting < g.setting := ⟨fun f => String.lt_irrefl _⟩
  have : Std.Antisymm fun f g : Flaw => f.setting < g.setting :=
    ⟨fun f g hfg hgf => absurd (String.lt_trans hfg hgf) (String.lt_irrefl _)⟩
  exact hl.eq_of_mem_iff hm fun f => hmem.trans ((h _ _).trans hmem.symm)

/-! ## What comes of the variables -/

theorem firstMissing?_of_isReadFrom {c : Config} (h : IsReadFrom lookup c) :
    firstMissing? lookup = none := by
  refine List.find?_eq_none.mpr fun name hname => Bool.eq_false_iff.mp ?_
  rw [List.mem_cons, List.mem_cons, List.mem_singleton] at hname
  rcases hname with rfl | rfl | rfl
  · exact h.provisionerName.not_isUnset
  · exact h.volumeType.not_isUnset
  · exact h.providerUrl.not_isUnset

theorem ofLookup_of_makes {r : Except Refusal Config} (h : Makes lookup r) :
    ofLookup lookup = r := by
  cases h with
  | unreadable h hreason =>
    obtain ⟨reason, hceiling, hreason'⟩ := ceiling_of_not_saysCeiling h
    obtain rfl := Text.NumberError.eq_of_tooLarge_iff (hreason.trans hreason'.symm)
    exact ofLookup_of_read_eq_error (read_eq_error_of_not_saysCeiling hceiling)
  | missing h hname =>
    obtain ⟨_, hceiling⟩ := h
    exact ofLookup_of_read_eq_error (read_of_firstMissing hceiling hname)
  | invalid h hset hne hsorted hflaws =>
    obtain ⟨_, hceiling⟩ := h
    obtain ⟨c, hc⟩ := exists_isReadFrom hceiling hset
    obtain rfl := eq_of_names hsorted c.flaws_sorted fun setting rule =>
      (hflaws setting rule).trans (violates_iff hc setting rule).symm
    exact (ofLookup_of_read_eq_ok (read_of_isReadFrom hc)).trans (if_neg hne)
  | accepted h hvalid =>
    exact (ofLookup_of_read_eq_ok (read_of_isReadFrom h)).trans
      (if_pos ((flaws_eq_nil_iff h).mpr hvalid))

/-- One of the four comes of any variables. -/
theorem exists_makes (lookup : Lookup) : ∃ r, Makes lookup r := by
  by_cases hceiling : ∃ ceiling, SaysCeiling lookup ceiling
  · rcases hset : firstMissing? lookup with _ | name
    · obtain ⟨_, hsays⟩ := hceiling
      obtain ⟨c, hc⟩ := exists_isReadFrom hsays hset
      by_cases hflaws : c.flaws = []
      · exact ⟨_, .accepted hc ((flaws_eq_nil_iff hc).mp hflaws)⟩
      · exact ⟨_, .invalid ⟨_, hsays⟩ hset hflaws c.flaws_sorted (violates_iff hc)⟩
    · exact ⟨_, .missing hceiling hset⟩
  · obtain ⟨_, _, hreason⟩ := ceiling_of_not_saysCeiling hceiling
    exact ⟨_, .unreadable hceiling hreason⟩

theorem ofLookup_eq_iff {r : Except Refusal Config} : ofLookup lookup = r ↔ Makes lookup r := by
  constructor
  · rintro rfl
    obtain ⟨r, hr⟩ := exists_makes lookup
    rwa [ofLookup_of_makes hr]
  · exact ofLookup_of_makes

/-- Variables are accepted where the ceiling can be read, nothing is missing
and no rule is broken, and nowhere else. -/
theorem accepts_iff : (∃ c, ofLookup lookup = .ok c) ↔
    (∃ ceiling, SaysCeiling lookup ceiling) ∧ firstMissing? lookup = none ∧
      ∀ setting rule, ¬ Violates lookup setting rule := by
  constructor
  · rintro ⟨c, hc⟩
    obtain ⟨hread, hvalid⟩ : IsReadFrom lookup c ∧ c.IsValid := by
      cases ofLookup_eq_iff.mp hc with
      | accepted hread hvalid => exact ⟨hread, hvalid⟩
    refine ⟨⟨_, hread.ceiling⟩, firstMissing?_of_isReadFrom hread, fun setting rule h => ?_⟩
    obtain ⟨f, hf, _⟩ := (violates_iff hread setting rule).mpr h
    rw [(flaws_eq_nil_iff hread).mpr hvalid] at hf
    exact List.not_mem_nil hf
  · rintro ⟨⟨_, hceiling⟩, hset, hkept⟩
    obtain ⟨c, hc⟩ := exists_isReadFrom hceiling hset
    have hflaws : c.flaws = [] := List.eq_nil_iff_forall_not_mem.mpr fun f hf =>
      hkept _ _ ((violates_iff hc _ _).mp ⟨f, hf, rfl, rfl⟩)
    exact ⟨c, ofLookup_eq_iff.mpr (.accepted hc ((flaws_eq_nil_iff hc).mp hflaws))⟩

/-- The names that had to be set are never among the broken rules. -/
theorem setting_ne_of_invalid {flaws : List Flaw} (h : ofLookup lookup = .error (.invalid flaws))
    {f : Flaw} (hf : f ∈ flaws) : f.setting ≠ "provisioner_name" ∧ f.setting ≠ "volume_type" := by
  cases ofLookup_eq_iff.mp h with
  | invalid _ _ _ _ hflaws =>
    have hviolates := (hflaws f.setting f.rule).mp ⟨f, hf, rfl, rfl⟩
    rcases hviolates.cases_setting with ⟨hsetting, _⟩ | ⟨hsetting, _⟩ | ⟨hsetting, _⟩ <;>
      rw [hsetting] <;> decide

end Reading

/-- Variables make one configuration or one refusal: the ceiling is looked
at first, then what has to be set, then the rules, and of the first kind of
trouble that there is all is told. Only the first two kinds are told in
words. -/
theorem a_configuration_is_read_exactly (lookup : Lookup) :
    (∀ r, ofLookup lookup = r ↔ Makes lookup r) ∧
    ((∃ c, ofLookup lookup = .ok c) ↔
      (∃ ceiling, SaysCeiling lookup ceiling) ∧ firstMissing? lookup = none ∧
        ∀ setting rule, ¬ Violates lookup setting rule) ∧
    (∀ flaws, ofLookup lookup = .error (.invalid flaws) →
      Refusal.error? (.invalid flaws) = none ∧
      ∀ f ∈ flaws, f.setting ≠ "provisioner_name" ∧ f.setting ≠ "volume_type") ∧
    ((¬∃ ceiling, SaysCeiling lookup ceiling) →
      ∃ refusal reason, ofLookup lookup = .error refusal ∧ refusal.error? = some (.config
        ("PVWATCHER_MAX_CONCURRENT_TASKS must be a positive integer: " ++ reason))) ∧
    ((∃ ceiling, SaysCeiling lookup ceiling) → ∀ name, firstMissing? lookup = some name →
      ∃ refusal, ofLookup lookup = .error refusal ∧
        refusal.error? = some (.config ("missing required variable " ++ name))) := by
  refine ⟨fun _ => ofLookup_eq_iff, accepts_iff, fun flaws h => ⟨rfl, fun f hf => ?_⟩, ?_, ?_⟩
  · exact setting_ne_of_invalid h hf
  · intro h
    obtain ⟨reason, _, hreason⟩ := ceiling_of_not_saysCeiling h
    exact ⟨_, reason.message, ofLookup_eq_iff.mpr (.unreadable h hreason), rfl⟩
  · intro h name hname
    exact ⟨_, ofLookup_eq_iff.mpr (.missing h hname), rfl⟩

/-- Variables that break every rule that can be broken. -/
def flawedLookup : Lookup := fun name =>
  [(Variable.maxConcurrentTasks, " +00 "), (Variable.provisionerName, " a "),
    (Variable.volumeType, "b"), (Variable.providerUrl, "h"),
    (Variable.providerType, "")].lookup name

theorem three_broken_rules_are_all_told :
    Makes flawedLookup
      (.error (.invalid [.ceilingZero, .providerTypeEmpty, .providerUrlMalformed])) :=
  ((a_configuration_is_read_exactly flawedLookup).1 _).mp (by decide +kernel)

end Config

end VolumeSync

import ThingHost.Configuration.Server
import ThingHost.Proofs.Schema.Parts

/-! The settings of a host are read one by one. Each of them depends on one variable of the environment alone, and what
    is wrong with an environment is what is wrong with each variable alone. A port is whatever number its variable
    stands for, as long as that is an integer in range. -/

namespace ThingHost

/-! ### Integers in range -/

namespace Number

theorem fall_pos (q : Int) : 0 < fall 2 q := Nat.pow_pos (by decide)

theorem signed_mul (negative : Bool) (a b : Nat) : signed negative (a * b) = signed negative a * (b : Int) := by
  have hcast : ((a * b : Nat) : Int) = a * b := Int.natCast_mul a b
  cases negative with
  | false => exact hcast
  | true =>
    show -((a * b : Nat) : Int) = -(a : Int) * b
    rw [hcast, Int.neg_mul]

variable {x : Number} {n : Int}

/-- A number that is an integer is as far from a bound as that integer. -/
theorem bounds_of_toInt (h : x.toInt? = some n) (bound : Int) :
    (x.below bound = true ↔ n < bound) ∧ (x.above bound = true ↔ bound < n) := by
  cases x with
  | finite negative m q =>
    rw [toInt?] at h
    split at h
    · rename_i hwhole
      have hpos : (0 : Int) < (fall 2 q : Int) := Int.natCast_pos.mpr (fall_pos q)
      have hscaled : signed negative (m * rise 2 q) = n * (fall 2 q : Int) := by
        rw [← Option.some.inj h, ← signed_mul, Nat.div_mul_cancel (Nat.dvd_of_mod_eq_zero hwhole)]
      simp only [below, above, decide_eq_true_eq, hscaled]
      exact ⟨Int.mul_lt_mul_right hpos, Int.mul_lt_mul_right hpos⟩
    · cases h
  | _ => cases h

end Number

namespace Schema

theorem check_integer {least most : Int} {v w : Value} : check (.integer least most) v = .ok w ↔
    (∃ n, (toNumber v).toInt? = some n ∧ least ≤ n ∧ n ≤ most) ∧ w = .number (toNumber v) := by
  rw [check, checkInteger]
  split
  · rename_i hnan
    simp [hnan, wrongType, Report.ok, Number.toInt?]
  · cases hint : (toNumber v).toInt? with
    | none => simp [Report.ok]
    | some n =>
      obtain ⟨hbelow, -⟩ := Number.bounds_of_toInt hint least
      obtain ⟨-, habove⟩ := Number.bounds_of_toInt hint most
      simp [Report.ok, hbelow, habove, @eq_comm _ w]

end Schema

/-! ### Environments -/

/-- The environment of a process: names, each with a text. -/
structure Environment where
  entries : List (String × String)
  distinct : (Members.keys entries).Nodup

namespace Environment

def fields (e : Environment) : Fields := e.entries.map fun (name, text) => (name, .string text)

/-- The text of a variable that is set. -/
def setting? (e : Environment) (name : String) : Option String := (Members.get? name e.entries).filter (· ≠ "")

/-- The environment in which no variable but one is left. -/
def only (e : Environment) (name : String) : Environment :=
  ⟨e.entries.filter (·.1 = name), (List.filter_sublist.map _).nodup e.distinct⟩

section Environment
variable {name other : String} {entries : List (String × String)}

theorem get?_only (name other : String) (entries : List (String × String)) :
    Members.get? other (entries.filter (·.1 = name)) = if other = name then Members.get? other entries else none := by
  induction entries with
  | nil => simp [Members.get?]
  | cons v rest ih =>
    obtain ⟨k, text⟩ := v
    by_cases hk : k = name
    · subst hk
      rw [List.filter_cons_of_pos (by simp), Members.get?, Members.get?, ih]
      by_cases hother : k = other
      · simp [hother]
      · simp [hother, Ne.symm hother]
    · rw [List.filter_cons_of_neg (by simpa using hk), ih, Members.get?]
      by_cases hother : other = name
      · simp [hother, hk]
      · simp [hother]

theorem setting?_only (e : Environment) (name other : String) :
    (e.only name).setting? other = if other = name then e.setting? other else none := by
  rw [setting?, only, get?_only]
  split <;> rfl

/-- Of the variables that are there those count that are not empty. -/
theorem get?_present (h : (Members.keys entries).Nodup) (name : String) :
    Members.get? name (ServerConfig.present (entries.map fun (name, text) => (name, Value.string text))) =
      ((Members.get? name entries).filter (· ≠ "")).map .string := by
  induction entries with
  | nil => rfl
  | cons v rest ih =>
    obtain ⟨k, text⟩ := v
    obtain ⟨hfresh, hrest⟩ := List.nodup_cons.mp h
    have ih := ih hrest
    rw [ServerConfig.present] at ih ⊢
    rw [List.map_cons, Members.get?]
    by_cases hempty : text = ""
    · rw [List.filter_cons_of_neg (by simp [hempty]), ih]
      by_cases hk : k = name
      · have hnone : Members.get? name rest = none := Members.get?_eq_none_iff.mpr (hk ▸ hfresh)
        simp [hk, hnone, hempty, Option.filter]
      · simp [hk]
    · rw [List.filter_cons_of_pos (by simpa using hempty), Members.get?]
      by_cases hk : k = name
      · simp [hk, hempty, Option.filter]
      · rw [if_neg hk, if_neg hk, ih]

/-- What a schema sees of a variable. -/
def value (e : Environment) (name : String) : Value := ((e.setting? name).map .string).getD .undefined

theorem member_present (e : Environment) (name : String) :
    (Value.object (ServerConfig.present e.fields)).member name = e.value name := by
  rw [Value.member, Value.member?, fields, get?_present e.distinct, value, setting?]

theorem value_only (e : Environment) (name other : String) :
    (e.only name).value other = if other = name then e.value other else .undefined := by
  rw [value, setting?_only]
  split <;> rfl

theorem hasPort_fields (e : Environment) : ServerConfig.hasPort e.fields = true := by
  rw [ServerConfig.hasPort, Option.all_eq_true]
  intro v hv
  obtain ⟨⟨_, text⟩, -, hm⟩ := List.mem_map.mp (Members.mem_of_get? hv)
  rw [← (Prod.mk.inj hm).2]
  rfl

end Environment

end Environment

namespace ServerConfig

/-! ### Settings -/

/-- The variables that are looked at, with what is asked of each. -/
def settings : List (String × Schema) :=
  [("HOST", .withDefault (.text [.least 1]) (.string "0.0.0.0")), ("PORT", .withDefault (.integer 0 65535) (.ofNat 3000)),
    ("LOG_LEVEL", .withDefault (.word logLevels) (.string "info")), ("REDIS_URL", .optional (.text [.url])),
    ("THING_CATALOG", .withDefault (.text [.least 1]) (.string "config/things.json"))]

def settingNames : List String := ["HOST", "PORT", "LOG_LEVEL", "REDIS_URL", "THING_CATALOG"]

/-- What is wrong with an environment. -/
def faults (environment : Fields) : List Issue :=
  match load environment with
  | .error (.refusal (.invalidConfiguration _ issues)) => issues
  | _ => []

/-- The settings with each part taken from the ones that its variable comes to alone. -/
def assembled (alone : String → ServerConfig) : ServerConfig :=
  { host := (alone "HOST").host
    port := (alone "PORT").port
    logLevel := (alone "LOG_LEVEL").logLevel
    redisUrl := (alone "REDIS_URL").redisUrl
    catalogPath := (alone "THING_CATALOG").catalogPath }

def IsPort (x : Number) : Prop := ∃ n, x.toInt? = some n ∧ 0 ≤ n ∧ n ≤ 65535

/-- The variables of an environment are looked at one by one. -/
structure Independent (e : Environment) : Prop where
  /-- Nothing matters but the texts of the five variables, and an empty text is none. -/
  same : ∀ e' : Environment, (∀ name ∈ settingNames, e'.setting? name = e.setting? name) → load e'.fields = load e.fields
  accepted : (∃ c, load e.fields = .ok c) ↔ ∀ name ∈ settingNames, ∃ c, load (e.only name).fields = .ok c
  parts : ∀ c alone, load e.fields = .ok c → (∀ name ∈ settingNames, load (e.only name).fields = .ok (alone name)) →
    c = assembled alone
  refused : (¬∀ name ∈ settingNames, ∃ c, load (e.only name).fields = .ok c) →
    load e.fields = .error (.refusal (.invalidConfiguration .environment
      (settingNames.flatMap fun name => faults (e.only name).fields)))
  port : ∀ c, load e.fields = .ok c →
    IsPort c.port ∧ c.port = ((e.setting? "PORT").map Number.read).getD (.ofNat 3000)
  portAccepted : (∃ c, load (e.only "PORT").fields = .ok c) ↔
    ∀ text, e.setting? "PORT" = some text → IsPort (Number.read text)

section Settings
variable {e : Environment} {c : ServerConfig} {f : String × Schema}

theorem load_eq (e : Environment) : load e.fields =
    match environmentSchema.parse (.object (present e.fields)) with
    | .ok settings => .ok (ofSettings settings)
    | .error issues => refuse (.invalidConfiguration .environment issues) := by
  rw [load, e.hasPort_fields]
  rfl

/-- What is wrong with the variables, each looked at alone. -/
def issues (e : Environment) : List Issue :=
  settings.flatMap fun f => (f.2.check (e.value f.1)).issues.map (·.under (.key f.1))

theorem environment_issues (e : Environment) :
    (environmentSchema.check (.object (present e.fields))).issues = issues e := by
  rw [show environmentSchema = .shape settings from rfl, Schema.shape_issues, issues]
  simp only [e.member_present]

theorem exists_load : (∃ c, load e.fields = .ok c) ↔ issues e = [] := by
  rw [← environment_issues, ← Schema.exists_parse, load_eq]
  cases environmentSchema.parse (.object (present e.fields)) with
  | ok parsed => simp
  | error issues => simp [refuse]

theorem load_refused (h : issues e ≠ []) :
    load e.fields = .error (.refusal (.invalidConfiguration .environment (issues e))) := by
  rw [← environment_issues] at h ⊢
  rw [load_eq, Schema.parse_of_issues h]
  rfl

theorem faults_eq (e : Environment) : faults e.fields = issues e := by
  rw [faults]
  by_cases h : issues e = []
  · obtain ⟨c, hc⟩ := exists_load.mpr h
    rw [hc, h]
  · rw [load_refused h]

/-- The settings that are loaded say what each schema made of its variable. -/
theorem settings_of_load (h : load e.fields = .ok c) : ∃ parsed, c = ofSettings parsed ∧
    ∀ f ∈ settings, f.2.check (e.value f.1) = .ok (parsed.member f.1) := by
  rw [load_eq] at h
  cases hparse : environmentSchema.parse (.object (present e.fields)) with
  | error issues =>
    rw [hparse] at h
    cases h
  | ok parsed =>
    rw [hparse] at h
    refine ⟨parsed, (Except.ok.inj h).symm, fun f hf => ?_⟩
    rw [← e.member_present]
    exact Schema.member_of_shape (by decide) (Schema.parse_eq_ok.mp hparse) hf

theorem ofSettings_congr {a b : Value} (h : ∀ f ∈ settings, a.member f.1 = b.member f.1) :
    ofSettings a = ofSettings b := by
  simp only [settings, List.forall_mem_cons, List.not_mem_nil, false_imp_iff, implies_true, and_true] at h
  obtain ⟨hhost, hport, hlevel, hredis, hcatalog⟩ := h
  simp only [ofSettings, Value.text?, hhost, hport, hlevel, hredis, hcatalog]

/-! ### One variable alone -/

/-- Nothing is wrong with a variable that is not set. -/
theorem unset_issues : ∀ f ∈ settings, (f.2.check .undefined).issues = [] := by decide +kernel

theorem settings_name {f g : String × Schema} (hf : f ∈ settings) (hg : g ∈ settings) (h : g.1 = f.1) : g = f :=
  List.inj_on_of_nodup_map (f := Prod.fst) (by decide) hg hf h

theorem issues_only (e : Environment) (hf : f ∈ settings) :
    issues (e.only f.1) = (f.2.check (e.value f.1)).issues.map (·.under (.key f.1)) := by
  have hdistinct : settings.Nodup := List.Nodup.of_map Prod.fst (by decide)
  rw [issues, Schema.flatMap_one hdistinct hf, e.value_only, if_pos rfl]
  intro g hg hne
  rw [e.value_only, if_neg (mt (settings_name hf hg) hne), unset_issues g hg]
  rfl

theorem issues_eq (e : Environment) : issues e = settingNames.flatMap fun name => faults (e.only name).fields := by
  have hnames : settingNames = settings.map (·.1) := rfl
  rw [hnames, List.flatMap_map, issues]
  refine List.flatMap_congr fun f hf => ?_
  rw [faults_eq, issues_only e hf]

theorem parts_of_load {alone : String → ServerConfig} (h : load e.fields = .ok c)
    (halone : ∀ name ∈ settingNames, load (e.only name).fields = .ok (alone name)) : c = assembled alone := by
  obtain ⟨parsed, rfl, hparsed⟩ := settings_of_load h
  -- A schema makes the same of its variable, whatever else there is.
  have hparts : ∀ f ∈ settings, ∃ part, alone f.1 = ofSettings part ∧ parsed.member f.1 = part.member f.1 := by
    intro f hf
    obtain ⟨part, hpart, hmembers⟩ := settings_of_load (halone f.1 (List.mem_map.mpr ⟨f, hf, rfl⟩))
    have hmember := hmembers f hf
    rw [e.value_only, if_pos rfl, hparsed f hf] at hmember
    exact ⟨part, hpart, Option.some.inj (congrArg Report.result hmember)⟩
  simp only [settings, List.forall_mem_cons, List.not_mem_nil, false_imp_iff, implies_true, and_true] at hparts
  obtain ⟨⟨host, hhost, hhost'⟩, ⟨port, hport, hport'⟩, ⟨level, hlevel, hlevel'⟩, ⟨redis, hredis, hredis'⟩,
    ⟨catalog, hcatalog, hcatalog'⟩⟩ := hparts
  simp only [assembled, hhost, hport, hlevel, hredis, hcatalog, ofSettings, Value.text?, hhost', hport', hlevel',
    hredis', hcatalog']

/-! ### The port -/

theorem port_of_load (h : load e.fields = .ok c) :
    IsPort c.port ∧ c.port = ((e.setting? "PORT").map Number.read).getD (.ofNat 3000) := by
  obtain ⟨parsed, rfl, hparsed⟩ := settings_of_load h
  have hport := hparsed ("PORT", .withDefault (.integer 0 65535) (.ofNat 3000)) (by simp [settings])
  dsimp only at hport
  rw [Schema.check, Schema.check_integer] at hport
  obtain ⟨hrange, hmember⟩ := hport
  have hnumber : Schema.toNumber (if (e.value "PORT").isUndefined then .ofNat 3000 else e.value "PORT") =
      ((e.setting? "PORT").map Number.read).getD (.ofNat 3000) := by
    rw [Environment.value]
    cases e.setting? "PORT" <;> rfl
  rw [hnumber] at hrange hmember
  rw [ofSettings, hmember]
  exact ⟨hrange, rfl⟩

theorem accepts_port {v : Value} :
    Schema.Accepts (.withDefault (.integer 0 65535) (.ofNat 3000)) v ↔ v = .undefined ∨ IsPort (Schema.toNumber v) := by
  have haccepts : ∀ {v : Value}, Schema.Accepts (.integer 0 65535) v ↔ IsPort (Schema.toNumber v) := by
    intro v
    simp [Schema.Accepts, Schema.check_integer, IsPort]
  rw [Schema.accepts_withDefault (haccepts.mpr ⟨3000, by decide +kernel⟩), haccepts]

theorem port_accepted (e : Environment) : (∃ c, load (e.only "PORT").fields = .ok c) ↔
    ∀ text, e.setting? "PORT" = some text → IsPort (Number.read text) := by
  have hport : ("PORT", .withDefault (.integer 0 65535) (.ofNat 3000)) ∈ settings := by simp [settings]
  rw [exists_load, issues_only e hport, List.map_eq_nil_iff, ← Schema.accepts_iff_issues, accepts_port,
    Environment.value]
  cases e.setting? "PORT" with
  | none => simp
  | some text =>
    have hread : Schema.toNumber (.string text) = Number.read text := rfl
    simp [hread]

end Settings

/-! ### The law -/

theorem configuration_law (e : Environment) : Independent e := by
  have haccepted : (∃ c, load e.fields = .ok c) ↔ ∀ name ∈ settingNames, ∃ c, load (e.only name).fields = .ok c := by
    rw [exists_load, issues_eq, List.flatMap_eq_nil_iff]
    refine forall₂_congr fun name _ => ?_
    rw [faults_eq, exists_load]
  refine ⟨fun e' hsame => ?_, haccepted, fun c alone => parts_of_load, fun hnot => ?_, fun c => port_of_load,
    port_accepted e⟩
  · -- Both are accepted or both refused, as the schemas see the same texts.
    have hvalues : ∀ f ∈ settings, e'.value f.1 = e.value f.1 := by
      intro f hf
      rw [Environment.value, hsame f.1 (List.mem_map.mpr ⟨f, hf, rfl⟩), Environment.value]
    have hissues : issues e' = issues e := List.flatMap_congr fun f hf => by rw [hvalues f hf]
    by_cases h : issues e = []
    · obtain ⟨c, hc⟩ := exists_load.mpr h
      obtain ⟨c', hc'⟩ := exists_load.mpr (hissues.trans h)
      obtain ⟨parsed, rfl, hparsed⟩ := settings_of_load hc
      obtain ⟨parsed', rfl, hparsed'⟩ := settings_of_load hc'
      rw [hc, hc', ofSettings_congr fun f hf => ?_]
      have hmember := hparsed' f hf
      rw [hvalues f hf, hparsed f hf] at hmember
      exact (Option.some.inj (congrArg Report.result hmember)).symm
    · rw [load_refused h, load_refused (hissues ▸ h), hissues]
  · rw [← issues_eq]
    exact load_refused fun h => hnot (haccepted.mp (exists_load.mpr h))

end ServerConfig

end ThingHost

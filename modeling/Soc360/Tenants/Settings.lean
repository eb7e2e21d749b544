import Soc360.Scans.Config
import Soc360.Tenants.Deactivation

set_option autoImplicit false

/-! What a `PATCH` of a tenant leaves of its settings. -/

namespace Dict

variable {Value : Type}

/-- `entries[key] = value`. -/
def assign (key : String) (value : Value) : List (String × Value) → List (String × Value)
  | [] => [(key, value)]
  | entry :: entries =>
      if entry.1 = key then (key, value) :: entries else entry :: assign key value entries

/-- `entries.update(given)`. -/
def update (entries given : List (String × Value)) : List (String × Value) :=
  given.foldl (fun entries entry => assign entry.1 entry.2 entries) entries

/-- The entries that have a value. -/
def present (fields : List (String × Option Value)) : List (String × Value) :=
  fields.filterMap fun field => field.2.map (field.1, ·)

theorem lookup_cons (key : String) (entry : String × Value) (entries : List (String × Value)) :
    (entry :: entries).lookup key = if key = entry.1 then some entry.2 else entries.lookup key := by
  rw [List.lookup_cons]
  by_cases same : key = entry.1
  · rw [if_pos same, beq_iff_eq.mpr same]
  · rw [if_neg same, beq_eq_false_iff_ne.mpr same]

theorem lookup_absent {key : String} {entries : List (String × Value)}
    (absent : key ∉ entries.map Prod.fst) : entries.lookup key = none := by
  apply List.lookup_eq_none_iff.mpr
  intro entry member
  apply bne_iff_ne.mpr
  rintro rfl
  exact absent (List.mem_map_of_mem member)

theorem lookup_assign (key other : String) (value : Value) (entries : List (String × Value)) :
    (assign key value entries).lookup other =
      if other = key then some value else entries.lookup other := by
  induction entries with
  | nil => exact lookup_cons other (key, value) []
  | cons entry entries ih =>
      rw [assign]
      by_cases here : entry.1 = key
      · rw [if_pos here, lookup_cons, lookup_cons, here]
        by_cases same : other = key
        · rw [if_pos same, if_pos same]
        · rw [if_neg same, if_neg same, if_neg same]
      · rw [if_neg here, lookup_cons, ih, lookup_cons]
        by_cases same : other = key
        · have apart : other ≠ entry.1 := fun hit => here (hit.symm.trans same)
          rw [if_neg apart, if_pos same, if_pos same]
        · rw [if_neg same, if_neg same]

/-- What is given holds, and other keys keep their values. -/
theorem lookup_update (entries given : List (String × Value)) (key : String)
    (distinct : (given.map Prod.fst).Nodup) :
    (update entries given).lookup key = (given.lookup key).or (entries.lookup key) := by
  induction given generalizing entries with
  | nil => rfl
  | cons entry given ih =>
      obtain ⟨absent, distinct⟩ := List.nodup_cons.mp distinct
      change (update (assign entry.1 entry.2 entries) given).lookup key = _
      rw [ih _ distinct, lookup_assign, lookup_cons]
      by_cases same : key = entry.1
      · rw [if_pos same, if_pos same, lookup_absent (same ▸ absent)]
        rfl
      · rw [if_neg same, if_neg same]

theorem present_cons (field : String × Option Value) (fields : List (String × Option Value)) :
    present (field :: fields) = (field.2.map (field.1, ·)).toList ++ present fields := by
  obtain ⟨key, value⟩ := field
  cases value <;> rfl

theorem present_keys (fields : List (String × Option Value)) :
    ((present fields).map Prod.fst).Sublist (fields.map Prod.fst) := by
  induction fields with
  | nil => exact List.Sublist.slnil
  | cons field fields ih =>
      rw [present_cons, List.map_cons]
      cases field.2 with
      | none => exact ih.cons _
      | some value => exact ih.cons_cons _

theorem lookup_present (fields : List (String × Option Value)) (key : String)
    (distinct : (fields.map Prod.fst).Nodup) :
    (present fields).lookup key = (fields.lookup key).join := by
  induction fields with
  | nil => rfl
  | cons field fields ih =>
      obtain ⟨absent, distinct⟩ := List.nodup_cons.mp distinct
      rw [present_cons, lookup_cons]
      by_cases same : key = field.1
      · rw [if_pos same]
        cases given : field.2 with
        | none =>
            change (present fields).lookup key = none
            rw [ih distinct, lookup_absent (same ▸ absent)]
            rfl
        | some value =>
            change ((field.1, value) :: present fields).lookup key = some value
            rw [lookup_cons, if_pos same]
      · rw [if_neg same, ← ih distinct]
        cases given : field.2 with
        | none => rfl
        | some value =>
            change ((field.1, value) :: present fields).lookup key = _
            rw [lookup_cons, if_neg same]

end Dict

namespace Tenants

open Auth (Redis Seconds)
open Scans (Json JsonObject)

/-- The text of the Literal. -/
def Severity.text : Severity → String
  | critical => "critical"
  | high => "high"
  | medium => "medium"
  | low => "low"

def positiveJson (number : ℕ+) : Json := .int (number : ℕ)

/-- `model_dump()` of the limits. -/
def ScanLimits.dump (limits : ScanLimits) : JsonObject :=
  [("daily_max", positiveJson limits.dailyMax),
    ("concurrent_max", positiveJson limits.concurrentMax)]

/-- `model_dump()`. -/
def TenantSettings.dump (settings : TenantSettings) : JsonObject :=
  [("notification_email", Json.ofText? settings.notificationEmail),
    ("scan_schedule", .str settings.scanSchedule),
    ("severity_threshold", .str settings.severityThreshold.text),
    ("timezone", .str settings.timezone),
    ("scan_limits", .obj settings.scanLimits.dump),
    ("log_buffer_max", positiveJson settings.logBufferMax),
    ("baseline_reset_requested", .bool settings.baselineResetRequested)]

def ScanLimitsUpdate.fields (limits : ScanLimitsUpdate) : List (String × Option Json) :=
  [("daily_max", limits.dailyMax.map positiveJson),
    ("concurrent_max", limits.concurrentMax.map positiveJson)]

/-- `model_dump(exclude_unset=True)` of the limits. -/
def ScanLimitsUpdate.dump (limits : ScanLimitsUpdate) : JsonObject := Dict.present limits.fields

def SettingsUpdate.fields (given : SettingsUpdate) : List (String × Option Json) :=
  [("notification_email", given.notificationEmail.map Json.ofText?),
    ("scan_schedule", given.scanSchedule.map .str),
    ("severity_threshold", given.severityThreshold.map fun threshold => .str threshold.text),
    ("timezone", given.timezone.map .str),
    ("scan_limits", given.scanLimits.map fun limits => .obj limits.dump),
    ("log_buffer_max", given.logBufferMax.map positiveJson),
    ("baseline_reset_requested", given.baselineResetRequested.map .bool)]

/-- `model_dump(exclude_unset=True)`, at every level. -/
def SettingsUpdate.dump (given : SettingsUpdate) : JsonObject := Dict.present given.fields

/-! `model_validate` on values of the types of a dump. -/

section

-- the validation of `EmailStr`
variable (email : String → Option String)

/-- A field that is missing has its default. -/
def readField {Value : Type} (object : JsonObject) (key : String) (read : Json → Option Value)
    (default : Value) : Option Value :=
  match object.lookup key with
  | none => some default
  | some value => read value

def readEmail : Json → Option (Option String)
  | .null => some none
  | .str text => (email text).map some
  | _ => none

def readSeverity : Json → Option Severity
  | .str "critical" => some .critical
  | .str "high" => some .high
  | .str "medium" => some .medium
  | .str "low" => some .low
  | _ => none

/-- `gt=0`. -/
def readPositive : Json → Option ℕ+
  | .int number => if positive : 0 < number.toNat then some ⟨number.toNat, positive⟩ else none
  | _ => none

def readBool : Json → Option Bool
  | .bool value => some value
  | _ => none

/-- `extra="forbid"`. -/
def readLimits : Json → Option ScanLimits
  | .obj fields => do
      let defaults := ScanLimits.defaults
      guard (fields.all fun field => ["daily_max", "concurrent_max"].contains field.1)
      let dailyMax ← readField fields "daily_max" readPositive defaults.dailyMax
      let concurrentMax ← readField fields "concurrent_max" readPositive defaults.concurrentMax
      return ⟨dailyMax, concurrentMax⟩
  | _ => none

/-- `TenantSettings.model_validate`. -/
def TenantSettings.modelValidate (object : JsonObject) : Option TenantSettings := do
  let defaults := TenantSettings.defaults
  let notificationEmail ← readField object "notification_email" (readEmail email)
    defaults.notificationEmail
  let scanSchedule ← readField object "scan_schedule" Json.text? defaults.scanSchedule
  let severityThreshold ← readField object "severity_threshold" readSeverity
    defaults.severityThreshold
  let timezone ← readField object "timezone" Json.text? defaults.timezone
  let scanLimits ← readField object "scan_limits" readLimits defaults.scanLimits
  let logBufferMax ← readField object "log_buffer_max" readPositive defaults.logBufferMax
  let baselineResetRequested ← readField object "baseline_reset_requested" readBool
    defaults.baselineResetRequested
  return ⟨notificationEmail, scanSchedule, severityThreshold, timezone, scanLimits, logBufferMax,
    baselineResetRequested⟩

end

section

variable {email : String → Option String} {given : SettingsUpdate} {current : TenantSettings}

theorem readSeverity_text (threshold : Severity) :
    readSeverity (.str threshold.text) = some threshold := by
  cases threshold <;> rfl

theorem readPositive_json (number : ℕ+) : readPositive (positiveJson number) = some number := by
  obtain ⟨number, positive⟩ := number
  exact dif_pos positive

theorem readLimits_dump (limits : ScanLimits) : readLimits (.obj limits.dump) = some limits := by
  have daily : readField limits.dump "daily_max" readPositive ScanLimits.defaults.dailyMax =
      some limits.dailyMax := readPositive_json limits.dailyMax
  have concurrent : readField limits.dump "concurrent_max" readPositive
      ScanLimits.defaults.concurrentMax = some limits.concurrentMax :=
    readPositive_json limits.concurrentMax
  simp only [readLimits, daily, concurrent]
  rfl

theorem limitKeys_nodup (limits : ScanLimitsUpdate) : (limits.fields.map Prod.fst).Nodup := by
  change ["daily_max", "concurrent_max"].Nodup
  decide

/-- A limit is read as the one that is given, or else as its default. -/
theorem readField_limit {limits : ScanLimitsUpdate} {key : String} {sent : Option ℕ+}
    (default : ℕ+) (named : limits.fields.lookup key = some (sent.map positiveJson)) :
    readField limits.dump key readPositive default = some (sent.getD default) := by
  rw [readField, ScanLimitsUpdate.dump, Dict.lookup_present _ _ (limitKeys_nodup limits), named]
  cases sent with
  | none => rfl
  | some number => exact readPositive_json number

theorem readLimits_update (limits : ScanLimitsUpdate) :
    readLimits (.obj limits.dump) = some ⟨limits.dailyMax.getD ScanLimits.defaults.dailyMax,
      limits.concurrentMax.getD ScanLimits.defaults.concurrentMax⟩ := by
  have daily : readField limits.dump "daily_max" readPositive ScanLimits.defaults.dailyMax =
      some (limits.dailyMax.getD ScanLimits.defaults.dailyMax) := readField_limit _ rfl
  have concurrent : readField limits.dump "concurrent_max" readPositive
      ScanLimits.defaults.concurrentMax =
        some (limits.concurrentMax.getD ScanLimits.defaults.concurrentMax) :=
    readField_limit _ rfl
  have allowed : (limits.dump.all fun field =>
      ["daily_max", "concurrent_max"].contains field.1) = true := by
    apply List.all_eq_true.mpr
    intro field member
    have listed := (Dict.present_keys _).subset (List.mem_map_of_mem member)
    exact List.contains_iff_mem.mpr listed
  simp only [readLimits, daily, concurrent, allowed]
  rfl

theorem settingsKeys_nodup : (given.fields.map Prod.fst).Nodup := by
  change ["notification_email", "scan_schedule", "severity_threshold", "timezone", "scan_limits",
    "log_buffer_max", "baseline_reset_requested"].Nodup
  decide

theorem lookup_merged (key : String) : (Dict.update current.dump given.dump).lookup key =
    (given.fields.lookup key).join.or (current.dump.lookup key) := by
  have distinct : (given.dump.map Prod.fst).Nodup :=
    settingsKeys_nodup.sublist (Dict.present_keys given.fields)
  rw [Dict.lookup_update _ _ _ distinct, SettingsUpdate.dump,
    Dict.lookup_present _ _ settingsKeys_nodup]

/-- A field of the merged object is read as the one that is given, or else as the stored one. -/
theorem readField_merged {Sent Value : Type} {key : String} {read : Json → Option Value}
    {default : Value} {write : Sent → Json} {sent : Option Sent} {stored : Json}
    {result : Sent → Value} {before : Value} (named : given.fields.lookup key = some (sent.map write))
    (held : current.dump.lookup key = some stored)
    (reads : ∀ value, sent = some value → read (write value) = some (result value))
    (keeps : sent = none → read stored = some before) :
    readField (Dict.update current.dump given.dump) key read default =
      some ((sent.map result).getD before) := by
  rw [readField, lookup_merged, named, held]
  cases sent with
  | none => exact keeps rfl
  | some value => exact reads value rfl

/-- The addresses of a payload and of a column are valid, and validation leaves them alone. -/
def KeepsEmail (email : String → Option String) (given : SettingsUpdate)
    (current : TenantSettings) : Prop :=
  ∀ text, given.notificationEmail.getD current.notificationEmail = some text →
    email text = some text

/-- Dumping, updating and validating again come to `merge`. -/
theorem modelValidate_merged (kept : KeepsEmail email given current) :
    TenantSettings.modelValidate email (Dict.update current.dump given.dump) =
      some (given.merge current) := by
  have address (sent : Option String) (held : given.notificationEmail.getD
      current.notificationEmail = sent) : readEmail email (Json.ofText? sent) = some sent := by
    cases sent with
    | none => rfl
    | some text => exact congrArg (Option.map some) (kept text held)
  have emails : readField (Dict.update current.dump given.dump) "notification_email"
      (readEmail email) TenantSettings.defaults.notificationEmail =
        some ((given.notificationEmail.map id).getD current.notificationEmail) := by
    have sent (value : Option String) (here : given.notificationEmail = some value) :
        readEmail email (Json.ofText? value) = some (id value) :=
      address value (by rw [here]; rfl)
    have held (absent : given.notificationEmail = none) :
        readEmail email (Json.ofText? current.notificationEmail) =
          some current.notificationEmail :=
      address current.notificationEmail (by rw [absent]; rfl)
    exact readField_merged rfl rfl sent held
  have schedule : readField (Dict.update current.dump given.dump) "scan_schedule" Json.text?
      TenantSettings.defaults.scanSchedule =
        some ((given.scanSchedule.map id).getD current.scanSchedule) :=
    readField_merged rfl rfl (fun _ _ => rfl) fun _ => rfl
  have threshold : readField (Dict.update current.dump given.dump) "severity_threshold"
      readSeverity TenantSettings.defaults.severityThreshold =
        some ((given.severityThreshold.map id).getD current.severityThreshold) :=
    readField_merged rfl rfl (fun value _ => readSeverity_text value) fun _ =>
      readSeverity_text current.severityThreshold
  have timezone : readField (Dict.update current.dump given.dump) "timezone" Json.text?
      TenantSettings.defaults.timezone = some ((given.timezone.map id).getD current.timezone) :=
    readField_merged rfl rfl (fun _ _ => rfl) fun _ => rfl
  have limits : readField (Dict.update current.dump given.dump) "scan_limits" readLimits
      TenantSettings.defaults.scanLimits = some ((given.scanLimits.map fun limits =>
        ⟨limits.dailyMax.getD ScanLimits.defaults.dailyMax,
          limits.concurrentMax.getD ScanLimits.defaults.concurrentMax⟩).getD
            current.scanLimits) :=
    readField_merged rfl rfl (fun limits _ => readLimits_update limits) fun _ =>
      readLimits_dump current.scanLimits
  have buffer : readField (Dict.update current.dump given.dump) "log_buffer_max" readPositive
      TenantSettings.defaults.logBufferMax =
        some ((given.logBufferMax.map id).getD current.logBufferMax) :=
    readField_merged rfl rfl (fun number _ => readPositive_json number) fun _ =>
      readPositive_json current.logBufferMax
  have reset : readField (Dict.update current.dump given.dump) "baseline_reset_requested"
      readBool TenantSettings.defaults.baselineResetRequested =
        some ((given.baselineResetRequested.map id).getD current.baselineResetRequested) :=
    readField_merged rfl rfl (fun _ _ => rfl) fun _ => rfl
  simp only [TenantSettings.modelValidate, emails, schedule, threshold, timezone, limits, buffer,
    reset, Option.map_id_fun, id_eq, Option.bind_eq_bind, Option.bind_some, SettingsUpdate.merge]
  cases given.scanLimits <;> rfl

/-- Each setting that is named holds what was sent, and each other one keeps its value, also
inside `scan_limits`. -/
structure DeepMerged (given : SettingsUpdate) (before after : TenantSettings) : Prop where
  notificationEmail : after.notificationEmail =
    given.notificationEmail.getD before.notificationEmail
  scanSchedule : after.scanSchedule = given.scanSchedule.getD before.scanSchedule
  severityThreshold : after.severityThreshold =
    given.severityThreshold.getD before.severityThreshold
  timezone : after.timezone = given.timezone.getD before.timezone
  dailyMax : after.scanLimits.dailyMax =
    (given.scanLimits.bind ScanLimitsUpdate.dailyMax).getD before.scanLimits.dailyMax
  concurrentMax : after.scanLimits.concurrentMax =
    (given.scanLimits.bind ScanLimitsUpdate.concurrentMax).getD before.scanLimits.concurrentMax
  logBufferMax : after.logBufferMax = given.logBufferMax.getD before.logBufferMax
  baselineResetRequested : after.baselineResetRequested =
    given.baselineResetRequested.getD before.baselineResetRequested

/-- A limit that a given `scan_limits` leaves out has its default. -/
def UnnamedAtDefault (given : SettingsUpdate) (before : TenantSettings) : Prop :=
  ∀ limits, given.scanLimits = some limits →
    (limits.dailyMax = none → before.scanLimits.dailyMax = ScanLimits.defaults.dailyMax) ∧
      (limits.concurrentMax = none →
        before.scanLimits.concurrentMax = ScanLimits.defaults.concurrentMax)

theorem getD_agree_iff {Value : Type} {sent : Option Value} {default before : Value} :
    sent.getD default = sent.getD before ↔ (sent = none → before = default) := by
  cases sent with
  | none => exact ⟨fun same _ => same.symm, fun same => (same rfl).symm⟩
  | some value => exact iff_of_true rfl fun absent => by cases absent

theorem merge_deep_iff :
    DeepMerged given current (given.merge current) ↔ UnnamedAtDefault given current := by
  cases limits : given.scanLimits with
  | none =>
      refine iff_of_true ⟨rfl, rfl, rfl, rfl, ?_, ?_, rfl, rfl⟩ ?_
      · rw [SettingsUpdate.merge, limits]
        rfl
      · rw [SettingsUpdate.merge, limits]
        rfl
      · intro other named
        rw [limits] at named
        cases named
  | some sent =>
      have merged : (given.merge current).scanLimits =
          ⟨sent.dailyMax.getD ScanLimits.defaults.dailyMax,
            sent.concurrentMax.getD ScanLimits.defaults.concurrentMax⟩ := by
        rw [SettingsUpdate.merge, limits]
        rfl
      constructor
      · intro deep other named
        rw [limits] at named
        cases named
        have daily := deep.dailyMax
        have concurrent := deep.concurrentMax
        rw [merged, limits, Option.bind_some] at daily concurrent
        exact ⟨getD_agree_iff.mp daily, getD_agree_iff.mp concurrent⟩
      · intro defaults
        obtain ⟨daily, concurrent⟩ := defaults sent limits
        refine ⟨rfl, rfl, rfl, rfl, ?_, ?_, rfl, rfl⟩
        · rw [merged, limits]
          exact getD_agree_iff.mpr daily
        · rw [merged, limits]
          exact getD_agree_iff.mpr concurrent

section

variable {texts : Texts} {data : TenantUpdate} {tenant updated : Tenant}

theorem TenantUpdate.assignName_settings (assigned : data.assignName texts tenant = .ok updated) :
    updated.settings = tenant.settings := by
  unfold assignName at assigned
  split at assigned
  next => cases assigned; rfl
  next => cases assigned
  next => cases assigned; rfl

theorem TenantUpdate.assignPlan_settings (assigned : data.assignPlan texts tenant = .ok updated) :
    updated.settings = tenant.settings := by
  unfold assignPlan at assigned
  split at assigned
  next => cases assigned; rfl
  next => cases assigned
  next =>
    split at assigned
    next =>
      obtain ⟨limit, _, assigned⟩ := Except.bind_eq_ok.mp assigned
      cases assigned
      rfl
    next => cases assigned; rfl

theorem TenantUpdate.assignMaxAssets_settings
    (assigned : data.assignMaxAssets texts tenant = .ok updated) :
    updated.settings = tenant.settings := by
  unfold assignMaxAssets at assigned
  split at assigned
  next => cases assigned; rfl
  next =>
    obtain ⟨limit, _, assigned⟩ := Except.bind_eq_ok.mp assigned
    cases assigned
  next =>
    obtain ⟨limit, _, assigned⟩ := Except.bind_eq_ok.mp assigned
    obtain ⟨_, _, assigned⟩ := Except.bind_eq_ok.mp assigned
    cases assigned
    rfl

theorem TenantUpdate.assignIsActive_settings (assigned : data.assignIsActive tenant = .ok updated) :
    updated.settings = tenant.settings := by
  unfold assignIsActive at assigned
  split at assigned
  next => cases assigned; rfl
  next => cases assigned
  next => cases assigned; rfl

/-- The assignments before that of the settings leave the column alone. -/
theorem TenantUpdate.assign_settings (named : data.settings = .value given)
    (assigned : data.assign texts tenant = .ok updated) :
    updated.settings = some (given.merge (tenant.settings.getD .defaults)) := by
  obtain ⟨renamed, name, assigned⟩ := Except.bind_eq_ok.mp assigned
  obtain ⟨planned, plan, assigned⟩ := Except.bind_eq_ok.mp assigned
  obtain ⟨limited, limit, assigned⟩ := Except.bind_eq_ok.mp assigned
  obtain ⟨activated, active, assigned⟩ := Except.bind_eq_ok.mp assigned
  obtain ⟨configured, settings, assigned⟩ := Except.bind_eq_ok.mp assigned
  obtain ⟨_, _, assigned⟩ := Except.bind_eq_ok.mp assigned
  obtain ⟨_, _, assigned⟩ := Except.bind_eq_ok.mp assigned
  cases assigned
  have kept : activated.settings = tenant.settings :=
    (assignIsActive_settings active).trans <| (assignMaxAssets_settings limit).trans <|
      (assignPlan_settings plan).trans (assignName_settings name)
  rw [assignSettings, named] at settings
  cases settings
  rw [← kept]

variable {ttlSeconds : Seconds} {tenantId : TenantId} {attempt : Attempt}
  {database after : Database} {redis redis' : Redis} {row : Tenant}

/-- What `update_tenant` returns is what it stores. -/
theorem Service.updateTenant_ok (updated : updateTenant texts ttlSeconds tenantId attempt data
      database redis = some (.ok (row, after), redis')) :
    ∃ tenant, database.tenants.find tenantId = some tenant ∧ data.assign texts tenant = .ok row ∧
      after.tenants.find tenantId = some row := by
  rw [updateTenant] at updated
  cases found : database.tenants.find tenantId with
  | none =>
      rw [found] at updated
      cases updated
  | some tenant =>
      rw [found] at updated
      simp only at updated
      have written : (database.writeTenant tenantId row).tenants.find tenantId = some row := by
        change (database.tenants.update _).find tenantId = _
        rw [Table.find_update, found, Option.map_some, if_pos rfl, Option.getD_some]
      cases assigned : data.assign texts tenant with
      | error error =>
          rw [assigned] at updated
          cases updated
      | ok changed =>
          rw [assigned] at updated
          simp only at updated
          split at updated
          next =>
            rw [endSessions] at updated
            split at updated
            next =>
              obtain ⟨last, _, answered⟩ := Option.map_eq_some_iff.mp updated
              have replied := (Prod.mk.inj answered).1
              cases revoked : revokeUserTokensDeterministically texts attempt.userIds last.tasks with
              | error error =>
                  rw [revoked] at replied
                  cases replied
              | ok _ =>
                  rw [revoked] at replied
                  cases replied
                  exact ⟨tenant, rfl, assigned, written⟩
            next => cases updated
          next =>
            cases updated
            exact ⟨tenant, rfl, assigned, written⟩

/-- A `PATCH` of the settings is a deep merge, if and only if each limit that a given
`scan_limits` leaves out has its default in the row. -/
theorem settings_deep_merged_iff (found : database.tenants.find tenantId = some tenant)
    (named : data.settings = .value given)
    (updated : Service.updateTenant texts ttlSeconds tenantId attempt data database redis =
      some (.ok (row, after), redis')) :
    (∃ settings, (after.tenants.find tenantId).map Tenant.settings = some (some settings) ∧
      DeepMerged given (tenant.settings.getD .defaults) settings) ↔
      UnnamedAtDefault given (tenant.settings.getD .defaults) := by
  obtain ⟨stored, found', assigned, written⟩ := Service.updateTenant_ok updated
  rw [found] at found'
  cases found'
  rw [written, Option.map_some, TenantUpdate.assign_settings named assigned]
  constructor
  · rintro ⟨settings, same, deep⟩
    cases same
    exact merge_deep_iff.mp deep
  · intro defaults
    exact ⟨_, rfl, merge_deep_iff.mpr defaults⟩

/-- A tenant with limits of its own. -/
def limitedTenant : Database where
  tenants := Table.empty.insert 1 ⟨"Acme", "free", 10, true,
    some { TenantSettings.defaults with scanLimits := ⟨20, 4⟩ }⟩
  users := Table.empty
  tokens := Table.empty
  listed := Table.Listed.empty

/-- A body with nothing but `{"settings": {"scan_limits": …}}`. -/
def limitsOnly (limits : ScanLimitsUpdate) : TenantUpdate :=
  ⟨.unset, .unset, .unset, .unset, .value ⟨none, none, none, none, some limits, none, none⟩⟩

theorem settings_deep_merged_iff_limits :
    ∃ row after redis settings, Service.updateTenant exampleTexts 900 1 ⟨100, [], []⟩
        (limitsOnly ⟨some 10, some 2⟩) limitedTenant Redis.empty = some (.ok (row, after), redis) ∧
      (after.tenants.find 1).map Tenant.settings = some (some settings) ∧
      DeepMerged ⟨none, none, none, none, some ⟨some 10, some 2⟩, none, none⟩
        { TenantSettings.defaults with scanLimits := ⟨20, 4⟩ } settings := by
  obtain ⟨row, after, redis, updated⟩ : ∃ row after redis,
      Service.updateTenant exampleTexts 900 1 ⟨100, [], []⟩ (limitsOnly ⟨some 10, some 2⟩)
        limitedTenant Redis.empty = some (.ok (row, after), redis) := ⟨_, _, _, rfl⟩
  have defaults : UnnamedAtDefault ⟨none, none, none, none, some ⟨some 10, some 2⟩, none, none⟩
      { TenantSettings.defaults with scanLimits := ⟨20, 4⟩ } := by
    intro sent here
    cases here
    constructor
    · intro absent
      cases absent
    · intro absent
      cases absent
  obtain ⟨settings, stored, deep⟩ := (settings_deep_merged_iff rfl rfl updated).mpr defaults
  exact ⟨row, after, redis, settings, updated, stored, deep⟩

/-- A body that names `daily_max` sets `concurrent_max` back to 1. -/
theorem concurrent_max_lost :
    ∃ row after redis settings, Service.updateTenant exampleTexts 900 1 ⟨100, [], []⟩
        (limitsOnly ⟨some 10, none⟩) limitedTenant Redis.empty = some (.ok (row, after), redis) ∧
      (after.tenants.find 1).map Tenant.settings = some (some settings) ∧
      ¬DeepMerged ⟨none, none, none, none, some ⟨some 10, none⟩, none, none⟩
        { TenantSettings.defaults with scanLimits := ⟨20, 4⟩ } settings := by
  refine ⟨_, _, _, { TenantSettings.defaults with scanLimits := ⟨10, 1⟩ }, rfl, rfl, ?_⟩
  intro deep
  have concurrent : (1 : ℕ+) = 4 := deep.concurrentMax
  exact absurd concurrent (by decide)

end

end

end Tenants

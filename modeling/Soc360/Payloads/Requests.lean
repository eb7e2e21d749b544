import Soc360.Assets.Service
import Soc360.Payloads.Loaded
import Soc360.Reports.Service
import Soc360.Tenants.Service
import Soc360.Text.Python
import Soc360.Users.Emails
import Soc360.Vulnerabilities.Service

set_option autoImplicit false

/-! The bodies of seven routes, from their schemas through their services to the flush. -/

namespace Payloads

open Assets (AssetTable AssetType AssetUpdate)
open Reports (GivenTime ReportId ReportStatus ReportTable ReportUpdate)
open Scans (AssetId JsonObject Scan ScanId ScanUpdate Timestamp configJson validateScanConfig)
open Tenants (Plan SettingsUpdate Tenant TenantSettings TenantUpdate)
open Users (HttpError User UserId UserTable UserUpdate internalError)
open Users.Emails (Context normalise)
open Vulnerabilities (VulnerabilityId VulnerabilityStatus VulnerabilityTable VulnerabilityUpdate)

abbrev TenantId := Nat

/-- How a request fails: with a status that its router gives, or with an error that no handler
knows. -/
inductive Failure where
  | refused (statusCode : Nat)
  | crashed
  deriving DecidableEq, Repr

/-- A status 4xx. -/
def Failure.Handled : Failure → Prop
  | refused statusCode => 400 ≤ statusCode ∧ statusCode < 500
  | crashed => False

/-- A reply gives nothing where the row is missing. -/
abbrev Reply := Except Failure

def unprocessable : Failure := .refused 422

def ofHttp (error : HttpError) : Failure :=
  if error = internalError then .crashed else .refused error.statusCode

def ofUsers : Users.Emails.Raised → Failure
  | .userError statusCode _ => .refused statusCode
  | .attributeError => .crashed
  | .database _ => .crashed
  | .serviceUnavailable => .refused 503

def ofAssets : Assets.ServiceError → Failure
  | .invalidValue _ => .refused 422
  | .duplicate _ => .refused 409
  | .internal => .crashed

def ofScans : Scans.ServiceError → Failure
  | .config _ => .refused 422
  | .duplicate _ => .refused 409
  | .assetNotFound => .refused 404
  | .notCancellable => .refused 409
  | .notDispatchable => .refused 409
  | .quotaExceeded => .refused 429
  | .integrity => .crashed

/-- Library functions, and what `timestamptz` of the driver encodes. `strip` lengthens no text. -/
structure Library where
  users : Users.Texts
  dbLower : String → String
  tenants : Tenants.Texts
  assets : Assets.Texts
  nfkd : String → String
  timestamptz : GivenTime → Bool
  lawful : Users.Emails.Lawful users dbLower
  shorter (text : String) : (users.strip text).length ≤ text.length

/-- The stored rows, within their columns and constraints, and the clock. -/
structure State where
  users : UserTable
  tenants : Table TenantId Tenant
  slugs : List String
  assets : AssetTable
  scans : Table ScanId Scan
  vulnerabilities : VulnerabilityTable
  reports : ReportTable
  now : Timestamp
  userStored {id : UserId} {row : User} :
    users.slot id = .live row → row.fits = true ∧ row.checked = true
  userUnique {id other : UserId} {row twin : User} : users.slot id = .live row →
    users.slot other = .live twin → row.email = twin.email → id = other
  slugStored {slug : String} : slug ∈ slugs → slug.length ≤ 100
  assetStored {id : AssetId} {row : Assets.Asset} :
    assets.find id = some row → row.value.length ≤ 255 ∧ row.value.storable = true

/-! Schemas. -/

/-- `StringConstraints(strip_whitespace=True, min_length=1, max_length=255)`. -/
def constrained (text : String) : Except Failure String :=
  let stripped := Scans.stripWhitespace text
  if 1 ≤ stripped.length ∧ stripped.length ≤ 255 then .ok stripped else .error unprocessable

/-- A field that is absent or null meets the constraints of its values. -/
def onValue {Value : Type} (validate : Value → Except Failure Value) :
    Option (Option Value) → Except Failure (Option (Option Value))
  | some (some value) => (validate value).map fun value => some (some value)
  | field => .ok field

/-- `AssetUpdate`. -/
def validateAsset (body : AssetUpdate) : Except Failure AssetUpdate := do
  let value ← onValue constrained body.value
  return { body with value := value }

section

variable {Object : Type}

/-- `ScanUpdate`. -/
def validateScan (body : ScanUpdate Object) : Except Failure (ScanUpdate Object) := do
  let name ← onValue constrained body.name
  return { body with name := name }

/-- A body of `VulnerabilityUpdate`: a field is absent, null or a value. -/
structure VulnerabilityBody (Object : Type := JsonObject) where
  status : Option (Option VulnerabilityStatus)
  description : Option (Option String)
  cvssScore : Option (Option ℚ)
  vulnerabilityMetadata : Option (Option Object)

/-- `VulnerabilityUpdate`, with `reject_null_status`. -/
def VulnerabilityBody.validate (body : VulnerabilityBody Object) :
    Except Failure (VulnerabilityUpdate Object) := do
  Except.refuse (body.status == some none) unprocessable
  Except.refuse (body.cvssScore.join.any fun score => decide (score < 0 ∨ 10 < score))
    unprocessable
  return ⟨body.status.join, body.description, body.cvssScore, body.vulnerabilityMetadata⟩

structure ReportBody (Object : Type := JsonObject) where
  name : Option (Option String)
  status : Option (Option ReportStatus)
  summary : Option (Option String)
  reportMetadata : Option (Option Object)
  generatedAt : Option (Option GivenTime)

/-- `ReportUpdate`, with `reject_null`. -/
def ReportBody.validate (body : ReportBody Object) : Except Failure (ReportUpdate Object) := do
  let name ← onValue constrained body.name
  Except.refuse (name == some none) unprocessable
  Except.refuse (body.status == some none) unprocessable
  return ⟨name.join, body.status.join, body.summary, body.reportMetadata, body.generatedAt⟩

end

/-- The JSON that a `dict` field is given, unless it is given something else. -/
def jsonField? : Option (Option LoadedObject) → Option (Option (Option JsonObject))
  | none => some none
  | some none => some (some none)
  | some (some object) => (Loaded.object? object).map fun fields => some (some fields)

/-- A `jsonb` column takes what the field is given. -/
def storableField (field : Option (Option LoadedObject)) : Bool :=
  (jsonField? field).any fun given => (configJson given.join).storable

def jsonScan? (data : ScanUpdate LoadedObject) : Option ScanUpdate :=
  (jsonField? data.config).map fun config => ⟨data.name, data.type, config⟩

def jsonVulnerability? (data : VulnerabilityUpdate LoadedObject) : Option VulnerabilityUpdate :=
  (jsonField? data.vulnerabilityMetadata).map fun metadata =>
    ⟨data.status, data.description, data.cvssScore, metadata⟩

def jsonReport? (data : ReportUpdate LoadedObject) : Option ReportUpdate :=
  (jsonField? data.reportMetadata).map fun metadata =>
    ⟨data.name, data.status, data.summary, metadata, data.generatedAt⟩

/-- `_validate_scan_config` accepts the config of the body. -/
def acceptsGiven (data : ScanUpdate LoadedObject) (scan : Scan) : Bool :=
  (data.type.getD (some scan.scanType)).any fun kind => data.config.join.any (acceptsConfig kind)

/-- A field of a body as the schema reads its type. -/
inductive Sent (Value : Type) where
  | unset
  | null
  | illTyped
  | value (value : Value)
  deriving DecidableEq, Repr

/-- A body of `TenantCreate`. `extra` tells whether it has keys that the schema does not know. -/
structure TenantCreateBody where
  name : Sent String
  slug : Sent String
  plan : Sent Plan
  maxAssets : Sent Int
  settings : Sent SettingsUpdate
  extra : Bool

structure TenantCreate where
  name : String
  slug : Option String
  plan : Plan
  maxAssets : Int
  settings : TenantSettings
  deriving DecidableEq, Repr

/-- The value of a field, its default where it is unset, or nothing where it is invalid. -/
def Sent.read {Value Read : Type} (sent : Sent Value) (default_ : Option Read)
    (validate : Value → Option Read) : Option Read :=
  match sent with
  | unset => default_
  | value given => validate given
  | _ => none

def slugRe : String := "^[a-z0-9]+(?:-[a-z0-9]+)*$"

section

variable (library : Library)

/-- The `strip` of a name, unless it is blank. -/
def stripName (name : String) : Option String :=
  if library.tenants.strip name = "" then none else some (library.tenants.strip name)

/-- `slug_must_be_valid`. -/
def validateSlug (slug : String) : Option (Option String) :=
  if library.assets.reMatch slugRe slug = true ∧ 3 ≤ slug.length ∧ slug.length ≤ 100 then
    some (some slug)
  else none

/-- The fields of a body, if all are valid. -/
def TenantCreateBody.fields (body : TenantCreateBody) : Option TenantCreate := do
  let name ← body.name.read none (stripName library)
  let slug ← body.slug.read (some none) (validateSlug library)
  let plan ← body.plan.read (some .free) some
  let maxAssets ← body.maxAssets.read (some 10) fun given => if given < 1 then none else some given
  let settings ← body.settings.read (some .defaults) fun given => some (given.merge .defaults)
  if body.extra then none else some ⟨name, slug, plan, maxAssets, settings⟩

/-- `TenantCreate`. Invalid fields are collected, but a `TypeError` of a validator is not. -/
def TenantCreateBody.validate (body : TenantCreateBody) : Except Failure TenantCreate :=
  -- `re.match` does not take None
  if body.slug = .null then .error .crashed
  else (body.fields library).elim (.error unprocessable) .ok

/-- `TenantUpdate`. -/
def validateTenant (body : TenantUpdate) : Except Failure TenantUpdate := do
  Except.refuse (body.maxAssets.get?.any (· < 1)) unprocessable
  match body.name with
  | .value name =>
      match stripName library name with
      | none => .error unprocessable
      | some name => return { body with name := .value name }
  | _ => return body

end

/-! Services. -/

section

variable (library : Library) (state : State)

/-- `update_user` on the row that `get_user_for_admin` reads, Redis serving. -/
def updateUser (context : Context) (currentUser : User) (userId : UserId) (body : UserUpdate) :
    Reply (Option User) := do
  let data ← (body.validate library.users).mapError ofHttp
  match (state.users.find userId).filter context.sees with
  | none => return none
  | some target => do
      let mayUpdate := currentUser.isSuperadmin || target.tenantId == currentUser.tenantId
      -- the query of `_is_email_taken`
      Except.refuse (mayUpdate && data.email.get?.any fun email =>
        !(normalise library.users email).storable) .crashed
      let user ← (Users.Emails.updateUser library.users library.dbLower context state.users
        currentUser userId target data true).mapError ofUsers
      Except.refuse (data.fullName.get?.isSome && !user.fullName.storable) .crashed
      return some user

/-- `update_tenant`, the revocations of a deactivation going well. -/
def updateTenant (tenantId : TenantId) (body : TenantUpdate) : Reply (Option Tenant) := do
  let data ← validateTenant library body
  match state.tenants.find tenantId with
  | none => .error (.refused 404)
  | some tenant => return some (← (data.assign library.tenants tenant).mapError ofHttp)

/-- `_generate_slug`. -/
def generateSlug (name : String) : Except Failure String :=
  let slug := (library.nfkd name).toList.filter fun char => char.toNat < 128
  let slug := Python.strip (slug.map Char.toLower)
  let slug := slug.filter fun char =>
    Python.isAlnum char || char == '_' || Python.isSpace char || char == '-'
  let slug := Python.sub (Python.runOf (fun char => Python.isSpace char || char == '_') 1)
    (fun _ => ['-']) slug
  let slug := Python.sub (Python.runOf (· == '-') 1) (fun _ => ['-']) slug
  let slug := (slug.dropWhile (· == '-')).rdropWhile (· == '-')
  if slug = [] then .error (.refused 400) else .ok (String.ofList (slug.take 100))

def maxSlugAttempts : Nat := 100

def suffixed (baseSlug : String) (suffix : Nat) : String := baseSlug ++ "-" ++ toString suffix

/-- The loop of `create_tenant`, with the slugs that it looks up. -/
def searchSlug (slugs : List String) (baseSlug slug : String) (suffix : Nat) :
    Except Failure String × List String :=
  if slug ∈ slugs then
    if maxSlugAttempts < suffix then (.error (.refused 409), [slug])
    else
      let (result, looked) := searchSlug slugs baseSlug (suffixed baseSlug suffix) (suffix + 1)
      (result, slug :: looked)
  else (.ok slug, [slug])
termination_by maxSlugAttempts + 1 - suffix

def TenantCreate.chooseSlug (data : TenantCreate) : Except Failure String :=
  match data.slug with
  | some slug => do
      Except.refuse (decide (slug ∈ state.slugs)) (.refused 409)
      return slug
  | none => do
      let baseSlug ← generateSlug library data.name
      (searchSlug state.slugs baseSlug baseSlug 2).1

/-- The row of a new tenant, with its slug. -/
structure NewTenant extends Tenant where
  slug : String
  deriving DecidableEq

/-- `create_tenant`. -/
def createTenant (body : TenantCreateBody) : Reply (Option NewTenant) := do
  let data ← body.validate library
  let slug ← data.chooseSlug library state
  let maxAssets ← (Tenants.planToMaxAssets library.tenants data.plan.text).mapError ofHttp
  -- the INSERT
  Except.refuse (!data.name.storable || decide (255 < data.name.length)) .crashed
  Except.refuse (decide (100 < slug.length)) .crashed
  Except.refuse (!data.settings.storable) .crashed
  return some ⟨⟨data.name, data.plan.text, maxAssets, true, some data.settings⟩, slug⟩

/-- `update_asset`. -/
def updateAsset (assetId : AssetId) (tenantId : Option TenantId) (body : AssetUpdate) :
    Reply (Option Assets.Asset) := do
  let data ← validateAsset body
  let updated ← (Assets.updateAsset library.assets state.now assetId tenantId data
    state.assets).mapError ofAssets
  Except.refuse (updated.any fun written => data.value.isSome && !written.1.value.storable)
    .crashed
  return updated.map Prod.fst

/-- Whether the UPDATE of a scan carries a text with a NUL. -/
def writesNul (data : ScanUpdate) (scan : Scan) : Bool :=
  match validateScanConfig (data.candidate scan).type (configJson (data.candidate scan).config) with
  | .error _ => false
  | .ok normalised => data.name.join.any (!·.storable) ||
      data.config.isSome && !(Scans.Json.obj normalised).storable

/-- `update_scan`. What is not JSON differs from all that is stored, so that it is assigned, and
the flush fails. -/
def updateScan (scanId : ScanId) (tenantId : Option TenantId) (body : ScanUpdate LoadedObject) :
    Reply (Option (List String)) := do
  let data ← validateScan body
  match Scans.getScan scanId tenantId state.scans with
  | none => return none
  | some scan =>
      match jsonScan? data with
      | none => if acceptsGiven data scan then .error .crashed else .error unprocessable
      | some data => do
          Except.refuse (writesNul data scan) .crashed
          (Scans.updateScan scanId tenantId data (Session.start state.scans)).1.mapError ofScans

/-- `update_vulnerability`. -/
def updateVulnerability (vulnerabilityId : VulnerabilityId) (tenantId : Option TenantId)
    (body : VulnerabilityBody LoadedObject) : Reply (Option Vulnerabilities.Vulnerability) := do
  let data ← body.validate
  match Vulnerabilities.getVulnerability vulnerabilityId tenantId state.vulnerabilities with
  | none => return none
  | some row =>
      match jsonVulnerability? data with
      | none => .error .crashed
      | some data => do
          Except.refuse (data.description.join.any (!·.storable)) .crashed
          Except.refuse (!(configJson data.vulnerabilityMetadata.join).storable) .crashed
          return some (data.edit state.now row state.now).1

/-- `update_report`. -/
def updateReport (reportId : ReportId) (tenantId : Option TenantId)
    (body : ReportBody LoadedObject) : Reply (Option Reports.Report) := do
  let data ← body.validate
  match Reports.getReport reportId tenantId state.reports with
  | none => return none
  | some row =>
      match jsonReport? data with
      | none => .error .crashed
      | some data => do
          Except.refuse (data.name.any (!·.storable)) .crashed
          Except.refuse (data.summary.join.any (!·.storable)) .crashed
          Except.refuse (!(configJson data.reportMetadata.join).storable) .crashed
          Except.refuse (data.generatedAt.join.any (!library.timestamptz ·)) .crashed
          return some (data.edit row state.now).1

end

/-- A request to one of the seven routes. `tenantId` is absent on the superadmin path. -/
inductive Request where
  | updateUser (context : Context) (currentUser : User) (userId : UserId) (body : UserUpdate)
  | updateTenant (tenantId : TenantId) (body : TenantUpdate)
  | createTenant (body : TenantCreateBody)
  | updateScan (scanId : ScanId) (tenantId : Option TenantId) (body : ScanUpdate LoadedObject)
  | updateAsset (assetId : AssetId) (tenantId : Option TenantId) (body : AssetUpdate)
  | updateVulnerability (vulnerabilityId : VulnerabilityId) (tenantId : Option TenantId)
      (body : VulnerabilityBody LoadedObject)
  | updateReport (reportId : ReportId) (tenantId : Option TenantId)
      (body : ReportBody LoadedObject)

/-- What the request raises, if anything. -/
def Request.failure? (library : Library) (state : State) : Request → Option Failure
  | updateUser context currentUser userId body =>
      raised? (Payloads.updateUser library state context currentUser userId body)
  | updateTenant tenantId body => raised? (Payloads.updateTenant library state tenantId body)
  | createTenant body => raised? (Payloads.createTenant library state body)
  | updateScan scanId tenantId body => raised? (Payloads.updateScan state scanId tenantId body)
  | updateAsset assetId tenantId body =>
      raised? (Payloads.updateAsset library state assetId tenantId body)
  | updateVulnerability vulnerabilityId tenantId body =>
      raised? (Payloads.updateVulnerability state vulnerabilityId tenantId body)
  | updateReport reportId tenantId body =>
      raised? (Payloads.updateReport library state reportId tenantId body)
where
  raised? {Row : Type} : Reply (Option Row) → Option Failure
    | .error failure => some failure
    | .ok _ => none

/-! A field with a value that a check refuses or accepts. -/

theorem any_get_false {Value : Type} {field : Users.Field Value} {refuses : Value → Bool} :
    field.get?.any refuses = false ↔ ∀ given, field = .value given → refuses given = false := by
  cases field with
  | unset => simp [Users.Field.get?]
  | null => simp [Users.Field.get?]
  | value given => simp [Users.Field.get?]

theorem any_get_true {Value : Type} {field : Users.Field Value} {accepts : Value → Bool} :
    field.get?.any accepts = true ↔ ∃ given, field = .value given ∧ accepts given = true := by
  cases field with
  | unset => simp [Users.Field.get?]
  | null => simp [Users.Field.get?]
  | value given => simp [Users.Field.get?]

end Payloads

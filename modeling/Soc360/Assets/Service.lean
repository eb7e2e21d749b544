import Soc360.Scans.State
import Soc360.Store.Scoped
import Soc360.Store.Checks

set_option autoImplicit false

namespace Assets

open Scans (AssetId TenantId Timestamp)

inductive AssetType where
  | hostname
  | domain
  | ip
  | webApp
  | subnet
  | cloudResource
  deriving DecidableEq, Repr

/-- A row of `assets`. -/
structure Asset where
  tenantId : TenantId
  value : String
  assetType : AssetType
  createdAt : Timestamp
  updatedAt : Timestamp
  deriving DecidableEq, Repr

/-- What the asset service raises. `internal` is any exception that it does not translate. -/
inductive ServiceError where
  | invalidValue (message : String)
  | duplicate (message : String)
  | internal
  deriving DecidableEq, Repr

/-- `AssetUpdate.model_dump(exclude_unset=True)`: a field is absent, null or a value. -/
structure AssetUpdate where
  type : Option (Option AssetType)
  value : Option (Option String)
  deriving DecidableEq, Repr

/-- Library functions: `str(ip_address(·))`, `str(ip_network(·, strict=False))`, the scheme and
the text of an `HttpUrl`, `re.match` of a pattern, and those of `str`. -/
structure Texts where
  ipAddress : String → Option String
  ipNetwork : String → Option String
  httpUrl : String → Option (String × String)
  reMatch : String → String → Bool
  strip : String → String
  rstripDots : String → String
  lower : String → String

def fqdnLabelRe : String := "^[a-zA-Z0-9]([a-zA-Z0-9-]\x7b0,61\x7d[a-zA-Z0-9])?$"

def fqdnFullRe : String :=
  "^(?=.\x7b1,253\x7d$)(?:[a-zA-Z0-9](?:[a-zA-Z0-9-]\x7b0,61\x7d[a-zA-Z0-9])?\\.)+" ++
    "[a-zA-Z]\x7b2,63\x7d$"

def hostnameRe : String :=
  "^(?=.\x7b1,253\x7d$)(?:[a-zA-Z0-9](?:[a-zA-Z0-9-]\x7b0,61\x7d[a-zA-Z0-9])?\\.)*" ++
    "[a-zA-Z0-9](?:[a-zA-Z0-9-]\x7b0,61\x7d[a-zA-Z0-9])?$"

def arnRe : String := "^arn:[^:]+:[^:]+:[^:]*:[^:]*:.+$"

section

variable (texts : Texts)

/-- The branches that call a method of the value, which None does not have. -/
def validateText (message : String) (normalise : String → String) (valid : String → Bool) :
    Option String → Except ServiceError String
  | none => .error .internal
  | some value =>
      if valid (normalise value) then .ok (normalise value) else .error (.invalidValue message)

/-- The branches that hand the value to a parser, which refuses None too. -/
def validateParsed (message : String) (parse : String → Option String) (value : Option String) :
    Except ServiceError String :=
  match value.bind parse with
  | some canonical => .ok canonical
  | none => .error (.invalidValue message)

/-- `_validate_asset_value`. -/
def validateAssetValue : Option AssetType → Option String → Except ServiceError String
  | some .ip, value =>
      validateParsed "value must be a valid IPv4 or IPv6 address" texts.ipAddress value
  | some .domain, value =>
      validateText "value must be a valid FQDN"
        (fun text => texts.lower (texts.rstripDots (texts.strip text)))
        (fun text => text != "" && texts.reMatch fqdnFullRe text &&
          (text.splitOn ".").all (texts.reMatch fqdnLabelRe)) value
  | some .hostname, value =>
      validateText "value must be a valid hostname" (fun text => texts.lower (texts.strip text))
        (fun text => text != "" && texts.reMatch hostnameRe text) value
  | some .webApp, value =>
      validateParsed "value must be a valid http(s) URL"
        (fun text => ((texts.httpUrl text).filter fun parsed =>
          texts.lower parsed.1 ∈ ["http", "https"]).map Prod.snd) value
  | some .subnet, value => validateParsed "value must be a valid CIDR" texts.ipNetwork value
  | some .cloudResource, value =>
      validateText "value must be a valid ARN" texts.strip (texts.reMatch arnRe) value
  | none, _ => .error (.invalidValue "unknown asset type: None")

abbrev AssetTable := Table AssetId Asset

/-- `get_asset`. `tenantId` is absent on the superadmin path. -/
def getAsset (assetId : AssetId) (tenantId : Option TenantId) (table : AssetTable) :
    Option Asset :=
  table.visible Asset.tenantId tenantId assetId

/-- `list_assets`. -/
def listAssets (tenantId : Option TenantId) (limit offset : Nat) (table : AssetTable) :
    List (AssetId × Asset) × Nat :=
  table.listing Asset.tenantId tenantId (fun _ => true) (fun _ asset => asset.createdAt) limit
    offset

/-- `uq_assets_tenant_type_value` over the rows other than `assetId`. -/
def valueTaken (table : AssetTable) (assetId : AssetId) (row : Asset) : Bool :=
  table.keys.any fun key => (table.slot key).satisfies fun other =>
    key != assetId && (other.tenantId == row.tenantId && other.assetType == row.assetType &&
      other.value == row.value)

/-- The type that the row has from here on. -/
def AssetUpdate.newType (data : AssetUpdate) (asset : Asset) : Option AssetType :=
  data.type.getD (some asset.assetType)

def AssetUpdate.newValue (data : AssetUpdate) (asset : Asset) : Except ServiceError String :=
  match data.value with
  | none => .ok asset.value
  | some given => validateAssetValue texts (data.newType asset) given

/-- The attributes of the row and `changed_fields` after the assignments of `update_asset`. -/
def AssetUpdate.edit (data : AssetUpdate) (clock : Timestamp) (asset : Asset) :
    Except ServiceError (Asset × List String) := do
  let value ← data.newValue texts asset
  let canonical ← validateAssetValue texts (data.newType asset) (some value)
  match data.newType asset with
  | none => .error (.invalidValue "unknown asset type: None")
  | some type =>
      let changed := (if type = asset.assetType then [] else ["type"]) ++
        if value = asset.value ∧ canonical = value then [] else ["value"]
      -- without a net change there is no UPDATE, and no `onupdate`
      if type = asset.assetType ∧ canonical = asset.value then return (asset, changed)
      else return ({ asset with assetType := type, value := canonical, updatedAt := clock }, changed)

/-- `update_asset`: the row as it is after the flush, and `changed_fields`. -/
def updateAsset (clock : Timestamp) (assetId : AssetId) (tenantId : Option TenantId)
    (data : AssetUpdate) (table : AssetTable) :
    Except ServiceError (Option (Asset × List String)) :=
  match getAsset assetId tenantId table with
  | none => .ok none
  | some asset => do
      let (row, changed) ← data.edit texts clock asset
      Except.refuse (row != asset && decide (255 < row.value.length)) .internal
      Except.refuse (row != asset && valueTaken table assetId row)
        (.duplicate "update would produce a duplicate (tenant_id, type, value)")
      return some (row, changed)

end

section

variable {texts : Texts} {clock : Timestamp} {assetId : AssetId} {tenantId : TenantId}
  {data : AssetUpdate} {asset row : Asset} {changed : List String} {table other : AssetTable}

theorem AssetUpdate.edit_tenantId (edited : data.edit texts clock asset = .ok (row, changed)) :
    row.tenantId = asset.tenantId := by
  unfold AssetUpdate.edit at edited
  obtain ⟨value, _, edited⟩ := Except.bind_eq_ok.mp edited
  obtain ⟨canonical, _, edited⟩ := Except.bind_eq_ok.mp edited
  split at edited
  next => cases edited
  next type _ =>
    simp only at edited
    split at edited
    next => cases edited; rfl
    next => cases edited; rfl

/-- What an update writes stays with the tenant of the row that it found. -/
theorem updateAsset_own (updated : updateAsset texts clock assetId (some tenantId) data table =
      .ok (some (row, changed))) :
    ∃ before, table.find assetId = some before ∧ before.tenantId = tenantId ∧
      row.tenantId = tenantId := by
  unfold updateAsset at updated
  split at updated
  next => cases updated
  next asset found =>
    obtain ⟨stored, own⟩ := Table.visible_some.mp found
    obtain ⟨⟨row', changed'⟩, edited, updated⟩ := Except.bind_eq_ok.mp updated
    obtain ⟨_, _, updated⟩ := Except.bind_eq_ok.mp updated
    obtain ⟨_, _, updated⟩ := Except.bind_eq_ok.mp updated
    cases updated
    exact ⟨asset, stored, own, (AssetUpdate.edit_tenantId edited).trans own⟩

theorem updateAsset_agree (agree : Table.Agree Asset.tenantId tenantId table other)
    (listed : table.Listed) (listed' : other.Listed) :
    updateAsset texts clock assetId (some tenantId) data table =
      updateAsset texts clock assetId (some tenantId) data other := by
  unfold updateAsset getAsset
  rw [agree.visible assetId]
  cases found : Table.visible Asset.tenantId (some tenantId) other assetId with
  | none => rfl
  | some asset =>
      have own := (Table.visible_some.mp found).2
      cases edited : data.edit texts clock asset with
      | error reason => simp only [edited]; rfl
      | ok result =>
          obtain ⟨row, changed⟩ := result
          have owner : row.tenantId = tenantId := (AssetUpdate.edit_tenantId edited).trans own
          have taken : valueTaken table assetId row = valueTaken other assetId row := by
            refine agree.any listed listed' ?_
            intro key stored matched
            simp only [Bool.and_eq_true, beq_iff_eq] at matched
            exact matched.2.1.1.trans owner
          simp only
          rw [Except.bind_of_ok edited, Except.bind_of_ok edited]
          simp only [taken]

end

end Assets

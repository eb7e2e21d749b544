import Soc360.Reports.Service
import Soc360.Scans.Schemas
import Soc360.Text.JavaScript
import Soc360.Vulnerabilities.Service

set_option autoImplicit false

/-! The edit forms: the state built from a response, its check, the body of the `PATCH`, and what
the service makes of that body. -/

namespace Frontend

namespace Forms

open JavaScript (numberText trim)
open Reports (Report ReportStatus ReportType ReportUpdate)
open Scans (AssetId Json JsonObject Scan ScanId ScanType ScanUpdate TenantId Timestamp)
open Vulnerabilities (Vulnerability VulnerabilityId VulnerabilitySeverity VulnerabilityUpdate)

mutual

/-- `String(value)`, with the empty text that `join` writes for a null. -/
def elementText : Json → String
  | .null => ""
  | .bool value => if value then "true" else "false"
  | .int value => decimalText value
  | .float value => decimalText value
  | .str value => value
  | .arr items => ",".intercalate (elementTexts items)
  | .obj _ => "[object Object]"

def elementTexts : List Json → List String
  | [] => []
  | item :: items => elementText item :: elementTexts items

/-- A number of the response is read as the nearest double. -/
def decimalText (value : ℚ) : String :=
  match Doubles.nearest value with
  | some double => numberText double
  | none => if value < 0 then "-Infinity" else "Infinity"

end

/-- `joinList`. -/
def joinList : Option Json → String
  | some (.arr items) => ", ".intercalate (elementTexts items)
  | _ => ""

/-- `splitList`. -/
def splitList (value : String) : List String :=
  (((value.toList.splitOn ',').map fun item => trim (String.ofList item)).filter (· != "")).eraseDups

/-- The errors of a form: the field and the text. -/
abbrev Errors := List (String × String)

def Errors.when (condition : Bool) (field message : String) : Errors :=
  if condition then [(field, message)] else []

/-- The two checks of a name. -/
def nameErrors (field name missing tooLong : String) : Errors :=
  if trim name = "" then [(field, missing)]
  else Errors.when (decide (255 < JavaScript.length (trim name))) field tooLong

/-- `ScanFormState`. No asset is the empty text. -/
structure ScanFormState where
  name : String
  type : ScanType
  assetId : Option AssetId
  hostDiscovery : Bool
  checks : String
  paths : String

/-- `text || fallback`. -/
def orDefault (text fallback : String) : String := if text = "" then fallback else text

def defaultChecks : String := "tls, headers"
def defaultPaths : String := "/"

def formFromScan (scan : Scan) : ScanFormState :=
  let config := scan.config.getD []
  { name := scan.name
    type := scan.scanType
    assetId := some scan.assetId
    hostDiscovery := match config.lookup "host_discovery" with
      | none => true
      | some (.bool value) => value
      | some _ => false
    checks := orDefault (joinList (config.lookup "checks")) defaultChecks
    paths := orDefault (joinList (config.lookup "paths")) defaultPaths }

def needsChecks (type : ScanType) : Bool := type == .vulnerability || type == .full
def needsPaths (type : ScanType) : Bool := type == .web || type == .full
def needsHostDiscovery (type : ScanType) : Bool := type == .discovery || type == .full

def validateScanForm (state : ScanFormState) : Errors :=
  nameErrors "name" state.name "Introduce un nombre."
      "El nombre no puede superar 255 caracteres." ++
    Errors.when state.assetId.isNone "assetId" "Selecciona un activo." ++
    Errors.when (needsChecks state.type && (splitList state.checks).isEmpty) "checks"
      "Añade al menos una comprobación." ++
    Errors.when (needsPaths state.type && (splitList state.paths).isEmpty) "paths"
      "Añade al menos una ruta."

def textArray (texts : List String) : Json := .arr (texts.map .str)

def configFor (state : ScanFormState) : JsonObject :=
  (if needsHostDiscovery state.type then [("host_discovery", .bool state.hostDiscovery)] else []) ++
    (if needsChecks state.type then [("checks", textArray (splitList state.checks))] else []) ++
    if needsPaths state.type then [("paths", textArray (splitList state.paths))] else []

structure ScanUpdateInput where
  name : String
  type : ScanType
  config : JsonObject

def toScanUpdateInput (state : ScanFormState) : ScanUpdateInput :=
  ⟨trim state.name, state.type, configFor state⟩

/-- `strip_whitespace` with `min_length=1` and `max_length=255`. -/
def strippedName (name : String) : Option String :=
  let stripped := Scans.stripWhitespace name
  if stripped.length < 1 || 255 < stripped.length then none else some stripped

/-- The `PATCH` of a scan: the schema, then `update_scan`. -/
def patchScan (scanId : ScanId) (tenantId : Option TenantId) (input : ScanUpdateInput)
    (table : Table ScanId Scan) : Table ScanId Scan :=
  match strippedName input.name with
  | none => table
  | some name => (Scans.updateScan scanId tenantId
      ⟨some (some name), some (some input.type), some (some input.config)⟩
      (Session.start table)).2.committed

structure VulnerabilityFormState where
  scanId : Option ScanId
  title : String
  severity : VulnerabilitySeverity
  cveId : String
  cvssScore : String
  description : String

/-- `float(vulnerability.cvss_score)`. -/
def scoreOf (tenths : Int) : ℚ := (Doubles.nearest ((tenths : ℚ) / 10)).getD 0

def formFromVulnerability (vulnerability : Vulnerability) : VulnerabilityFormState where
  scanId := some vulnerability.scanId
  title := vulnerability.title
  severity := vulnerability.severity
  cveId := vulnerability.cveId.getD ""
  cvssScore := (vulnerability.cvssScore.map fun tenths => numberText (scoreOf tenths)).getD ""
  description := vulnerability.description.getD ""

/-- `parseCvssScore`; nothing is `"invalid"`. -/
def parseCvssScore (raw : String) : Option (Option ℚ) :=
  let value := trim raw
  if value = "" then some none
  else
    match JavaScript.number (JavaScript.replaceComma value) with
    | none => none
    | some score =>
        if score < 0 || 10 < score then none
        else
          let tenths := (Doubles.nearest (score * 10)).map JavaScript.round
          some (tenths.bind fun tenths => Doubles.nearest ((tenths : ℚ) / 10))

/-- `/^CVE-\d{4}-\d{4,}$/i`. -/
def isCve (text : String) : Bool :=
  match text.toList with
  | c :: v :: e :: '-' :: rest =>
      [c.toUpper, v.toUpper, e.toUpper] == ['C', 'V', 'E'] &&
        (rest.take 4).length == 4 && (rest.take 4).all Char.isDigit &&
        (rest.drop 4).head? == some '-' && 4 ≤ (rest.drop 5).length &&
        (rest.drop 5).all Char.isDigit
  | _ => false

def validateVulnerabilityForm (state : VulnerabilityFormState) : Errors :=
  nameErrors "title" state.title "Introduce un título."
      "El título no puede superar 255 caracteres." ++
    Errors.when state.scanId.isNone "scanId" "Selecciona el escaneo que lo encontró." ++
    Errors.when (trim state.cveId != "" && !isCve (trim state.cveId)) "cveId"
      "Formato esperado: CVE-2026-12345." ++
    Errors.when (parseCvssScore state.cvssScore).isNone "cvssScore"
      "La puntuación CVSS va de 0 a 10."

structure VulnerabilityUpdateInput where
  cvssScore : Option ℚ
  description : Option String

/-- A text that is null where nothing is left of it. -/
def textOrNull (text : String) : Option String :=
  let trimmed := trim text
  if trimmed = "" then none else some trimmed

def toVulnerabilityUpdateInput (state : VulnerabilityFormState) : VulnerabilityUpdateInput where
  cvssScore := (parseCvssScore state.cvssScore).getD none
  description := textOrNull state.description

/-- The `PATCH` of a vulnerability. The schema refuses scores out of 0 to 10; `Decimal(str(score))`
is what `quantize` reads. -/
def patchVulnerability (now clock : Timestamp) (input : VulnerabilityUpdateInput)
    (row : Vulnerability) : Vulnerability :=
  if input.cvssScore.any fun score => score < 0 || 10 < score then row
  else
    ((⟨none, some input.description, some (input.cvssScore.map Doubles.decimal), none⟩ :
      VulnerabilityUpdate).edit now row clock).1

structure ReportFormState where
  name : String
  assetId : Option AssetId
  reportType : ReportType
  status : ReportStatus
  summary : String

def formFromReport (report : Report) : ReportFormState where
  name := report.name
  assetId := some report.assetId
  reportType := report.reportType
  status := report.status
  summary := report.summary.getD ""

def validateReportForm (state : ReportFormState) : Errors :=
  nameErrors "name" state.name "Introduce un nombre."
      "El nombre no puede superar 255 caracteres." ++
    Errors.when state.assetId.isNone "assetId" "Selecciona el activo del informe."

structure ReportUpdateInput where
  name : String
  status : ReportStatus
  summary : Option String

def toReportUpdateInput (state : ReportFormState) : ReportUpdateInput where
  name := trim state.name
  status := state.status
  summary := textOrNull state.summary

/-- The `PATCH` of a report. -/
def patchReport (clock : Timestamp) (input : ReportUpdateInput) (row : Report) : Report :=
  match strippedName input.name with
  | none => row
  | some name =>
      ((⟨some name, some input.status, some input.summary, none, none⟩ : ReportUpdate).edit row
        clock).1

end Forms

end Frontend

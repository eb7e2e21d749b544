import Soc360.Store.Checks
import Soc360.Store.Groups
import Soc360.Tenancy.NonInterference
import Soc360.Text.Doubles

set_option autoImplicit false

namespace Dashboard

open Assets (Asset)
open Scans (AssetId Scan ScanId TenantId Timestamp)
open Tenancy (Agrees Database)
open Vulnerabilities (Vulnerability VulnerabilityId VulnerabilitySeverity)

inductive AssetStatus where
  | active
  | inactive
  | archived
  deriving DecidableEq, Repr

/-- The rows that one statement sees, with the `status` of the assets. -/
structure Snapshot extends Database where
  assetStatus : AssetId → AssetStatus

def microsecondsPerHour : Nat := 3600000000

def microsecondsPerDay : Nat := 24 * microsecondsPerHour

/-- The calendar day in UTC, counted from the epoch. -/
def utcDate (moment : Timestamp) : Int := (moment / microsecondsPerDay : Nat)

/-- `datetime.combine(day, time.min, tzinfo=timezone.utc)`. -/
def midnight (day : Int) : Int := day * microsecondsPerDay

structure SeverityCounts where
  critical : Nat
  high : Nat
  medium : Nat
  low : Nat
  info : Nat
  deriving DecidableEq, Repr

structure CoverageMetric where
  covered : Nat
  total : Nat
  ratio : Option ℚ
  since : Int
  deriving DecidableEq, Repr

structure TrendDay where
  day : Int
  opened : Nat
  closed : Nat
  deriving DecidableEq, Repr

structure ScanSuccessMetric where
  completed : Nat
  failed : Nat
  ratio : Option ℚ
  since : Int
  deriving DecidableEq, Repr

structure DashboardSummary where
  tenantId : TenantId
  generatedAt : Timestamp
  assetsMonitored : Nat
  openBySeverity : SeverityCounts
  coverage24h : CoverageMetric
  trend30d : List TrendDay
  scanSuccess30d : ScanSuccessMetric
  deriving DecidableEq, Repr

/-- What the aggregation can raise: the `OverflowError` of a quotient, or the `ValidationError` of a
ratio that `ge=0, le=1` refuses. -/
inductive SummaryError where
  | overflow
  | ratio (value : ℚ)
  deriving DecidableEq, Repr

/-- `round(x, 4)` of a double. -/
def roundFour (x : ℚ) : Option ℚ := Doubles.nearest (Doubles.roundHalfEven (x * 10000) / 10000)

/-- `_ratio`. -/
def ratio (numerator denominator : Nat) : Except SummaryError (Option ℚ) :=
  if denominator = 0 then .ok none
  else
    match (Doubles.nearest ((numerator : ℚ) / denominator)).bind roundFour with
    | none => .error .overflow
    | some value => .ok (some value)

/-- `Field(ge=0, le=1)`. -/
def checkRatio (ratio : Option ℚ) : Except SummaryError (Option ℚ) :=
  match ratio with
  | some value => if 0 ≤ value ∧ value ≤ 1 then .ok ratio else .error (.ratio value)
  | none => .ok none

namespace Snapshot

variable (snapshot : Snapshot) (tenantId : TenantId)

/-- The `EXISTS` of a completed scan of an asset. -/
def recentlyScanned (since : Int) (assetId : AssetId) : Bool :=
  !(snapshot.scans.rows fun _ scan =>
    scan.tenantId == tenantId && scan.assetId == assetId && scan.status == .completed &&
      scan.completedAt.any fun (moment : Timestamp) => decide (since ≤ moment)).isEmpty

def monitored : List (AssetId × Asset) :=
  snapshot.assets.rows fun assetId asset =>
    asset.tenantId == tenantId && snapshot.assetStatus assetId == .active

/-- `assets_monitored, covered`. -/
def coverage (since : Int) : Nat × Nat :=
  ((snapshot.monitored tenantId).length,
    (snapshot.monitored tenantId).countP fun entry =>
      snapshot.recentlyScanned tenantId since entry.1)

def openFindings : List (VulnerabilityId × Vulnerability) :=
  snapshot.vulnerabilities.rows fun _ row => row.tenantId == tenantId && row.status == .opened

def severityCounts : List (VulnerabilitySeverity × Nat) :=
  Groups.counts (fun entry => entry.2.severity) (snapshot.openFindings tenantId)

def openedSince (start : Int) : List (VulnerabilityId × Vulnerability) :=
  snapshot.vulnerabilities.rows fun _ row =>
    row.tenantId == tenantId && decide (start ≤ row.createdAt)

def openedCounts (start : Int) : List (Int × Nat) :=
  Groups.counts (fun entry => utcDate entry.2.createdAt) (snapshot.openedSince tenantId start)

/-- A finding whose `closed_at` is null is in no window. -/
def closedSince (start : Int) : List (VulnerabilityId × Vulnerability) :=
  snapshot.vulnerabilities.rows fun _ row =>
    row.tenantId == tenantId && row.closedAt.any fun (moment : Timestamp) => decide (start ≤ moment)

def closedCounts (start : Int) : List (Option Int × Nat) :=
  Groups.counts (fun entry => entry.2.closedAt.map utcDate) (snapshot.closedSince tenantId start)

def finished (since : Int) : List (ScanId × Scan) :=
  snapshot.scans.rows fun _ scan =>
    scan.tenantId == tenantId &&
      (scan.completedAt.any fun (moment : Timestamp) => decide (since ≤ moment)) &&
      (scan.status == .completed || scan.status == .failed)

def scanCounts (since : Int) : List (Scans.ScanStatus × Nat) :=
  Groups.counts (fun entry => entry.2.status) (snapshot.finished tenantId since)

end Snapshot

/-- What the statements of one aggregation see. Under READ COMMITTED each sees what was committed
when it began. -/
structure Reads where
  coverage : Snapshot
  severities : Snapshot
  opened : Snapshot
  closed : Snapshot
  scans : Snapshot

/-- `today - timedelta(days=29)`. -/
def startDay (now : Timestamp) : Int := utcDate now - 29

/-- `now - timedelta(hours=24)`. -/
def since24h (now : Timestamp) : Int := now - 24 * microsecondsPerHour

/-- `now - timedelta(days=30)`. -/
def since30d (now : Timestamp) : Int := now - 30 * microsecondsPerDay

/-- `SeverityCounts(**severity_counts)`. -/
def severityCounts (groups : List (VulnerabilitySeverity × Nat)) : SeverityCounts where
  critical := Groups.get groups .critical
  high := Groups.get groups .high
  medium := Groups.get groups .medium
  low := Groups.get groups .low
  info := Groups.get groups .info

def trend (now : Timestamp) (opened : List (Int × Nat)) (closed : List (Option Int × Nat)) :
    List TrendDay :=
  (List.range 30).map fun (offset : Nat) =>
    ⟨startDay now + offset, Groups.get opened (startDay now + offset),
      Groups.get closed (some (startDay now + offset))⟩

/-- `get_dashboard_summary`, where `now` is the time of the transaction. -/
def getDashboardSummary (tenantId : TenantId) (now : Timestamp) (reads : Reads) :
    Except SummaryError DashboardSummary := do
  let windowStart := midnight (startDay now)
  let (assetsMonitored, covered) := reads.coverage.coverage tenantId (since24h now)
  let scanCounts := reads.scans.scanCounts tenantId (since30d now)
  let completed := Groups.get scanCounts .completed
  let failed := Groups.get scanCounts .failed
  let coverageRatio ← checkRatio (← ratio covered assetsMonitored)
  let successRatio ← checkRatio (← ratio completed (completed + failed))
  return {
    tenantId
    generatedAt := now
    assetsMonitored
    openBySeverity := severityCounts (reads.severities.severityCounts tenantId)
    coverage24h := ⟨covered, assetsMonitored, coverageRatio, since24h now⟩
    trend30d := trend now (reads.opened.openedCounts tenantId windowStart)
      (reads.closed.closedCounts tenantId windowStart)
    scanSuccess30d := ⟨completed, failed, successRatio, since30d now⟩ }

/-- A day of the trend. -/
def InWindow (now moment : Timestamp) : Prop :=
  startDay now ≤ utcDate moment ∧ utcDate moment ≤ utcDate now

instance (now moment : Timestamp) : Decidable (InWindow now moment) :=
  inferInstanceAs (Decidable (_ ∧ _))

/-- What the metrics of a summary count. -/
structure Accounts (tenantId : TenantId) (now : Timestamp) (reads : Reads)
    (summary : DashboardSummary) : Prop where
  tenant : summary.tenantId = tenantId
  generated : summary.generatedAt = now
  total : summary.coverage24h.total = summary.assetsMonitored
  covered : summary.coverage24h.covered ≤ summary.coverage24h.total
  coverageRatio : summary.coverage24h.ratio = none ↔ summary.coverage24h.total = 0
  successRatio : summary.scanSuccess30d.ratio = none ↔
    summary.scanSuccess30d.completed + summary.scanSuccess30d.failed = 0
  ratios : ∀ value, summary.coverage24h.ratio = some value ∨
    summary.scanSuccess30d.ratio = some value → 0 ≤ value ∧ value ≤ 1
  severities : summary.openBySeverity.critical + summary.openBySeverity.high +
      summary.openBySeverity.medium + summary.openBySeverity.low + summary.openBySeverity.info =
    reads.severities.vulnerabilities.count fun row =>
      row.tenantId == tenantId && row.status == .opened
  days : summary.trend30d.map TrendDay.day =
    (List.range 30).map fun (offset : Nat) => startDay now + offset
  opened : (summary.trend30d.map TrendDay.opened).sum =
    reads.opened.vulnerabilities.count fun row =>
      row.tenantId == tenantId && decide (InWindow now row.createdAt)
  closed : (summary.trend30d.map TrendDay.closed).sum =
    reads.closed.vulnerabilities.count fun row =>
      row.tenantId == tenantId && row.closedAt.any fun moment => decide (InWindow now moment)

/-- Two statements that see the same rows of one tenant. -/
structure Snapshot.Agrees (tenantId : TenantId) (first second : Snapshot) : Prop where
  database : Tenancy.Agrees tenantId first.toDatabase second.toDatabase
  statuses : ∀ assetId asset, first.assets.find assetId = some asset → asset.tenantId = tenantId →
    first.assetStatus assetId = second.assetStatus assetId

structure Reads.Agrees (tenantId : TenantId) (first second : Reads) : Prop where
  coverage : first.coverage.Agrees tenantId second.coverage
  severities : first.severities.Agrees tenantId second.severities
  opened : first.opened.Agrees tenantId second.opened
  closed : first.closed.Agrees tenantId second.closed
  scans : first.scans.Agrees tenantId second.scans

section

variable {tenantId : TenantId} {now moment : Timestamp} {numerator denominator : Nat}

/-- The quotient of a part by the whole is a ratio that the schema takes. -/
theorem ratio_accepted (part : numerator ≤ denominator) :
    ∃ value, ratio numerator denominator = .ok value ∧ checkRatio value = .ok value ∧
      (value = none ↔ denominator = 0) ∧ ∀ given ∈ value, 0 ≤ given ∧ given ≤ 1 := by
  rw [ratio]
  by_cases zero : denominator = 0
  · exact ⟨none, if_pos zero, rfl, by simp [zero], by simp⟩
  have whole : (0 : ℚ) < denominator := by exact_mod_cast Nat.pos_of_ne_zero zero
  have quotient : (numerator : ℚ) / denominator ≤ 1 :=
    (div_le_one whole).mpr (by exact_mod_cast part)
  obtain ⟨double, nearest, low, high⟩ :=
    Doubles.nearest_unit (div_nonneg (Nat.cast_nonneg numerator) whole.le) quotient
  obtain ⟨least, most⟩ := @Doubles.roundHalfEven_bounds (double * 10000) 0 10000
    (by push_cast; linarith) (by push_cast; linarith)
  have least' : (0 : ℚ) ≤ Doubles.roundHalfEven (double * 10000) := by exact_mod_cast least
  have most' : (Doubles.roundHalfEven (double * 10000) : ℚ) ≤ 10000 := by exact_mod_cast most
  obtain ⟨rounded, four, low', high'⟩ :=
    @Doubles.nearest_unit (Doubles.roundHalfEven (double * 10000) / 10000) (by linarith)
      (by linarith)
  refine ⟨some rounded, ?_, if_pos ⟨low', high'⟩, by simp [zero], ?_⟩
  · rw [if_neg zero, nearest, Option.bind_some, roundFour, four]
  · rintro given ⟨⟩
    exact ⟨low', high'⟩

theorem covered_le (snapshot : Snapshot) (since : Int) :
    (snapshot.coverage tenantId since).2 ≤ (snapshot.coverage tenantId since).1 :=
  List.countP_le_length

/-- Midnight is where a day begins. -/
theorem midnight_le {day : Int} : midnight day ≤ moment ↔ day ≤ utcDate moment := by
  rw [midnight, utcDate]
  have positive : (0 : Int) < (microsecondsPerDay : Nat) := by decide
  rw [Int.natCast_ediv, Int.le_ediv_iff_mul_le positive]

/-- The days of the trend. -/
def days (now : Timestamp) : List Int :=
  (List.range 30).map fun (offset : Nat) => startDay now + offset

theorem mem_days {day : Int} : day ∈ days now ↔ startDay now ≤ day ∧ day ≤ utcDate now := by
  rw [days, List.mem_map]
  constructor
  · rintro ⟨offset, member, rfl⟩
    rw [List.mem_range] at member
    rw [startDay]
    omega
  · rintro ⟨first, last⟩
    refine ⟨(day - startDay now).toNat, ?_, by omega⟩
    rw [List.mem_range]
    rw [startDay] at first ⊢
    omega

theorem nodup_days : (days now).Nodup := by
  refine List.Nodup.map ?_ List.nodup_range
  intro first second same
  have equal : startDay now + (first : Int) = startDay now + second := same
  omega

section

variable {reads : Reads}

theorem days_trend (opened : List (Int × Nat)) (closed : List (Option Int × Nat)) :
    (trend now opened closed).map TrendDay.day = days now := by
  rw [trend, days, List.map_map]
  rfl

/-- The days of the trend share out the findings that were opened in it. -/
theorem sum_opened (closed : List (Option Int × Nat)) (snapshot : Snapshot) :
    ((trend now (snapshot.openedCounts tenantId (midnight (startDay now))) closed).map
      TrendDay.opened).sum = snapshot.vulnerabilities.count fun row =>
        row.tenantId == tenantId && decide (InWindow now row.createdAt) := by
  have lookups : (trend now (snapshot.openedCounts tenantId (midnight (startDay now))) closed).map
      TrendDay.opened =
        (days now).map (Groups.get (snapshot.openedCounts tenantId (midnight (startDay now)))) := by
    rw [trend, days, List.map_map, List.map_map]
    rfl
  have inside : ∀ entry ∈ snapshot.openedSince tenantId (midnight (startDay now)),
      decide (InWindow now entry.2.createdAt) = true ↔ utcDate entry.2.createdAt ∈ days now := by
    intro entry _
    rw [decide_eq_true_eq, mem_days, InWindow]
  rw [lookups, Snapshot.openedCounts, Groups.sum_counts nodup_days inside, Snapshot.openedSince,
    Table.countP_rows fun (row : Vulnerability) => decide (InWindow now row.createdAt),
    Table.count_eq]
  congr 2
  funext _ row
  rw [Bool.and_assoc, ← Bool.decide_and]
  congr 1
  rw [decide_eq_decide, midnight_le]
  exact ⟨fun both => both.2, fun within => ⟨within.1, within⟩⟩

/-- So do they the findings that were closed in it. -/
theorem sum_closed (opened : List (Int × Nat)) (snapshot : Snapshot) :
    ((trend now opened (snapshot.closedCounts tenantId (midnight (startDay now)))).map
      TrendDay.closed).sum = snapshot.vulnerabilities.count fun row =>
        row.tenantId == tenantId && row.closedAt.any fun moment => decide (InWindow now moment) := by
  have lookups : (trend now opened (snapshot.closedCounts tenantId (midnight (startDay now)))).map
      TrendDay.closed = ((days now).map some).map
        (Groups.get (snapshot.closedCounts tenantId (midnight (startDay now)))) := by
    rw [trend, days, List.map_map, List.map_map, List.map_map]
    rfl
  have inside : ∀ entry ∈ snapshot.closedSince tenantId (midnight (startDay now)),
      (entry.2.closedAt.any fun moment => decide (InWindow now moment)) = true ↔
        entry.2.closedAt.map utcDate ∈ (days now).map some := by
    intro entry _
    cases entry.2.closedAt with
    | none => simp
    | some moment =>
      rw [Option.any_some, Option.map_some, decide_eq_true_eq,
        List.mem_map_of_injective (Option.some_injective Int), mem_days, InWindow]
  rw [lookups, Snapshot.closedCounts,
    Groups.sum_counts (nodup_days.map (Option.some_injective Int)) inside, Snapshot.closedSince,
    Table.countP_rows fun (row : Vulnerability) =>
      row.closedAt.any fun moment => decide (InWindow now moment), Table.count_eq]
  congr 2
  funext _ row
  rw [Bool.and_assoc]
  congr 1
  cases row.closedAt with
  | none => rfl
  | some moment =>
    rw [Option.any_some, Option.any_some, ← Bool.decide_and, decide_eq_decide, midnight_le]
    exact ⟨fun both => both.2, fun within => ⟨within.1, within⟩⟩

/-- Every open finding has one of the five severities. -/
theorem sum_severities (snapshot : Snapshot) :
    let counted := severityCounts (snapshot.severityCounts tenantId)
    counted.critical + counted.high + counted.medium + counted.low + counted.info =
      snapshot.vulnerabilities.count fun row =>
        row.tenantId == tenantId && row.status == .opened := by
  have inside : ∀ entry ∈ snapshot.openFindings tenantId, true = true ↔
      entry.2.severity ∈ [VulnerabilitySeverity.critical, .high, .medium, .low, .info] := by
    intro entry _
    cases entry.2.severity <;> simp
  have shared := Groups.sum_counts (by decide) inside
  rw [List.countP_true, Snapshot.openFindings, ← Table.count_eq] at shared
  rw [← shared]
  simp only [severityCounts, Snapshot.severityCounts, Snapshot.openFindings, List.map_cons,
    List.map_nil, List.sum_cons, List.sum_nil]
  omega

section

variable {first second : Snapshot}

theorem Snapshot.Agrees.findings (agrees : first.Agrees tenantId second)
    {matching : Vulnerability → Bool} (names : ∀ row, matching row = true →
      row.tenantId = tenantId) :
    (first.vulnerabilities.rows fun _ => matching).Perm
      (second.vulnerabilities.rows fun _ => matching) :=
  agrees.database.vulnerabilities.rows first.listedVulnerabilities second.listedVulnerabilities
    (fun _ _ _ => rfl) (fun _ row _ => names row) (fun _ row _ => names row)

theorem Snapshot.Agrees.scanRows (agrees : first.Agrees tenantId second) {matching : Scan → Bool}
    (names : ∀ scan, matching scan = true → scan.tenantId = tenantId) :
    (first.scans.rows fun _ => matching).Perm (second.scans.rows fun _ => matching) :=
  agrees.database.scans.rows first.listedScans second.listedScans
    (fun _ _ _ => rfl) (fun _ scan _ => names scan) (fun _ scan _ => names scan)

theorem Snapshot.Agrees.coverage (agrees : first.Agrees tenantId second) (since : Int) :
    first.coverage tenantId since = second.coverage tenantId since := by
  have scanned : first.recentlyScanned tenantId since = second.recentlyScanned tenantId since := by
    funext assetId
    rw [recentlyScanned, recentlyScanned, List.Perm.isEmpty_eq (agrees.scanRows ?_)]
    intro scan matched
    simp only [Bool.and_eq_true, beq_iff_eq] at matched
    exact matched.1.1.1
  have symm : ∀ assetId asset, second.assets.find assetId = some asset →
      asset.tenantId = tenantId → first.assetStatus assetId = second.assetStatus assetId := by
    intro assetId asset found own
    exact agrees.statuses assetId asset (agrees.database.assets.symm.find found own) own
  have assets : (first.monitored tenantId).Perm (second.monitored tenantId) := by
    refine (List.perm_ext_iff_of_nodup (Table.nodup_rows first.listedAssets)
      (Table.nodup_rows second.listedAssets)).mpr ?_
    rintro ⟨assetId, asset⟩
    rw [Table.mem_rows first.listedAssets, Table.mem_rows second.listedAssets, Bool.and_eq_true,
      Bool.and_eq_true, beq_iff_eq, beq_iff_eq, beq_iff_eq]
    constructor
    · rintro ⟨found, own, active⟩
      refine ⟨agrees.database.assets.find found own, own, ?_⟩
      rw [← agrees.statuses assetId asset found own, active]
    · rintro ⟨found, own, active⟩
      refine ⟨agrees.database.assets.symm.find found own, own, ?_⟩
      rw [symm assetId asset found own, active]
  rw [Snapshot.coverage, Snapshot.coverage, assets.length_eq, scanned, assets.countP_eq]

theorem Reads.Agrees.summary {reads other : Reads} (agrees : reads.Agrees tenantId other) :
    getDashboardSummary tenantId now reads = getDashboardSummary tenantId now other := by
  have named {rest : Vulnerability → Bool} (row : Vulnerability)
      (matched : (row.tenantId == tenantId && rest row) = true) : row.tenantId = tenantId :=
    eq_of_beq ((Bool.and_eq_true _ _).mp matched).1
  have severities : Groups.get (reads.severities.severityCounts tenantId) =
      Groups.get (other.severities.severityCounts tenantId) :=
    Groups.get_perm (agrees.severities.findings named)
  have opened (start : Int) : Groups.get (reads.opened.openedCounts tenantId start) =
      Groups.get (other.opened.openedCounts tenantId start) :=
    Groups.get_perm (agrees.opened.findings named)
  have closed (start : Int) : Groups.get (reads.closed.closedCounts tenantId start) =
      Groups.get (other.closed.closedCounts tenantId start) :=
    Groups.get_perm (agrees.closed.findings named)
  have scans (since : Int) : Groups.get (reads.scans.scanCounts tenantId since) =
      Groups.get (other.scans.scanCounts tenantId since) := by
    refine Groups.get_perm (agrees.scans.scanRows ?_)
    intro scan matched
    simp only [Bool.and_eq_true, beq_iff_eq] at matched
    exact matched.1.1
  simp only [getDashboardSummary, agrees.coverage.coverage, severityCounts, trend, severities,
    opened, closed, scans]

end

/-- An aggregation answers, and each metric counts each row of the tenant once. -/
theorem aggregation_answers (tenantId : TenantId) (now : Timestamp) (reads : Reads) :
    ∃ summary, getDashboardSummary tenantId now reads = .ok summary ∧
      Accounts tenantId now reads summary := by
  obtain ⟨coverage, covered, taken, unknown, bounds⟩ := ratio_accepted
    (@covered_le tenantId reads.coverage (since24h now))
  obtain ⟨success, finished, taken', unknown', bounds'⟩ := ratio_accepted (Nat.le_add_right
    (Groups.get (reads.scans.scanCounts tenantId (since30d now)) .completed)
    (Groups.get (reads.scans.scanCounts tenantId (since30d now)) .failed))
  refine ⟨_, by
    simp only [getDashboardSummary, covered, finished, Except.ok_bind, taken, taken']
    rfl, ?_⟩
  exact {
    tenant := rfl
    generated := rfl
    total := rfl
    covered := covered_le ..
    coverageRatio := unknown
    successRatio := unknown'
    ratios := fun value given => given.elim (bounds value) (bounds' value)
    severities := sum_severities reads.severities
    days := days_trend ..
    opened := sum_opened _ reads.opened
    closed := sum_closed _ reads.closed }

/-- Whatever commits between its statements, an aggregation answers, each metric counts each row of
the tenant once, and rows of other tenants do not matter. -/
theorem summary_accounts (tenantId : TenantId) (now : Timestamp) (reads : Reads) :
    ∃ summary, getDashboardSummary tenantId now reads = .ok summary ∧
      Accounts tenantId now reads summary ∧
      ∀ other : Reads, reads.Agrees tenantId other →
        getDashboardSummary tenantId now other = .ok summary := by
  obtain ⟨summary, answered, accounts⟩ := aggregation_answers tenantId now reads
  exact ⟨summary, answered, accounts, fun other agrees => agrees.summary ▸ answered⟩

end

end

end Dashboard

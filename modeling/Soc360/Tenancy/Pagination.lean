import Soc360.Store.Paging
import Soc360.Tenancy.Database
import Soc360.Tenants.Service
import Mathlib.Data.Prod.Lex

set_option autoImplicit false

/-! The pages of the six list endpoints. -/

namespace Tenancy

open Assets (Asset)
open OrderDual (toDual)
open Paging (Answers Ordered TiesTogether pages)
open Reports (Report ReportStatus ReportType)
open Scans (AssetId Scan ScanId TenantId Timestamp)
open Tenants (Tenant)
open Users (User UserId UserTable)
open Vulnerabilities (Vulnerability)

section

variable {Row : Type}

/-- `ORDER BY created_at DESC, id DESC`. -/
def byCreatedId (created : Nat → Row → Timestamp) (entry : Nat × Row) : ℕᵒᵈ ×ₗ ℕᵒᵈ :=
  toLex (toDual (created entry.1 entry.2), toDual entry.1)

/-- `ORDER BY created_at DESC`. -/
def byCreated (created : Nat → Row → Timestamp) (entry : Nat × Row) : ℕᵒᵈ :=
  toDual (created entry.1 entry.2)

/-- What the two queries of a list endpoint may answer. -/
def ListingAnswers (owner : Row → TenantId) (scope : Option TenantId) (filter : Row → Bool)
    (created : Nat → Row → Timestamp) (limit offset : Nat) (table : Table Nat Row)
    (answer : List (Nat × Row) × Nat) : Prop :=
  let matching := fun row => scope.all (owner row == ·) && filter row
  Answers (byCreatedId created) (table.rows fun _ => matching) limit offset answer.1 ∧
    answer.2 = table.count matching

variable {table : Table Nat Row} {created : Nat → Row → Timestamp}
  {matching : Nat → Row → Bool} {owner : Row → TenantId} {scope : Option TenantId}
  {filter : Row → Bool} {limit offset : Nat} {answer : List (Nat × Row) × Nat}

theorem byCreatedId_injective (listed : table.Listed) :
    ∀ first ∈ table.rows matching, ∀ second ∈ table.rows matching,
      byCreatedId created first = byCreatedId created second → first = second := by
  rintro ⟨key, row⟩ member ⟨key', row'⟩ member' same
  have keys : key = key' := toDual.injective (congrArg Prod.snd (toLex.injective same))
  subst keys
  have found := ((Table.mem_rows listed).mp member).1
  have found' := ((Table.mem_rows listed).mp member').1
  rw [found] at found'
  cases found'
  rfl

theorem page_ordered : ∃ ordered, Ordered (byCreatedId created) (table.rows matching) ordered ∧
    table.page created matching limit offset = Paging.page ordered limit offset := by
  have total : Std.Total (Table.Newest : Nat × Nat × Row → Nat × Nat × Row → Prop) :=
    Table.newest_total
  have transitive : IsTrans (Nat × Nat × Row) Table.Newest := Table.newest_trans
  refine ⟨(((table.rows matching).map fun entry =>
    (created entry.1 entry.2, entry)).insertionSort Table.Newest).map Prod.snd, ⟨?_, ?_⟩, ?_⟩
  · have perm := (List.perm_insertionSort Table.Newest ((table.rows matching).map fun entry =>
      (created entry.1 entry.2, entry))).map Prod.snd
    have same : (Prod.snd ∘ fun entry : Nat × Row => (created entry.1 entry.2, entry)) = id := rfl
    rw [List.map_map, same, List.map_id] at perm
    exact perm
  · apply List.pairwise_map.mpr
    refine List.Pairwise.imp_of_mem ?_ (List.pairwise_insertionSort Table.Newest _)
    intro first second member member' newest
    obtain ⟨entry, _, rfl⟩ := List.mem_map.mp ((List.mem_insertionSort _).mp member)
    obtain ⟨entry', _, rfl⟩ := List.mem_map.mp ((List.mem_insertionSort _).mp member')
    apply Prod.Lex.toLex_le_toLex.mpr
    rcases newest with newer | ⟨same, above⟩
    · exact .inl newer
    · exact .inr ⟨congrArg toDual same, above⟩
  · rw [Table.page, Paging.page, List.map_take, List.map_drop]

/-- The listing of the services is all that the queries may answer. -/
theorem listingAnswers_iff (listed : table.Listed) :
    ListingAnswers owner scope filter created limit offset table answer ↔
      answer = table.listing owner scope filter created limit offset := by
  obtain ⟨items, total⟩ := answer
  obtain ⟨ordered, order, paged⟩ := @page_ordered Row table created
    (fun _ row => scope.all (owner row == ·) && filter row) limit offset
  rw [Table.listing, Prod.mk.injEq, ListingAnswers]
  refine and_congr_left' ?_
  constructor
  · rintro ⟨other, order', rfl⟩
    rw [paged, order.unique order' (byCreatedId_injective listed)]
  · intro same
    exact ⟨ordered, order, same.trans paged⟩

/-- The pages hold each visible row once, and each total is their number. -/
def ListingCovers (owner : Row → TenantId) (scope : Option TenantId) (filter : Row → Bool)
    (created : Nat → Row → Timestamp) (limit : Nat) (table : Table Nat Row) : Prop :=
  let visible := table.rows fun _ row => scope.all (owner row == ·) && filter row
  ∀ answers : Nat → List (Nat × Row) × Nat,
    (∀ index, ListingAnswers owner scope filter created limit (index * limit) table
      (answers index)) →
    (∀ index, (answers index).2 = visible.length) ∧
      ∀ count, visible.length ≤ count * limit →
        (pages (fun index => (answers index).1) count).Perm visible

theorem listingCovers (listed : table.Listed) :
    ListingCovers owner scope filter created limit table := by
  intro answers answered
  constructor
  · intro index
    rw [(answered index).2, Table.count_eq]
  · intro count enough
    have together : TiesTogether (byCreatedId created) (table.rows fun _ row =>
        scope.all (owner row == ·) && filter row) limit :=
      Paging.together_of_injective (Table.nodup_rows listed) (byCreatedId_injective listed)
    exact Paging.covers_of_together together _ (fun index => (answered index).1) count enough

end

/-- The tables of the six services, with the columns `created_at` of users and tenants. -/
structure Stored where
  database : Database
  users : UserTable
  userCreated : UserId → User → Timestamp
  tenants : Table TenantId Tenant
  tenantCreated : TenantId → Tenant → Timestamp
  listedUsers : users.Listed
  listedTenants : tenants.Listed

namespace Stored

variable (stored : Stored)

/-- The rows of the `WHERE` clauses of `list_users`. -/
def visibleUsers (tenantId : Option TenantId) (includeInactive : Bool) : List (UserId × User) :=
  stored.users.rows fun _ row =>
    tenantId.all (fun tenantId => row.tenantId == some tenantId) && (includeInactive || row.isActive)

/-- What `list_users` may answer. -/
def listUsers (tenantId : Option TenantId) (includeInactive : Bool) (offset limit : Nat)
    (answer : List (UserId × User)) : Prop :=
  Answers (byCreated stored.userCreated) (stored.visibleUsers tenantId includeInactive)
    (min limit 200) offset answer

def visibleTenants (includeInactive : Bool) : List (TenantId × Tenant) :=
  stored.tenants.rows fun _ row => includeInactive || row.isActive

/-- What `list_tenants` may answer. -/
def listTenants (includeInactive : Bool) (offset limit : Nat) (answer : List (TenantId × Tenant)) :
    Prop :=
  Answers (byCreated stored.tenantCreated) (stored.visibleTenants includeInactive) (min limit 200)
    offset answer

end Stored

/-- The list endpoints, each with its scope and its filters. -/
inductive Endpoint where
  | listAssets (tenantId : Option TenantId)
  | listScans (tenantId : Option TenantId) (assetId : Option AssetId)
  | listVulnerabilities (tenantId : Option TenantId) (scanId : Option ScanId)
  | listReports (tenantId : Option TenantId) (assetId : Option AssetId)
      (reportType : Option ReportType) (status : Option ReportStatus)
  | listUsers (tenantId : Option TenantId) (includeInactive : Bool)
  | listTenants (includeInactive : Bool)

namespace Endpoint

variable (stored : Stored) (limit : Nat)

/-- Whatever the database answers, the pages hold each visible row once. -/
def Covered : Endpoint → Prop
  | listAssets tenantId => ListingCovers Asset.tenantId tenantId (fun _ => true)
      (fun _ row => row.createdAt) limit stored.database.assets
  | listScans tenantId assetId => ListingCovers Scan.tenantId tenantId
      (fun row => assetId.all (row.assetId == ·))
      (fun scanId _ => (stored.database.scanStamps scanId).createdAt) limit stored.database.scans
  | listVulnerabilities tenantId scanId => ListingCovers Vulnerability.tenantId tenantId
      (fun row => scanId.all (row.scanId == ·)) (fun _ row => row.createdAt) limit
      stored.database.vulnerabilities
  | listReports tenantId assetId reportType status => ListingCovers Report.tenantId tenantId
      (fun row => assetId.all (row.assetId == ·) && reportType.all (row.reportType == ·) &&
        status.all (row.status == ·))
      (fun _ row => row.createdAt) limit stored.database.reports
  | listUsers tenantId includeInactive => ∀ answers,
      (∀ index, stored.listUsers tenantId includeInactive (index * limit) limit (answers index)) →
        ∀ count, (stored.visibleUsers tenantId includeInactive).length ≤ count * limit →
          (pages answers count).Perm (stored.visibleUsers tenantId includeInactive)
  | listTenants includeInactive => ∀ answers,
      (∀ index, stored.listTenants includeInactive (index * limit) limit (answers index)) →
        ∀ count, (stored.visibleTenants includeInactive).length ≤ count * limit →
          (pages answers count).Perm (stored.visibleTenants includeInactive)

/-- Users or tenants of one `created_at` are on one page. -/
def TiesOnOnePage : Endpoint → Prop
  | listUsers tenantId includeInactive => TiesTogether (byCreated stored.userCreated)
      (stored.visibleUsers tenantId includeInactive) limit
  | listTenants includeInactive => TiesTogether (byCreated stored.tenantCreated)
      (stored.visibleTenants includeInactive) limit
  | _ => True

variable {stored limit}

/-- The pages of an endpoint hold each visible row once, if and only if it is one of those that
order by `id` as well, or no page boundary comes between rows of one `created_at`. -/
theorem covered_iff {endpoint : Endpoint} (positive : 1 ≤ limit) (most : limit ≤ 200) :
    endpoint.Covered stored limit ↔ endpoint.TiesOnOnePage stored limit := by
  have whole : min limit 200 = limit := Nat.min_eq_left most
  cases endpoint with
  | listAssets tenantId => exact iff_of_true (listingCovers stored.database.listedAssets) trivial
  | listScans tenantId assetId =>
      exact iff_of_true (listingCovers stored.database.listedScans) trivial
  | listVulnerabilities tenantId scanId =>
      exact iff_of_true (listingCovers stored.database.listedVulnerabilities) trivial
  | listReports tenantId assetId reportType status =>
      exact iff_of_true (listingCovers stored.database.listedReports) trivial
  | listUsers tenantId includeInactive =>
      simp only [Covered, Stored.listUsers, whole]
      exact Paging.covers_iff (Table.nodup_rows stored.listedUsers) positive
  | listTenants includeInactive =>
      simp only [Covered, Stored.listTenants, whole]
      exact Paging.covers_iff (Table.nodup_rows stored.listedTenants) positive

/-- Two users, with their `created_at`. -/
def twoUsers (first second : Timestamp) : Stored where
  database := {
    tenants := fun _ => none, assets := .empty, scans := .empty, scanStamps := fun _ => ⟨0, 0⟩
    vulnerabilities := .empty, reports := .empty, enrichments := .empty
    listedAssets := .empty, listedScans := .empty, listedVulnerabilities := .empty
    listedReports := .empty, listedEnrichments := .empty }
  users := (Table.empty.insert 1 ⟨some 1, "a@acme.es", "", "", .analyst, true, false⟩).insert 2
    ⟨some 1, "b@acme.es", "", "", .analyst, true, false⟩
  userCreated := fun userId _ => if userId = 1 then first else second
  tenants := .empty
  tenantCreated := fun _ _ => 0
  listedUsers := by
    refine Table.Listed.insert (Table.Listed.insert Table.Listed.empty ?_) ?_
    · exact List.not_mem_nil
    · decide
  listedTenants := .empty

theorem covered_iff_users : (listUsers (some 1) false).Covered (twoUsers 5 6) 1 := by
  apply (covered_iff le_rfl (by decide)).mpr
  apply Paging.together_of_injective (Table.nodup_rows (twoUsers 5 6).listedUsers)
  decide +kernel

/-- Two users of one `created_at`, one on each page: the first may be on both. -/
theorem users_not_covered : ¬(listUsers (some 1) false).Covered (twoUsers 5 5) 1 := by
  intro covered
  have together := Paging.together_of_covers (Table.nodup_rows (twoUsers 5 5).listedUsers)
    Nat.one_pos covered
  have unbroken := together 1 (1, ⟨some 1, "a@acme.es", "", "", .analyst, true, false⟩)
    (by decide +kernel)
  exact absurd unbroken (by decide +kernel)

end Endpoint

end Tenancy

import Soc360.Store.ReadCommitted
import Soc360.Tenants.Service

set_option autoImplicit false

namespace Tenants

open ReadCommitted (Fitting Label Service World)
open Users (Reply)

/-- `TenantCreate`, with the new `uuid4`. `slugFree` is whether a slug is found for it. -/
structure TenantCreate where
  tenantId : TenantId
  name : String
  slugFree : Bool
  plan : Plan
  settings : TenantSettings

/-- What the validators let through as a `TenantUpdate`. -/
structure ValidUpdate where
  data : TenantUpdate
  positive : ∀ maxAssets, data.maxAssets = .value maxAssets → 1 ≤ maxAssets

structure TenantColumns where
  name : Option String
  plan : Option String
  maxAssets : Option Int
  isActive : Option Bool
  settings : Option (Option TenantSettings)

section

variable (texts : Texts)

/-- The row that `create_tenant` adds. A `max_assets` in the body is not read. -/
def TenantCreate.row (data : TenantCreate) : Reply Tenant := do
  let limit ← planToMaxAssets texts data.plan.text
  return {
    name := texts.strip data.name
    plan := data.plan.text
    maxAssets := limit
    isActive := true
    settings := some data.settings }

def TenantCreate.rows (data : TenantCreate) : Option (List (TenantId × Tenant)) :=
  if data.slugFree then
    match data.row texts with
    | .error _ => none
    -- what the columns hold
    | .ok row =>
        if 255 < row.name.length || !row.name.storable || !data.settings.storable then none
        else some [(data.tenantId, row)]
  else none

/-- The columns of the UPDATE. -/
def ValidUpdate.columns (call : ValidUpdate) (tenant : Tenant) : Option TenantColumns :=
  match call.data.assign texts tenant with
  | .error _ => none
  | .ok after => some {
      name := ReadCommitted.changed tenant.name after.name
      plan := ReadCommitted.changed tenant.plan after.plan
      maxAssets := ReadCommitted.changed tenant.maxAssets after.maxAssets
      isActive := ReadCommitted.changed tenant.isActive after.isActive
      settings := ReadCommitted.changed tenant.settings after.settings }

def TenantColumns.write (columns : TenantColumns) (tenant : Tenant) : Tenant where
  name := columns.name.getD tenant.name
  plan := columns.plan.getD tenant.plan
  maxAssets := columns.maxAssets.getD tenant.maxAssets
  isActive := columns.isActive.getD tenant.isActive
  settings := columns.settings.getD tenant.settings

/-- `create_tenant` and `update_tenant`. -/
def requests : Service TenantId Tenant TenantColumns TenantCreate ValidUpdate where
  create data _ := data.rows texts
  edit := ValidUpdate.columns texts
  write := TenantColumns.write
  admits _ _ _ := true

end

/-- The plan is one of the table, and `max_assets` is at most its limit. -/
def Allows (plan : String) (maxAssets : Int) : Prop :=
  ∃ limit, planMaxAssets plan = some limit ∧ 1 ≤ maxAssets ∧ maxAssets ≤ limit

def Tenant.WithinPlan (tenant : Tenant) : Prop := Allows tenant.plan tenant.maxAssets

/-- An UPDATE that writes one of the two columns finds in the row a value of the other that goes
with it. -/
def TenantColumns.Fits (columns : TenantColumns) (current : Tenant) : Prop :=
  match columns.plan, columns.maxAssets with
  | none, some maxAssets => ∃ limit ∈ planMaxAssets current.plan, maxAssets ≤ limit
  | some plan, none => ∃ limit ∈ planMaxAssets plan, current.maxAssets ≤ limit
  | _, _ => True

instance (columns : TenantColumns) (current : Tenant) : Decidable (columns.Fits current) :=
  match shape : (columns.plan, columns.maxAssets) with
  | (none, some maxAssets) =>
      decidable_of_iff (∃ limit ∈ planMaxAssets current.plan, maxAssets ≤ limit) (by
        obtain ⟨plan, written⟩ := Prod.mk.inj shape
        rw [TenantColumns.Fits, plan, written])
  | (some plan, none) =>
      decidable_of_iff (∃ limit ∈ planMaxAssets plan, current.maxAssets ≤ limit) (by
        obtain ⟨written, none⟩ := Prod.mk.inj shape
        rw [TenantColumns.Fits, written, none])
  | (none, none) => .isTrue (by
      obtain ⟨plan, written⟩ := Prod.mk.inj shape
      rw [TenantColumns.Fits, plan, written]
      trivial)
  | (some _, some _) => .isTrue (by
      obtain ⟨plan, written⟩ := Prod.mk.inj shape
      rw [TenantColumns.Fits, plan, written]
      trivial)

section

variable {texts : Texts} {data : TenantUpdate} {tenant before current after : Tenant}
  {call : ValidUpdate} {columns : TenantColumns} {plan : String} {limit : Nat}

theorem planToMaxAssets_ok (found : planToMaxAssets texts plan = .ok limit) :
    planMaxAssets plan = some limit := by
  unfold planToMaxAssets at found
  split at found
  next => cases found
  next limit listed =>
    cases found
    exact listed

theorem planMaxAssets_positive (found : planMaxAssets plan = some limit) : 1 ≤ limit := by
  unfold planMaxAssets at found
  split at found
  next => cases found; decide
  next =>
    split at found
    next => cases found; decide
    next =>
      split at found
      next => cases found; decide
      next =>
        split at found
        next => cases found; decide
        next => cases found

/-- The limit of a plan is allowed by it. -/
theorem allows_limit (found : planToMaxAssets texts plan = .ok limit) : Allows plan limit := by
  have listed := planToMaxAssets_ok found
  have positive := planMaxAssets_positive listed
  exact ⟨limit, listed, by omega, by omega⟩

namespace TenantUpdate

theorem assignName_plan (given : data.assignName texts tenant = .ok after) :
    after.plan = tenant.plan ∧ after.maxAssets = tenant.maxAssets := by
  unfold assignName at given
  split at given
  next => cases given; exact ⟨rfl, rfl⟩
  next => cases given
  next => cases given; exact ⟨rfl, rfl⟩

theorem assignIsActive_plan (given : data.assignIsActive tenant = .ok after) :
    after.plan = tenant.plan ∧ after.maxAssets = tenant.maxAssets := by
  unfold assignIsActive at given
  split at given
  next => cases given; exact ⟨rfl, rfl⟩
  next => cases given
  next => cases given; exact ⟨rfl, rfl⟩

theorem assignSettings_plan (given : data.assignSettings tenant = .ok after) :
    after.plan = tenant.plan ∧ after.maxAssets = tenant.maxAssets := by
  unfold assignSettings at given
  split at given
  next => cases given; exact ⟨rfl, rfl⟩
  next => cases given
  next => cases given; exact ⟨rfl, rfl⟩

/-- Without a `max_assets` the row stays within its plan, whichever that then is. -/
theorem assignPlan_withinPlan (unset : data.maxAssets = .unset) (within : tenant.WithinPlan)
    (given : data.assignPlan texts tenant = .ok after) : after.WithinPlan := by
  unfold assignPlan at given
  rw [unset] at given
  split at given
  next =>
    cases given
    exact within
  next => cases given
  next plan _ =>
    obtain ⟨limit, found, given⟩ := Except.bind_eq_ok.mp given
    cases given
    exact allows_limit found

/-- A `max_assets` is checked against the plan that the row then has. -/
theorem assignMaxAssets_withinPlan
    (positive : ∀ maxAssets, data.maxAssets = .value maxAssets → 1 ≤ maxAssets)
    (unset : data.maxAssets = .unset → tenant.WithinPlan)
    (given : data.assignMaxAssets texts tenant = .ok after) : after.WithinPlan := by
  unfold assignMaxAssets at given
  split at given
  next none =>
    cases given
    exact unset none
  next =>
    obtain ⟨limit, found, given⟩ := Except.bind_eq_ok.mp given
    cases given
  next maxAssets named =>
    obtain ⟨limit, found, given⟩ := Except.bind_eq_ok.mp given
    obtain ⟨_, accepted, given⟩ := Except.bind_eq_ok.mp given
    cases given
    have below : maxAssets ≤ limit :=
      Int.not_lt.mp (of_decide_eq_false (Except.refuse_ok.mp accepted))
    exact ⟨limit, planToMaxAssets_ok found, positive maxAssets named, below⟩

/-- Every assignment of a valid body to a row within its plan leaves one within its plan. -/
theorem assign_withinPlan
    (positive : ∀ maxAssets, data.maxAssets = .value maxAssets → 1 ≤ maxAssets)
    (within : tenant.WithinPlan) (given : data.assign texts tenant = .ok after) :
    after.WithinPlan := by
  obtain ⟨named, name, given⟩ := Except.bind_eq_ok.mp given
  obtain ⟨planned, plan, given⟩ := Except.bind_eq_ok.mp given
  obtain ⟨limited, maxAssets, given⟩ := Except.bind_eq_ok.mp given
  obtain ⟨switched, isActive, given⟩ := Except.bind_eq_ok.mp given
  obtain ⟨last, settings, given⟩ := Except.bind_eq_ok.mp given
  obtain ⟨_, _, given⟩ := Except.bind_eq_ok.mp given
  obtain ⟨_, _, given⟩ := Except.bind_eq_ok.mp given
  cases given
  have start : named.WithinPlan := by
    rw [Tenant.WithinPlan, (assignName_plan name).1, (assignName_plan name).2]
    exact within
  have middle : limited.WithinPlan :=
    assignMaxAssets_withinPlan positive
      (fun unset => assignPlan_withinPlan unset start plan) maxAssets
  rw [Tenant.WithinPlan, (assignSettings_plan settings).1, (assignSettings_plan settings).2,
    (assignIsActive_plan isActive).1, (assignIsActive_plan isActive).2]
  exact middle

end TenantUpdate

theorem TenantCreate.rows_withinPlan {data : TenantCreate} {rows : List (TenantId × Tenant)}
    (created : data.rows texts = some rows) : ∀ entry ∈ rows, entry.2.WithinPlan := by
  unfold TenantCreate.rows at created
  split at created
  next =>
    split at created
    next => cases created
    next row given =>
      obtain ⟨limit, found, given⟩ := Except.bind_eq_ok.mp given
      cases given
      split at created
      next => cases created
      next =>
        cases created
        intro entry member
        rw [List.mem_singleton.mp member]
        exact allows_limit found
  next => cases created

theorem ValidUpdate.columns_some (given : call.columns texts before = some columns) :
    ∃ after, call.data.assign texts before = .ok after ∧
      columns.plan = ReadCommitted.changed before.plan after.plan ∧
      columns.maxAssets = ReadCommitted.changed before.maxAssets after.maxAssets := by
  unfold ValidUpdate.columns at given
  split at given
  next => cases given
  next after assigned =>
    cases given
    exact ⟨after, assigned, rfl, rfl⟩

/-- An UPDATE leaves a row within its plan if and only if it fits the row that it finds. -/
theorem write_withinPlan (read : before.WithinPlan) (stored : current.WithinPlan)
    (given : call.columns texts before = some columns) :
    (columns.write current).WithinPlan ↔ columns.Fits current := by
  obtain ⟨after, assigned, plan, maxAssets⟩ := call.columns_some given
  have within := TenantUpdate.assign_withinPlan call.positive read assigned
  obtain ⟨limit, listed, positive, below⟩ := within
  obtain ⟨currentLimit, currentListed, currentPositive, currentBelow⟩ := stored
  rw [Tenant.WithinPlan, TenantColumns.write, TenantColumns.Fits, plan, maxAssets]
  by_cases samePlan : after.plan = before.plan
  · rw [ReadCommitted.changed_none.mpr samePlan]
    by_cases sameMax : after.maxAssets = before.maxAssets
    · rw [ReadCommitted.changed_none.mpr sameMax]
      simpa [Allows, currentListed] using ⟨currentPositive, currentBelow⟩
    · rw [ReadCommitted.changed, if_neg sameMax]
      simp [Allows, currentListed, positive]
  · rw [ReadCommitted.changed, if_neg samePlan]
    by_cases sameMax : after.maxAssets = before.maxAssets
    · rw [ReadCommitted.changed_none.mpr sameMax]
      simp [Allows, listed, currentPositive]
    · rw [ReadCommitted.changed, if_neg sameMax]
      simpa [Allows, listed] using ⟨positive, below⟩

/-- No tenant exceeds its plan, in every run in which an UPDATE of the plan or of `max_assets`
alone finds a value of the other that goes with it. -/
theorem stored_tenants_within_plan {world : World TenantId Tenant TenantColumns ValidUpdate}
    (reached : (requests texts).machine.ReachableBy (Fitting fun _ columns current =>
      columns.Fits current) world) :
    ∀ tenantId tenant, world.committed.find tenantId = some tenant →
      ∃ limit, planMaxAssets tenant.plan = some limit ∧ 1 ≤ tenant.maxAssets ∧
        tenant.maxAssets ≤ limit := by
  apply ReadCommitted.stored_valid Tenant.WithinPlan _ _ reached
  · intro data table rows created
    exact TenantCreate.rows_withinPlan created
  · intro call before columns current read stored given fits
    exact (write_withinPlan read stored given).mpr fits

end

/-! A pro tenant: one request moves it to the free plan, another sets its limit. -/

def plainTexts : Texts := ⟨id, id, fun _ => "", fun _ _ => ("", "")⟩

def acme : TenantCreate := ⟨7, "Acme", true, .pro, .defaults⟩

def toFree : ValidUpdate where
  data := ⟨.unset, .value .free, .unset, .unset, .unset⟩
  positive := by
    intro maxAssets named
    cases named

def limitTo (maxAssets : Int) (positive : 1 ≤ maxAssets) : ValidUpdate where
  data := ⟨.unset, .unset, .unset, .value maxAssets, .unset⟩
  positive := by
    intro named same
    cases same
    exact positive

/-- Both read the tenant before either writes it. -/
def overlapping (maxAssets : Int) (positive : 1 ≤ maxAssets) :
    List (Label TenantId TenantCreate ValidUpdate) :=
  [.create 0 acme, .flush 0, .commit 0, .read 1 7 toFree, .read 2 7 (limitTo maxAssets positive),
    .validate 1, .validate 2, .flush 1, .commit 1, .flush 2, .commit 2]

theorem overlapping_tenant_exceeds :
    ∃ world tenant, (requests plainTexts).machine.Reachable world ∧
      world.committed.find 7 = some tenant ∧
      ¬ ∃ limit, planMaxAssets tenant.plan = some limit ∧ 1 ≤ tenant.maxAssets ∧
        tenant.maxAssets ≤ limit := by
  have run : ∃ world tenant,
      (requests plainTexts).machine.exec .empty (overlapping 50 (by decide)) = some world ∧
        world.committed.find 7 = some tenant ∧ tenant.plan = "free" ∧ tenant.maxAssets = 50 :=
    ⟨_, _, rfl, rfl, rfl, rfl⟩
  obtain ⟨world, tenant, run, found, plan, maxAssets⟩ := run
  refine ⟨world, tenant, Machine.Reachable.exec (.start rfl) run, found, ?_⟩
  rintro ⟨limit, listed, _, below⟩
  rw [plan] at listed
  cases (show some 10 = some limit from listed)
  rw [maxAssets] at below
  exact absurd below (by decide)

/-- A limit that the free plan allows too. -/
theorem stored_tenants_within_plan_overlapping :
    ∃ world tenant,
      (requests plainTexts).machine.exec .empty (overlapping 5 (by decide)) = some world ∧
      world.committed.find 7 = some tenant ∧ tenant.plan = "free" ∧ tenant.maxAssets = 5 ∧
      ∀ tenantId tenant, world.committed.find tenantId = some tenant →
        ∃ limit, planMaxAssets tenant.plan = some limit ∧ 1 ≤ tenant.maxAssets ∧
          tenant.maxAssets ≤ limit := by
  have run : ∃ world tenant,
      (requests plainTexts).machine.exec .empty (overlapping 5 (by decide)) = some world ∧
        world.committed.find 7 = some tenant ∧ tenant.plan = "free" ∧ tenant.maxAssets = 5 :=
    ⟨_, _, rfl, rfl, rfl, rfl⟩
  obtain ⟨world, tenant, run, found, plan, maxAssets⟩ := run
  have fitting : (requests plainTexts).machine.Allows (Fitting fun _ columns current =>
      TenantColumns.Fits columns current) .empty (overlapping 5 (by decide)) := by
    decide +kernel
  exact ⟨world, tenant, run, found, plan, maxAssets,
    stored_tenants_within_plan (Machine.ReachableBy.exec (.start rfl) fitting run)⟩

end Tenants

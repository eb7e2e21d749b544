import Soc360.Payloads.Requests

set_option autoImplicit false

/-! Which bodies of a tenant end in an error that no handler knows. -/

namespace Payloads

open Tenants (Tenant TenantSettings TenantUpdate invalidPlan planMaxAssets planMaxAssets_plan)
open Users (HttpError internalError)

/-- The plan of the row after an update of its plan. -/
def planOf (tenant : Tenant) (data : TenantUpdate) : String :=
  match data.plan with
  | .value plan => plan.text
  | _ => tenant.plan

/-- The service refuses the plan, or finds `max_assets` above the limit of the plan. -/
def TenantRefused (tenant : Tenant) (data : TenantUpdate) : Prop :=
  data.plan = .null ∨
    data.maxAssets ≠ .unset ∧ planMaxAssets (planOf tenant data) = none ∨
    ∃ maxAssets limit, data.maxAssets = .value maxAssets ∧
      planMaxAssets (planOf tenant data) = some limit ∧ (limit : Int) < maxAssets

/-- Where a PATCH of a tenant does not crash: its name is not null, and it is refused, or no other
field of it is null and its texts fit their columns. -/
def TenantSound (library : Library) (tenant : Tenant) (data : TenantUpdate) : Prop :=
  data.name ≠ .null ∧ (TenantRefused tenant data ∨
    data.maxAssets ≠ .null ∧ data.isActive ≠ .null ∧ data.settings ≠ .null ∧
    (∀ name, data.name = .value name → (library.tenants.strip name).length ≤ 255 ∧
      (library.tenants.strip name).storable = true) ∧
    ∀ given, data.settings = .value given →
      (given.merge (tenant.settings.getD .defaults)).storable = true)

section

variable {texts : Tenants.Texts} {tenant : Tenant} {data : TenantUpdate}

theorem internalError_not_handled : ¬ (ofHttp internalError).Handled := by
  simp [ofHttp, Failure.Handled]

theorem ofHttp_handled {statusCode : Nat} {detail : String} (client : 400 ≤ statusCode)
    (other : statusCode < 500) : (ofHttp ⟨statusCode, detail⟩).Handled := by
  have differs : (⟨statusCode, detail⟩ : HttpError) ≠ internalError := by
    intro same
    have server : statusCode = 500 := congrArg HttpError.statusCode same
    omega
  rw [ofHttp, if_neg differs]
  exact ⟨client, other⟩

theorem assignName_ok (name : data.name ≠ .null) :
    data.assignName texts tenant = .ok { tenant with
      name := (data.name.get?.map texts.strip).getD tenant.name } := by
  cases field : data.name with
  | null => exact absurd field name
  | unset => simp [TenantUpdate.assignName, field, Users.Field.get?]
  | value given => simp [TenantUpdate.assignName, field, Users.Field.get?]

theorem planToMaxAssets_plan (plan : Tenants.Plan) :
    ∃ limit, Tenants.planToMaxAssets texts plan.text = .ok limit := by
  obtain ⟨limit, known⟩ := planMaxAssets_plan plan
  exact ⟨limit, by rw [Tenants.planToMaxAssets, known]⟩

theorem assignPlan_ok (plan : data.plan ≠ .null) : ∃ maxAssets,
    data.assignPlan texts tenant =
      .ok { tenant with plan := planOf tenant data, maxAssets := maxAssets } := by
  cases field : data.plan with
  | null => exact absurd field plan
  | unset => exact ⟨tenant.maxAssets, by simp [TenantUpdate.assignPlan, field, planOf]⟩
  | value given =>
      cases limited : data.maxAssets with
      | unset =>
          obtain ⟨limit, known⟩ := @planToMaxAssets_plan texts given
          refine ⟨limit, ?_⟩
          simp only [TenantUpdate.assignPlan, field, limited, known, planOf]
          rfl
      | null => exact ⟨tenant.maxAssets, by simp [TenantUpdate.assignPlan, field, limited, planOf]⟩
      | value maxAssets =>
          exact ⟨tenant.maxAssets, by simp [TenantUpdate.assignPlan, field, limited, planOf]⟩

theorem assignMaxAssets_refused
    (refused : data.maxAssets ≠ .unset ∧ planMaxAssets tenant.plan = none ∨
      ∃ maxAssets limit, data.maxAssets = .value maxAssets ∧
        planMaxAssets tenant.plan = some limit ∧ (limit : Int) < maxAssets) :
    ∃ error, data.assignMaxAssets texts tenant = .error error ∧ (ofHttp error).Handled := by
  rcases refused with ⟨given, unknown⟩ | ⟨maxAssets, limit, given, known, large⟩
  · have unplanned : Tenants.planToMaxAssets texts tenant.plan =
        .error (invalidPlan (texts.repr tenant.plan)) := by
      rw [Tenants.planToMaxAssets, unknown]
    cases field : data.maxAssets with
    | unset => exact absurd field given
    | null =>
        simp only [TenantUpdate.assignMaxAssets, field, unplanned, Except.error_bind]
        exact ⟨_, rfl, ofHttp_handled (by decide) (by decide)⟩
    | value maxAssets =>
        simp only [TenantUpdate.assignMaxAssets, field, unplanned, Except.error_bind]
        exact ⟨_, rfl, ofHttp_handled (by decide) (by decide)⟩
  · have planned : Tenants.planToMaxAssets texts tenant.plan = .ok limit := by
      rw [Tenants.planToMaxAssets, known]
    have above : decide ((limit : Int) < maxAssets) = true := decide_eq_true large
    simp only [TenantUpdate.assignMaxAssets, given, planned, Except.ok_bind, above, Except.refuse,
      if_true, Except.error_bind]
    exact ⟨_, rfl, ofHttp_handled (by decide) (by decide)⟩

theorem assignMaxAssets_null {limit : Nat} (null : data.maxAssets = .null)
    (known : planMaxAssets tenant.plan = some limit) :
    data.assignMaxAssets texts tenant = .error internalError := by
  have planned : Tenants.planToMaxAssets texts tenant.plan = .ok limit := by
    rw [Tenants.planToMaxAssets, known]
  simp only [TenantUpdate.assignMaxAssets, null, planned, Except.ok_bind]

theorem assignMaxAssets_ok (given : data.maxAssets ≠ .null)
    (planned : data.maxAssets ≠ .unset → planMaxAssets tenant.plan ≠ none)
    (within : ∀ maxAssets limit, data.maxAssets = .value maxAssets →
      planMaxAssets tenant.plan = some limit → maxAssets ≤ limit) :
    ∃ maxAssets, data.assignMaxAssets texts tenant =
      .ok { tenant with maxAssets := maxAssets } := by
  cases field : data.maxAssets with
  | null => exact absurd field given
  | unset => exact ⟨tenant.maxAssets, by simp [TenantUpdate.assignMaxAssets, field]⟩
  | value maxAssets =>
      obtain ⟨limit, known⟩ := Option.ne_none_iff_exists'.mp (planned (by simp [field]))
      have small := within maxAssets limit field known
      have below : decide ((limit : Int) < maxAssets) = false := decide_eq_false (by omega)
      have plan : Tenants.planToMaxAssets texts tenant.plan = .ok limit := by
        rw [Tenants.planToMaxAssets, known]
      refine ⟨maxAssets, ?_⟩
      simp only [TenantUpdate.assignMaxAssets, field, plan, Except.ok_bind, below]
      rfl

theorem assignIsActive_ok (given : data.isActive ≠ .null) :
    data.assignIsActive tenant =
      .ok { tenant with isActive := data.isActive.get?.getD tenant.isActive } := by
  cases field : data.isActive with
  | null => exact absurd field given
  | unset => simp [TenantUpdate.assignIsActive, field, Users.Field.get?]
  | value isActive => simp [TenantUpdate.assignIsActive, field, Users.Field.get?]

theorem assignSettings_ok (given : data.settings ≠ .null) :
    data.assignSettings tenant =
      .ok { tenant with settings := (data.settings.get?.map fun given =>
        some (given.merge (tenant.settings.getD .defaults))).getD tenant.settings } := by
  cases field : data.settings with
  | null => exact absurd field given
  | unset => simp [TenantUpdate.assignSettings, field, Users.Field.get?]
  | value settings => simp [TenantUpdate.assignSettings, field, Users.Field.get?]

/-- The column does not hold the name. -/
def nameUnheld (texts : Tenants.Texts) (data : TenantUpdate) : Bool :=
  data.name.get?.any fun name =>
    decide (255 < (texts.strip name).length) || !(texts.strip name).storable

/-- The column does not hold the settings. -/
def settingsUnheld (tenant : Tenant) (data : TenantUpdate) : Bool :=
  data.settings.get?.any fun given => !(given.merge (tenant.settings.getD .defaults)).storable

theorem nameUnheld_eq :
    (data.name.get?.isSome &&
      (decide (255 < ((data.name.get?.map texts.strip).getD tenant.name).length) ||
        !((data.name.get?.map texts.strip).getD tenant.name).storable)) =
      nameUnheld texts data := by
  unfold nameUnheld
  cases data.name with
  | unset => rfl
  | null => rfl
  | value name => rfl

theorem nameUnheld_iff : nameUnheld texts data = false ↔ ∀ name, data.name = .value name →
    (texts.strip name).length ≤ 255 ∧ (texts.strip name).storable = true := by
  rw [nameUnheld, any_get_false]
  simp only [Bool.or_eq_false_iff, decide_eq_false_iff_not, Nat.not_lt, Bool.not_eq_false']

theorem settingsUnheld_eq :
    (data.settings.get?.isSome && !((data.settings.get?.map fun given =>
      some (given.merge (tenant.settings.getD .defaults))).getD tenant.settings).all
        TenantSettings.storable) = settingsUnheld tenant data := by
  unfold settingsUnheld
  cases data.settings with
  | unset => rfl
  | null => rfl
  | value given => rfl

theorem settingsUnheld_iff : settingsUnheld tenant data = false ↔
    ∀ given, data.settings = .value given →
      (given.merge (tenant.settings.getD .defaults)).storable = true := by
  rw [settingsUnheld, any_get_false]
  simp only [Bool.not_eq_false']

/-- The row before the assignment of `max_assets`, which is the last one that refuses. -/
theorem assign_planned (name : data.name ≠ .null) (plan : data.plan ≠ .null) : ∃ planned,
    data.assign texts tenant = (do
      let tenant ← data.assignMaxAssets texts planned
      let tenant ← data.assignIsActive tenant
      let tenant ← data.assignSettings tenant
      Except.refuse (data.name.get?.isSome &&
        (decide (255 < tenant.name.length) || !tenant.name.storable)) internalError
      Except.refuse (data.settings.get?.isSome &&
        !tenant.settings.all TenantSettings.storable) internalError
      return tenant) ∧
    planned.plan = planOf tenant data ∧ planned.settings = tenant.settings ∧
    planned.name = (data.name.get?.map texts.strip).getD tenant.name := by
  have named := @assignName_ok texts tenant data name
  obtain ⟨maxAssets, planned⟩ := @assignPlan_ok texts { tenant with
    name := (data.name.get?.map texts.strip).getD tenant.name } data plan
  refine ⟨{ tenant with name := (data.name.get?.map texts.strip).getD tenant.name,
                        plan := planOf tenant data, maxAssets := maxAssets }, ?_, rfl, rfl, rfl⟩
  rw [TenantUpdate.assign, Except.bind_of_ok named, Except.bind_of_ok planned]
  rfl

theorem assign_refused (name : data.name ≠ .null) (refused : TenantRefused tenant data) :
    ∃ error, data.assign texts tenant = .error error ∧ (ofHttp error).Handled := by
  by_cases plan : data.plan = .null
  · refine ⟨invalidPlan "None", ?_, ofHttp_handled (by decide) (by decide)⟩
    rw [TenantUpdate.assign, Except.bind_of_ok (assignName_ok name)]
    simp only [TenantUpdate.assignPlan, plan, Except.error_bind]
  · obtain ⟨planned, chain, planEq, -, -⟩ := @assign_planned texts tenant data name plan
    have limited := refused.resolve_left plan
    rw [← planEq] at limited
    obtain ⟨error, raised, handled⟩ := @assignMaxAssets_refused texts planned data limited
    refine ⟨error, ?_, handled⟩
    rw [chain, raised, Except.error_bind]

/-- An update that is not refused comes to its flush, unless a field of it is null. -/
theorem assign_flushes (name : data.name ≠ .null) (accepted : ¬ TenantRefused tenant data)
    (maxAssets : data.maxAssets ≠ .null) (isActive : data.isActive ≠ .null)
    (settings : data.settings ≠ .null) :
    ∃ updated, data.assign texts tenant = (do
      Except.refuse (nameUnheld texts data) internalError
      Except.refuse (settingsUnheld tenant data) internalError
      return updated) := by
  simp only [TenantRefused, not_or, not_and, not_exists] at accepted
  obtain ⟨plan, known, within⟩ := accepted
  obtain ⟨planned, chain, planEq, settingsEq, nameEq⟩ :=
    @assign_planned texts tenant data name plan
  rw [← planEq] at known within
  obtain ⟨limit, bounded⟩ := @assignMaxAssets_ok texts planned data maxAssets known
    fun maxAssets limit given known => Int.not_lt.mp (within maxAssets limit given known)
  rw [chain, Except.bind_of_ok bounded, Except.bind_of_ok (assignIsActive_ok isActive),
    Except.bind_of_ok (assignSettings_ok settings)]
  simp only [nameEq, settingsEq, nameUnheld_eq, settingsUnheld_eq]
  exact ⟨_, rfl⟩

theorem assign_crashes (name : data.name ≠ .null) (accepted : ¬ TenantRefused tenant data)
    (null : data.maxAssets = .null ∨ data.isActive = .null ∨ data.settings = .null) :
    data.assign texts tenant = .error internalError := by
  simp only [TenantRefused, not_or, not_and, not_exists] at accepted
  obtain ⟨plan, known, within⟩ := accepted
  obtain ⟨planned, chain, planEq, -, -⟩ := @assign_planned texts tenant data name plan
  rw [← planEq] at known within
  rw [chain]
  by_cases maxAssets : data.maxAssets = .null
  · obtain ⟨limit, some⟩ := Option.ne_none_iff_exists'.mp (known (by simp [maxAssets]))
    rw [assignMaxAssets_null maxAssets some, Except.error_bind]
  · obtain ⟨limit, bounded⟩ := @assignMaxAssets_ok texts planned data maxAssets known
      fun maxAssets limit given known => Int.not_lt.mp (within maxAssets limit given known)
    rw [Except.bind_of_ok bounded]
    by_cases isActive : data.isActive = .null
    · simp only [TenantUpdate.assignIsActive, isActive, Except.error_bind]
    · have settings : data.settings = .null := (null.resolve_left maxAssets).resolve_left isActive
      rw [Except.bind_of_ok (assignIsActive_ok isActive)]
      simp only [TenantUpdate.assignSettings, settings, Except.error_bind]

end

section

variable {library : Library} {state : State} {tenantId : TenantId} {tenant : Tenant}
  {body data : TenantUpdate}

theorem assign_raisesOnly_iff :
    (data.assign library.tenants tenant).RaisesOnly (fun error => (ofHttp error).Handled) ↔
      TenantSound library tenant data := by
  rw [TenantSound]
  by_cases name : data.name = .null
  · have crashed : data.assign library.tenants tenant = .error internalError := by
      simp only [TenantUpdate.assign, TenantUpdate.assignName, name, Except.error_bind]
    rw [crashed, Except.raisesOnly_error]
    simp [name, internalError_not_handled]
  · by_cases refused : TenantRefused tenant data
    · obtain ⟨error, raised, handled⟩ := @assign_refused library.tenants tenant data name refused
      rw [raised, Except.raisesOnly_error]
      simp [name, refused, handled]
    · simp only [ne_eq, name, not_false_eq_true, refused, false_or, true_and]
      by_cases null : data.maxAssets = .null ∨ data.isActive = .null ∨ data.settings = .null
      · rw [assign_crashes name refused null, Except.raisesOnly_error]
        apply iff_of_false internalError_not_handled
        rintro ⟨maxAssets, isActive, settings, -⟩
        rcases null with null | null | null
        · exact maxAssets null
        · exact isActive null
        · exact settings null
      · push Not at null
        obtain ⟨maxAssets, isActive, settings⟩ := null
        obtain ⟨updated, flushes⟩ :=
          @assign_flushes library.tenants tenant data name refused maxAssets isActive settings
        have done : (pure updated : Except HttpError Tenant).RaisesOnly
            fun error => (ofHttp error).Handled := Except.raisesOnly_ok
        have flush (unheld : Bool) (rest : Unit → Except HttpError Tenant) :
            (Except.refuse unheld internalError >>= rest).RaisesOnly
                (fun error => (ofHttp error).Handled) ↔
              unheld = false ∧ (rest ()).RaisesOnly fun error => (ofHttp error).Handled :=
          Except.raisesOnly_refuse_bind internalError_not_handled
        rw [flushes, flush, flush, nameUnheld_iff, settingsUnheld_iff]
        constructor
        · intro held
          exact ⟨maxAssets, isActive, settings, held.1, held.2.1⟩
        · intro held
          exact ⟨held.2.2.2.1, held.2.2.2.2, done⟩

/-- A PATCH of a tenant that its schema accepts. -/
theorem updateTenant_raisesOnly_iff (valid : validateTenant library body = .ok data)
    (found : state.tenants.find tenantId = some tenant) :
    (updateTenant library state tenantId body).RaisesOnly Failure.Handled ↔
      TenantSound library tenant data := by
  simp only [updateTenant, valid, Except.ok_bind, found]
  rw [Except.raisesOnly_bind, Except.raisesOnly_mapError, assign_raisesOnly_iff]
  exact and_iff_left fun _ _ => Except.raisesOnly_ok

end

/-! A new tenant. -/

section

variable (library : Library) (state : State) (data : TenantCreate)

/-- The service gives no slug: that of the body is taken, or the name gives none, or one that is
taken with every suffix. -/
def SlugRefused : Prop :=
  match data.slug with
  | some slug => slug ∈ state.slugs
  | none => (∃ failure, generateSlug library data.name = .error failure) ∨
      ∃ baseSlug, generateSlug library data.name = .ok baseSlug ∧ baseSlug ∈ state.slugs ∧
        ∀ suffix, 2 ≤ suffix → suffix ≤ maxSlugAttempts → suffixed baseSlug suffix ∈ state.slugs

/-- The slug of the name is taken, and the first suffix that makes it too long for its column
comes before any that makes it free. -/
def SlugOverflows : Prop :=
  data.slug = none ∧ ∃ baseSlug, generateSlug library data.name = .ok baseSlug ∧
    baseSlug ∈ state.slugs ∧ ∃ suffix, 2 ≤ suffix ∧ suffix ≤ maxSlugAttempts ∧
      (∀ earlier, 2 ≤ earlier → earlier < suffix → suffixed baseSlug earlier ∈ state.slugs) ∧
      100 < (suffixed baseSlug suffix).length

/-- Where a POST of a tenant does not crash: its slug is not null, and it is refused, or its name,
its settings and its slug fit their columns. -/
def NewTenantSound (body : TenantCreateBody) : Prop :=
  body.slug ≠ .null ∧ ∀ data, body.validate library = .ok data →
    SlugRefused library state data ∨
      data.name.length ≤ 255 ∧ data.name.storable = true ∧ data.settings.storable = true ∧
        ¬ SlugOverflows library state data

end

section

variable {library : Library} {state : State} {data : TenantCreate}

theorem searchSlug_cases {slugs : List String} {baseSlug : String} (slug : String) (suffix : Nat) :
    slug ∉ slugs ∧ (searchSlug slugs baseSlug slug suffix).1 = .ok slug ∨
    slug ∈ slugs ∧ (∃ found, suffix ≤ found ∧ found ≤ maxSlugAttempts ∧
      (∀ earlier, suffix ≤ earlier → earlier < found → suffixed baseSlug earlier ∈ slugs) ∧
      suffixed baseSlug found ∉ slugs ∧
      (searchSlug slugs baseSlug slug suffix).1 = .ok (suffixed baseSlug found)) ∨
    slug ∈ slugs ∧ (∀ later, suffix ≤ later → later ≤ maxSlugAttempts →
      suffixed baseSlug later ∈ slugs) ∧
      (searchSlug slugs baseSlug slug suffix).1 = .error (.refused 409) := by
  fun_induction searchSlug slugs baseSlug slug suffix with
  | case1 slug suffix taken exhausted =>
      refine .inr (.inr ⟨taken, ?_, rfl⟩)
      intro later from_ to_
      omega
  | case2 slug suffix taken left result looked searched ih =>
      rw [searched] at ih
      refine .inr ?_
      rcases ih with ⟨free, returned⟩ | ⟨again, found, first, last, earlier, free, returned⟩ |
        ⟨again, every, raised⟩
      · refine .inl ⟨taken, suffix, le_refl suffix, by omega, ?_, free, returned⟩
        intro earlier from_ to_
        omega
      · refine .inl ⟨taken, found, by omega, last, ?_, free, returned⟩
        intro step from_ to_
        by_cases same : step = suffix
        · rw [same]
          exact again
        · exact earlier step (by omega) to_
      · refine .inr ⟨taken, ?_, raised⟩
        intro later from_ to_
        by_cases same : later = suffix
        · rw [same]
          exact again
        · exact every later (by omega) to_
  | case3 slug suffix free => exact .inl ⟨free, rfl⟩

theorem generateSlug_length {name slug : String} (given : generateSlug library name = .ok slug) :
    slug.length ≤ 100 := by
  unfold generateSlug at given
  simp only at given
  split at given
  next => cases given
  next =>
    rw [← Except.ok.inj given, String.length_ofList, List.length_take]
    omega

theorem generateSlug_error {name : String} {failure : Failure}
    (raised : generateSlug library name = .error failure) : failure.Handled := by
  unfold generateSlug at raised
  simp only at raised
  split at raised
  next =>
    rw [← Except.error.inj raised]
    exact ⟨by decide, by decide⟩
  next => cases raised

theorem chooseSlug_refused (refused : SlugRefused library state data) :
    ∃ failure, data.chooseSlug library state = .error failure ∧ failure.Handled := by
  have conflict : (Failure.refused 409).Handled := ⟨by decide, by decide⟩
  rw [SlugRefused] at refused
  rw [TenantCreate.chooseSlug]
  cases slug : data.slug with
  | some slug =>
      simp only [slug] at refused
      refine ⟨.refused 409, ?_, conflict⟩
      simp only [refused, decide_true]
      rfl
  | none =>
      simp only [slug] at refused
      rcases refused with ⟨failure, raised⟩ | ⟨baseSlug, given, taken, every⟩
      · exact ⟨failure, by simp only [raised, Except.error_bind], generateSlug_error raised⟩
      · refine ⟨.refused 409, ?_, conflict⟩
        rw [Except.bind_of_ok given]
        rcases @searchSlug_cases state.slugs baseSlug baseSlug 2 with ⟨free, -⟩ |
          ⟨-, found, first, last, -, free, -⟩ | ⟨-, -, raised⟩
        · exact absurd taken free
        · exact absurd (every found first last) free
        · exact raised

/-- The first suffix that is free and the first that is too long are the same, if any is. -/
theorem overflows_iff {baseSlug : String} {found : Nat}
    (given : generateSlug library data.name = .ok baseSlug) (taken : baseSlug ∈ state.slugs)
    (slug : data.slug = none) (first : 2 ≤ found) (last : found ≤ maxSlugAttempts)
    (earlier : ∀ earlier, 2 ≤ earlier → earlier < found → suffixed baseSlug earlier ∈ state.slugs)
    (free : suffixed baseSlug found ∉ state.slugs) :
    100 < (suffixed baseSlug found).length ↔ SlugOverflows library state data := by
  constructor
  · intro long
    exact ⟨slug, baseSlug, given, taken, found, first, last, earlier, long⟩
  · rintro ⟨-, other, given', -, suffix, first', last', earlier', long⟩
    cases given.symm.trans given'
    have stays : ¬ found < suffix := fun before => free (earlier' found first before)
    have comes : ¬ suffix < found := by
      intro before
      have short := state.slugStored (earlier suffix first' before)
      omega
    have same : suffix = found := by omega
    rw [← same]
    exact long

theorem chooseSlug_passes (accepted : ¬ SlugRefused library state data)
    (short : ∀ slug, data.slug = some slug → slug.length ≤ 100) :
    ∃ slug, data.chooseSlug library state = .ok slug ∧
      (100 < slug.length ↔ SlugOverflows library state data) := by
  rw [SlugRefused] at accepted
  rw [TenantCreate.chooseSlug]
  cases field : data.slug with
  | some slug =>
      simp only [field] at accepted
      refine ⟨slug, ?_, ?_⟩
      · simp only [accepted, decide_false]
        rfl
      · have fits := short slug field
        refine iff_of_false (by omega) ?_
        rintro ⟨none, -⟩
        rw [field] at none
        cases none
  | none =>
      simp only [field, not_or] at accepted
      obtain ⟨slugged, free⟩ := accepted
      cases given : generateSlug library data.name with
      | error failure => exact absurd ⟨failure, given⟩ slugged
      | ok baseSlug =>
          simp only [Except.ok_bind]
          rcases @searchSlug_cases state.slugs baseSlug baseSlug 2 with ⟨unused, passed⟩ |
            ⟨taken, found, first, last, earlier, unused, passed⟩ | ⟨taken, every, -⟩
          · refine ⟨baseSlug, passed, ?_⟩
            have fits := generateSlug_length given
            refine iff_of_false (by omega) ?_
            rintro ⟨-, other, given', taken, -⟩
            cases given.symm.trans given'
            exact unused taken
          · exact ⟨_, passed, overflows_iff given taken field first last earlier unused⟩
          · exact absurd ⟨baseSlug, given, taken, every⟩ free

/-- A slug of a valid body meets the checks of `slug_must_be_valid`. -/
theorem fields_validSlug {body : TenantCreateBody} (read : body.fields library = some data) :
    ∀ slug, data.slug = some slug →
      library.assets.reMatch slugRe slug = true ∧ 3 ≤ slug.length ∧ slug.length ≤ 100 := by
  intro slug field
  simp only [TenantCreateBody.fields, bind, Option.bind_eq_some_iff] at read
  obtain ⟨name, -, given, valid, plan, -, maxAssets, -, settings, -, done⟩ := read
  split at done
  next => cases done
  next =>
    cases done
    change given = some slug at field
    subst field
    cases sent : body.slug with
    | unset => rw [sent] at valid; cases valid
    | null => rw [sent] at valid; cases valid
    | illTyped => rw [sent] at valid; cases valid
    | value text =>
        rw [sent, Sent.read, validateSlug] at valid
        split at valid
        next accepted =>
          cases valid
          exact accepted
        next => cases valid

theorem fields_slug {body : TenantCreateBody} (read : body.fields library = some data) :
    ∀ slug, data.slug = some slug → slug.length ≤ 100 :=
  fun slug field => (fields_validSlug read slug field).2.2

/-- The flush of a new tenant. -/
theorem insert_raisesOnly_iff {slug : String}
    (overflows : 100 < slug.length ↔ SlugOverflows library state data) {row : NewTenant} :
    (do
      Except.refuse (!data.name.storable || decide (255 < data.name.length)) .crashed
      Except.refuse (decide (100 < slug.length)) .crashed
      Except.refuse (!data.settings.storable) .crashed
      return some row : Reply (Option NewTenant)).RaisesOnly Failure.Handled ↔
      data.name.length ≤ 255 ∧ data.name.storable = true ∧ data.settings.storable = true ∧
        ¬ SlugOverflows library state data := by
  rw [Except.raisesOnly_refuse_bind id, Except.raisesOnly_refuse_bind id,
    Except.raisesOnly_refuse_bind id, ← overflows]
  have done : (return some row : Reply (Option NewTenant)).RaisesOnly Failure.Handled :=
    Except.raisesOnly_ok
  simp only [done, and_true, Bool.or_eq_false_iff, Bool.not_eq_false', decide_eq_false_iff_not,
    Nat.not_lt]
  tauto

/-- A POST of a tenant. -/
theorem createTenant_raisesOnly_iff {body : TenantCreateBody} :
    (createTenant library state body).RaisesOnly Failure.Handled ↔
      NewTenantSound library state body := by
  rw [NewTenantSound, createTenant]
  by_cases null : body.slug = .null
  · have crashed : body.validate library = .error .crashed := by
      rw [TenantCreateBody.validate, if_pos null]
    rw [crashed, Except.error_bind, Except.raisesOnly_error]
    simp [null, Failure.Handled]
  · have valid : body.validate library = (body.fields library).elim (.error unprocessable) .ok := by
      rw [TenantCreateBody.validate, if_neg null]
    cases read : body.fields library with
    | none =>
        rw [valid, read, Option.elim_none, Except.error_bind, Except.raisesOnly_error]
        refine iff_of_true ⟨by decide, by decide⟩ ⟨null, ?_⟩
        rintro data ⟨⟩
    | some data =>
        rw [valid, read, Option.elim_some, Except.ok_bind]
        have only : (∀ data' : TenantCreate, (Except.ok data : Except Failure TenantCreate) =
            .ok data' → SlugRefused library state data' ∨ data'.name.length ≤ 255 ∧
              data'.name.storable = true ∧ data'.settings.storable = true ∧
                ¬ SlugOverflows library state data') ↔
            SlugRefused library state data ∨ data.name.length ≤ 255 ∧
              data.name.storable = true ∧ data.settings.storable = true ∧
                ¬ SlugOverflows library state data := by
          simp
        simp only [ne_eq, null, not_false_eq_true, true_and]
        rw [only]
        by_cases refused : SlugRefused library state data
        · obtain ⟨failure, raised, handled⟩ := chooseSlug_refused refused
          rw [raised, Except.error_bind, Except.raisesOnly_error]
          exact iff_of_true handled (.inl refused)
        · obtain ⟨slug, passed, overflows⟩ := chooseSlug_passes refused (fields_slug read)
          obtain ⟨limit, planned⟩ := @planToMaxAssets_plan library.tenants data.plan
          rw [passed, Except.ok_bind, planned, Except.mapError, Except.ok_bind,
            insert_raisesOnly_iff overflows]
          simp [refused]

end

end Payloads

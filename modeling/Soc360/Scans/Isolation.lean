import Soc360.Scans.Lifecycle
import Soc360.Store.Scoped

set_option autoImplicit false

namespace Scans

/-- The scans of one tenant are the same in both tables. -/
abbrev AgreeScans (tenantId : TenantId) : Table ScanId Scan → Table ScanId Scan → Prop :=
  Table.Agree Scan.tenantId tenantId

section

variable {scanId : ScanId} {tenantId : TenantId} {first second : Table ScanId Scan}
  {scan : Scan} {change : ScanChange} {data : ScanUpdate} {limit : Int} {now : Timestamp}
  {repr : String → String}

/-- No statement moves a scan to another tenant. -/
theorem onKeys_tenantId {selected : ScanId → Bool} {key : ScanId} {after : Scan}
    (changed : change.onKeys selected key scan = some after) : after.tenantId = scan.tenantId := by
  unfold ScanChange.onKeys at changed
  split at changed
  next =>
    obtain ⟨_, rfl⟩ := act_some.mp changed
    cases change <;> rfl
  next => cases changed

theorem onKeys_other {key : ScanId} (differ : key ≠ scanId) :
    change.onKeys (· == scanId) key scan = none :=
  if_neg fun same => differ (eq_of_beq same)

theorem update_agree (agree : AgreeScans tenantId first second) :
    AgreeScans tenantId (first.update (change.onKeys (· == scanId)))
      (second.update (change.onKeys (· == scanId))) :=
  agree.update (fun _ _ _ _ => rfl) (fun _ _ _ _ changed => onKeys_tenantId changed)
    (fun _ _ _ _ changed => onKeys_tenantId changed)

/-- A call for one tenant leaves the scans of the others alone, and adds none. -/
structure Spares (tenantId : TenantId) (first second : Table ScanId Scan) : Prop where
  frame : ∀ other, other ≠ tenantId → AgreeScans other first second
  rows : ∀ id scan, second.find id = some scan →
    ∃ before, first.find id = some before ∧ before.tenantId = scan.tenantId

theorem Spares.refl : Spares tenantId first first :=
  ⟨fun _ _ => .refl, fun _ scan found => ⟨scan, found, rfl⟩⟩

/-- So does a statement on a scan of the tenant. -/
theorem update_spares (found : first.find scanId = some scan) (own : scan.tenantId = tenantId) :
    Spares tenantId first (first.update (change.onKeys (· == scanId))) := by
  refine ⟨?_, ?_⟩
  · intro other differ
    refine Table.Agree.of_update ?_ fun _ _ _ _ changed => onKeys_tenantId changed
    intro key row there its
    refine onKeys_other ?_
    rintro rfl
    rw [found] at there
    cases there
    exact differ (its.symm.trans own)
  · intro id after stored
    rw [Table.find_update] at stored
    obtain ⟨before, there, rfl⟩ := Option.map_eq_some_iff.mp stored
    refine ⟨before, there, ?_⟩
    cases changed : change.onKeys (· == scanId) id before with
    | none => rfl
    | some after => exact (onKeys_tenantId changed).symm

theorem delete_spares (found : first.find scanId = some scan) (own : scan.tenantId = tenantId) :
    Spares tenantId first (first.delete scanId) := by
  refine ⟨?_, ?_⟩
  · intro other differ
    refine Table.Agree.of_delete found ?_
    intro its
    exact differ (its.symm.trans own)
  · intro id after stored
    rw [Table.find_delete] at stored
    split at stored
    next => cases stored
    next => exact ⟨after, stored, rfl⟩

theorem rowcount_agree (agree : AgreeScans tenantId first second) (listed : first.Listed)
    (listed' : second.Listed) (found : first.find scanId = some scan)
    (own : scan.tenantId = tenantId) :
    first.rowcount (change.onKeys (· == scanId)) =
      second.rowcount (change.onKeys (· == scanId)) := by
  have names : ∀ {table : Table ScanId Scan}, table.find scanId = some scan →
      ∀ key row, table.find key = some row →
        (change.onKeys (· == scanId) key row).isSome = true → row.tenantId = tenantId := by
    intro table stored key row there written
    by_cases same : key = scanId
    · subst same
      rw [stored] at there
      cases there
      exact own
    · rw [onKeys_other same] at written
      cases written
  exact agree.rowcount listed listed' (names found) (names (agree.find found own))

theorem updated_row {selected : ScanId → Bool} (found : first.find scanId = some scan)
    (found' : second.find scanId = some scan) :
    (first.update (change.onKeys selected)).find scanId =
      (second.update (change.onKeys selected)).find scanId := by
  rw [Table.find_update, Table.find_update, found, found']

theorem openNameTaken_agree (agree : AgreeScans tenantId first second) (listed : first.Listed)
    (listed' : second.Listed) (assetId : AssetId) (name : String) :
    openNameTaken first scanId tenantId assetId name =
      openNameTaken second scanId tenantId assetId name := by
  have shape : ∀ table : Table ScanId Scan, openNameTaken table scanId tenantId assetId name =
      table.keys.any fun key => (table.slot key).satisfies fun row =>
        key != scanId && (row.status == .pending && row.tenantId == tenantId &&
          row.assetId == assetId && row.name == name) := by
    intro table
    unfold openNameTaken
    congr 1
    funext key
    cases table.slot key <;> simp
  rw [shape, shape]
  refine agree.any listed listed' ?_
  intro key row matched
  simp only [Bool.and_eq_true, beq_iff_eq] at matched
  exact matched.2.1.1.2

theorem getScan_own (found : getScan scanId (some tenantId) first = some scan) :
    first.find scanId = some scan ∧ scan.tenantId = tenantId := Table.visible_some.mp found

theorem getScan_agree (agree : AgreeScans tenantId first second) :
    getScan scanId (some tenantId) first = getScan scanId (some tenantId) second :=
  agree.visible scanId

theorem updateScan_agree (agree : AgreeScans tenantId first second) (listed : first.Listed)
    (listed' : second.Listed) :
    (updateScan scanId (some tenantId) data (.start first)).1 =
        (updateScan scanId (some tenantId) data (.start second)).1 ∧
      AgreeScans tenantId (updateScan scanId (some tenantId) data (.start first)).2.committed
        (updateScan scanId (some tenantId) data (.start second)).2.committed := by
  unfold updateScan
  simp only [Session.start]
  rw [getScan_agree agree]
  cases found : getScan scanId (some tenantId) second with
  | none => exact ⟨rfl, agree⟩
  | some scan =>
      have own := (getScan_own found).2
      simp only
      cases validateScanConfig (data.candidate scan).type (configJson (data.candidate scan).config)
        with
      | error message => exact ⟨rfl, agree⟩
      | ok normalised =>
          simp only
          cases (data.candidate scan).name with
          | none => exact ⟨rfl, agree⟩
          | some name =>
              simp only [own]
              rw [openNameTaken_agree agree listed listed']
              split
              next => exact ⟨rfl, agree⟩
              next => exact ⟨rfl, update_agree agree⟩

theorem updateScan_spares :
    Spares tenantId first (updateScan scanId (some tenantId) data (.start first)).2.committed := by
  unfold updateScan
  split
  next => exact .refl
  next scan found =>
    obtain ⟨stored, own⟩ := getScan_own found
    simp only
    split
    next => exact .refl
    next =>
      split
      next => exact .refl
      next =>
        split
        next => exact .refl
        next => exact update_spares stored own

/-- `dispatch_scan` in a transaction of its own. -/
theorem dispatchScan_start (table : Table ScanId Scan) (scope : Option TenantId) :
    dispatchScan scanId scope limit now (.start table) =
      match getScan scanId scope table with
      | none => (.ok none, .start table)
      | some scan =>
          let dispatched := table.update ((ScanChange.dispatch now).onKeys (· == scanId))
          if table.rowcount ((ScanChange.dispatch now).onKeys (· == scanId)) = 0 then
            (.error .notDispatchable, .start table)
          else if limit < dispatched.count (Scan.counted scan.tenantId (dayStart now)) then
            (.error .quotaExceeded, .start table)
          else (.ok (dispatched.find scanId), .start dispatched) := rfl

theorem dispatchScan_agree (agree : AgreeScans tenantId first second) (listed : first.Listed)
    (listed' : second.Listed) :
    (dispatchScan scanId (some tenantId) limit now (.start first)).1 =
        (dispatchScan scanId (some tenantId) limit now (.start second)).1 ∧
      AgreeScans tenantId
        (dispatchScan scanId (some tenantId) limit now (.start first)).2.committed
        (dispatchScan scanId (some tenantId) limit now (.start second)).2.committed := by
  rw [dispatchScan_start, dispatchScan_start, getScan_agree agree]
  cases found : getScan scanId (some tenantId) second with
  | none => exact ⟨rfl, agree⟩
  | some scan =>
      obtain ⟨stored', own⟩ := getScan_own found
      have stored := agree.symm.find stored' own
      have counted : (first.update ((ScanChange.dispatch now).onKeys (· == scanId))).count
          (Scan.counted scan.tenantId (dayStart now)) =
            (second.update ((ScanChange.dispatch now).onKeys (· == scanId))).count
              (Scan.counted scan.tenantId (dayStart now)) := by
        refine (update_agree agree).count (listed.update _) (listed'.update _) ?_
        intro row matched
        simp only [Scan.counted, Bool.and_eq_true, beq_iff_eq] at matched
        exact matched.1.1.trans own
      have same : first.rowcount ((ScanChange.dispatch now).onKeys (· == scanId)) =
          second.rowcount ((ScanChange.dispatch now).onKeys (· == scanId)) :=
        rowcount_agree agree listed listed' stored own
      simp only
      rw [same, counted, updated_row stored stored']
      split
      next => exact ⟨rfl, agree⟩
      next =>
        split
        next => exact ⟨rfl, agree⟩
        next => exact ⟨rfl, update_agree agree⟩

theorem dispatchScan_spares :
    Spares tenantId first
      (dispatchScan scanId (some tenantId) limit now (.start first)).2.committed := by
  unfold dispatchScan
  split
  next => exact .refl
  next scan found =>
    obtain ⟨stored, own⟩ := getScan_own found
    simp only
    split
    next => exact .refl
    next =>
      split
      next => exact .refl
      next => exact update_spares stored own

/-- The arguments of the UPDATE of `cancel_scan`. -/
theorem checkTransition_cancelled (repr : String → String) :
    ∃ args, checkTransition repr "cancelled" none none = .ok args := by
  have status : ScanStatus.ofString? "cancelled" = some .cancelled := by decide
  unfold checkTransition
  rw [status]
  simp only
  rw [dif_neg (by decide), dif_neg (by decide), dif_neg (by decide), dif_neg (by decide),
    dif_neg (by decide)]
  exact ⟨_, rfl⟩

theorem cancelScan_agree (agree : AgreeScans tenantId first second) (listed : first.Listed)
    (listed' : second.Listed) :
    (cancelScan repr scanId (some tenantId) now (.start first)).1 =
        (cancelScan repr scanId (some tenantId) now (.start second)).1 ∧
      AgreeScans tenantId (cancelScan repr scanId (some tenantId) now (.start first)).2.committed
        (cancelScan repr scanId (some tenantId) now (.start second)).2.committed := by
  obtain ⟨args, passed⟩ := checkTransition_cancelled repr
  unfold cancelScan transitionScan
  simp only [Session.start, Session.update, passed]
  rw [getScan_agree agree]
  cases found : getScan scanId (some tenantId) second with
  | none => exact ⟨rfl, agree⟩
  | some scan =>
      obtain ⟨stored', own⟩ := getScan_own found
      have stored := agree.symm.find stored' own
      simp only [rowcount_agree agree listed listed' stored own]
      cases second.rowcount ((ScanChange.transition args now).onKeys (· == scanId)) == 1 with
      | false => exact ⟨rfl, agree⟩
      | true =>
          exact ⟨congrArg Except.ok (updated_row stored stored'), update_agree agree⟩

theorem cancelScan_spares :
    Spares tenantId first
      (cancelScan repr scanId (some tenantId) now (.start first)).2.committed := by
  obtain ⟨args, passed⟩ := checkTransition_cancelled repr
  unfold cancelScan transitionScan
  simp only [Session.start, Session.update, passed]
  cases found : getScan scanId (some tenantId) first with
  | none => exact .refl
  | some scan =>
      obtain ⟨stored, own⟩ := getScan_own found
      simp only
      cases first.rowcount ((ScanChange.transition args now).onKeys (· == scanId)) == 1 with
      | false => exact .refl
      | true => exact update_spares stored own

theorem deleteScan_agree (agree : AgreeScans tenantId first second) :
    AgreeScans tenantId (deleteScan scanId (some tenantId) (.start first)).2.committed
      (deleteScan scanId (some tenantId) (.start second)).2.committed := by
  unfold deleteScan
  simp only [Session.start]
  rw [getScan_agree agree]
  cases getScan scanId (some tenantId) second with
  | none => exact agree
  | some scan => exact agree.delete

theorem deleteScan_spares :
    Spares tenantId first (deleteScan scanId (some tenantId) (.start first)).2.committed := by
  unfold deleteScan
  simp only [Session.start]
  cases found : getScan scanId (some tenantId) first with
  | none => exact .refl
  | some scan =>
      obtain ⟨stored, own⟩ := getScan_own found
      exact delete_spares stored own

end

end Scans

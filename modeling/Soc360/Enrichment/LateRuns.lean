import Soc360.Enrichment.Runs

set_option autoImplicit false

namespace Enrichment

open Scans (TenantId Timestamp)
open Vulnerabilities (Vulnerability VulnerabilityId)

/-- The identity of the data that a vulnerability has now, for a model and a language. -/
def currentIdentity (texts : Texts) (world : World) (vulnerabilityId : VulnerabilityId)
    (function model language : String) : Option Identity :=
  match world.vulnerabilities vulnerabilityId, promptVersions function with
  | some vulnerability, some version =>
      some ⟨inputHash texts (.fromVulnerability vulnerability) language, version, model⟩
  | _, _ => none

/-- What a row says of its identity. -/
def CachedEnrichment.Has (row : CachedEnrichment) (identity : Identity) : Prop :=
  row.inputHash = some identity.inputHash ∧ row.promptVersion = some identity.promptVersion ∧
    row.model = some identity.model

section

variable {texts : Texts} {world next : World} {label : Label} {row written : CachedEnrichment}
  {identity other : Identity} {outcome : Outcome} {clock now : Timestamp}
  {vulnerabilityId : VulnerabilityId} {tenantId : TenantId} {function : String}

theorem CachedEnrichment.Has.unique (has : row.Has identity) (has' : row.Has other) :
    identity = other := by
  obtain ⟨hash, version, model⟩ := has
  obtain ⟨hash', version', model'⟩ := has'
  cases identity
  cases other
  simp_all

/-- Only a commit changes rows. -/
theorem rows_step (taken : step texts world label = some next) :
    next.rows = world.rows ∨ ∃ task snapshot outputs versions, label = .commit task ∧
      world.stage task = .writing snapshot outputs [] versions ∧
      next = (world.publish snapshot.call.vulnerabilityId versions).release task := by
  cases step_moved taken with
  | commit task snapshot outputs versions stage =>
      exact .inr ⟨task, snapshot, outputs, versions, rfl, stage, rfl⟩
  | refused task call => exact .inl rfl
  | start task call => exact .inl rfl
  | unfound task call => exact .inl rfl
  | load task call vulnerability level => exact .inl rfl
  | unbuilt task call vulnerability level => exact .inl rfl
  | read task call vulnerability level functions => exact .inl rfl
  | call task function snapshot called outputs => exact .inl rfl
  | answer task function text snapshot called outputs spec => exact .inl rfl
  | fail task function error snapshot called outputs spec => exact .inl rfl
  | gather task snapshot called outputs => exact .inl rfl
  | timeout task snapshot called outputs => exact .inl rfl
  | upsert task clock now snapshot outputs function todo written outcome spec => exact .inl rfl
  | unsettled task clock now snapshot outputs function todo written => exact .inl rfl
  | rollback task => exact .inl rfl
  | edit vulnerabilityId columns row => exact .inl rfl

/-- An upsert gives the row its own identity and result. -/
theorem upsert_has {found : Option CachedEnrichment}
    (upserted : (values vulnerabilityId tenantId function other outcome clock).upsert outcome now
      found = some written) :
    written.Has other ∧ written.status = outcome.status ∧ written.error = outcome.error := by
  cases found with
  | none =>
      cases upserted
      exact ⟨⟨rfl, rfl, rfl⟩, rfl, rfl⟩
  | some row =>
      cases outcome with
      | succeeded content =>
          cases upserted
          exact ⟨⟨rfl, rfl, rfl⟩, rfl, rfl⟩
      | failed reason =>
          simp only [CachedEnrichment.upsert] at upserted
          split at upserted
          next => cases upserted
          next =>
            cases upserted
            exact ⟨⟨rfl, rfl, rfl⟩, rfl, rfl⟩

/-- A failure that gets past an `ok` row has another identity, and leaves the content. -/
theorem upsert_failed {reason : String} (ok : row.IsOkFor identity)
    (upserted : (values vulnerabilityId tenantId function other (.failed reason) clock).upsert
      (.failed reason) now (some row) = some written) :
    other ≠ identity ∧ written.content = row.content := by
  have present : row.inputHash.isSome ∧ row.promptVersion.isSome ∧ row.model.isSome := by
    obtain ⟨_, hash, version, model⟩ := ok
    simp [hash, version, model]
  simp only [CachedEnrichment.upsert] at upserted
  split at upserted
  next => cases upserted
  next passed =>
    cases upserted
    refine ⟨?_, rfl⟩
    intro same
    apply passed
    rw [stops_iff present, same]
    exact ok

/-- The version of a row that a commit publishes is what the upsert of its run made of the row. -/
theorem committed_version {task : Nat} {snapshot : Snapshot}
    {outputs : List (String × Loaded × Bool)} {versions : List (String × CachedEnrichment)}
    (sound : Sound texts world) (stage : world.stage task = .writing snapshot outputs [] versions)
    (found : ((world.publish snapshot.call.vulnerabilityId versions).release task).rows
      (vulnerabilityId, function) = some written) :
    world.rows (vulnerabilityId, function) = some written ∨
      snapshot.call.vulnerabilityId = vulnerabilityId ∧
        Pending texts world task snapshot outputs function written := by
  have staged := sound.staged task
  rw [stage] at staged
  obtain ⟨_, _, _, pending⟩ := staged
  rcases publish_rows found with ⟨own, member⟩ | before
  · exact .inr ⟨own.symm, pending _ member⟩
  · exact .inl before

/-- No row goes away. -/
theorem rows_kept (taken : step texts world label = some next) {key : Key}
    (found : world.rows key = some row) : ∃ written, next.rows key = some written := by
  rcases rows_step taken with same | ⟨task, snapshot, outputs, versions, _, _, rfl⟩
  · exact ⟨row, same ▸ found⟩
  · change ∃ written, (world.publish snapshot.call.vulnerabilityId versions).rows key = some written
    simp only [World.publish]
    split
    next =>
      cases versions.lookup key.2 with
      | none => exact ⟨row, found⟩
      | some version => exact ⟨version, rfl⟩
    next => exact ⟨row, found⟩

/-- A row that is `ok` for the current data is left alone by a failure with its identity, and stays
`ok` with its identity after a success with it. A run with another identity takes the row over,
and then the function is due again. -/
theorem late_upsert {model language : String} (reached : (machine texts).Reachable world)
    (taken : step texts world label = some next)
    (found : world.rows (vulnerabilityId, function) = some row)
    (current : currentIdentity texts world vulnerabilityId function model language = some identity)
    (ok : row.IsOkFor identity) :
    next.rows (vulnerabilityId, function) = some row ∨
      ∃ task snapshot outputs versions spec outcome written,
        label = .commit task ∧ world.stage task = .writing snapshot outputs [] versions ∧
        snapshot.call.vulnerabilityId = vulnerabilityId ∧
        snapshot.spec texts function = .ok spec ∧
        settle texts snapshot.finding (outputs.lookup function) = some outcome ∧
        next.rows (vulnerabilityId, function) = some written ∧
        (snapshot.identity texts spec = identity →
          ∃ content, outcome = .succeeded content ∧ written.IsOkFor identity ∧
            written.error = none) ∧
        (snapshot.identity texts spec ≠ identity →
          written.Has (snapshot.identity texts spec) ∧ written.status = outcome.status ∧
          written.error = outcome.error ∧
          (∀ reason, outcome = .failed reason → written.content = row.content) ∧
          ∀ functions existing onlyFunctions, function ∈ targets functions onlyFunctions →
            existing function = some written →
            function ∈ dueFunctions functions existing identity.inputHash identity.model
              onlyFunctions) := by
  obtain ⟨written, after⟩ := rows_kept taken found
  rcases rows_step taken with same | ⟨task, snapshot, outputs, versions, commit, stage, rfl⟩
  · exact .inl (same ▸ found)
  rcases committed_version (Sound.reachable reached) stage after with before | ⟨own, pending⟩
  · cases found.symm.trans before
    exact .inl after
  obtain ⟨_, outcome, spec, clock, now, settled, built, upserted⟩ := pending
  rw [own, found] at upserted
  obtain ⟨has, status, error⟩ := upsert_has upserted
  refine .inr ⟨task, snapshot, outputs, versions, spec, outcome, written, commit, stage, own, built,
    settled, after, ?_, ?_⟩
  · intro same
    cases outcome with
    | succeeded content => exact ⟨content, rfl, ⟨status, same ▸ has⟩, error⟩
    | failed reason => exact absurd same (upsert_failed ok upserted).1
  · intro differ
    refine ⟨has, status, error, ?_, ?_⟩
    · rintro reason rfl
      exact (upsert_failed ok upserted).2
    · intro functions existing onlyFunctions targeted stored
      have version : promptVersions function = some identity.promptVersion := by
        unfold currentIdentity at current
        split at current
        next listed =>
          cases current
          exact listed
        next => cases current
      refine (mem_dueFunctions version).mpr ⟨targeted, ?_⟩
      intro other there ok'
      cases stored.symm.trans there
      exact differ (has.unique ok'.2)

end

/-! One run reads the finding before its description changes, another one after. -/

def overlapping : List Label :=
  snapshotOf 1 ++ [.edit 7 newBanner] ++ snapshotOf 2 ++ generate 2 "Update it." ++ [.commit 2] ++
    generate 1 "Fix it."

def newIdentity : Identity :=
  ⟨"344cff0626482a895cd67633b28b5f5fa51048a6ce18b805fdffcf956b8eff2e", "1", "gpt-4o"⟩

set_option maxRecDepth 4000 in
theorem overlapping_run :
    ∃ world next row written, (machine plainTexts).Reachable world ∧
      step plainTexts world (.commit 1) = some next ∧
      world.rows (7, "remediation") = some row ∧
      currentIdentity plainTexts world 7 "remediation" "gpt-4o" "en" = some newIdentity ∧
      row.IsOkFor newIdentity ∧ next.rows (7, "remediation") = some written ∧
      row.content = some "Update it." ∧ written.content = some "Fix it." ∧
      written.inputHash =
        some "354b1a76758c10216ad71f3d876c0f073a9033fc9eacb15139351b8d6447d2a7" := by
  have run : ∃ world next row written,
      (machine plainTexts).exec servers overlapping = some world ∧
      step plainTexts world (.commit 1) = some next ∧
      world.rows (7, "remediation") = some row ∧
      currentIdentity plainTexts world 7 "remediation" "gpt-4o" "en" = some newIdentity ∧
      row.IsOkFor newIdentity ∧ next.rows (7, "remediation") = some written ∧
      row.content = some "Update it." ∧ written.content = some "Fix it." ∧
      written.inputHash =
        some "354b1a76758c10216ad71f3d876c0f073a9033fc9eacb15139351b8d6447d2a7" :=
    ⟨_, _, _, _, rfl, rfl, rfl, rfl, ⟨rfl, rfl, rfl, rfl⟩, rfl, rfl, rfl, rfl⟩
  obtain ⟨world, next, row, written, run, rest⟩ := run
  exact ⟨world, next, row, written, Machine.Reachable.exec (.start ⟨_, _, rfl⟩) run, rest⟩

/-- The late success puts the content and the identity of the old description in the place of
those of the current one. -/
theorem late_success_overwrites :
    ∃ world next row written, (machine plainTexts).Reachable world ∧
      step plainTexts world (.commit 1) = some next ∧
      world.rows (7, "remediation") = some row ∧
      currentIdentity plainTexts world 7 "remediation" "gpt-4o" "en" = some newIdentity ∧
      row.IsOkFor newIdentity ∧ next.rows (7, "remediation") = some written ∧
      row.content = some "Update it." ∧ written.content = some "Fix it." ∧
      written.inputHash ≠ row.inputHash := by
  obtain ⟨world, next, row, written, reached, taken, found, current, ok, after, content, content',
    hash⟩ := overlapping_run
  refine ⟨world, next, row, written, reached, taken, found, current, ok, after, content, content', ?_⟩
  rw [hash, ok.2.1]
  decide

/-- After it, the function is due. -/
theorem late_upsert_due_again :
    ∃ written, "remediation" ∈ dueFunctions basicFunctions (fun _ => some written)
      newIdentity.inputHash newIdentity.model none := by
  obtain ⟨world, next, row, written, reached, taken, found, current, ok, after, content, content',
    hash⟩ := overlapping_run
  refine ⟨written, ?_⟩
  rcases late_upsert reached taken found current ok with
    kept | ⟨_, _, _, _, _, _, other, _, _, _, _, _, after', same, differ⟩
  · cases after.symm.trans kept
    exact absurd (content.symm.trans content') (by decide)
  · cases after.symm.trans after'
    refine (differ ?_).2.2.2.2 _ _ _ ?_ rfl
    · intro identity
      obtain ⟨_, _, ok', _⟩ := same identity
      exact absurd (hash.symm.trans ok'.2.1) (by decide)
    · decide

end Enrichment

import Soc360.Nmap.Markers
import Soc360.Store.Firsts
import Soc360.Vulnerabilities.Identity

set_option autoImplicit false

namespace Vulnerabilities

open Firsts (firsts newcomers)
open Nmap (NmapReport Unicode extractFindings)

structure UpsertVulnerabilitiesResult where
  created : Nat
  updated : Nat
  skipped : Nat
  deriving DecidableEq, Repr

section

variable (texts : Texts)

/-- `upsert_findings`. The flush fails where a new key is taken. -/
def upsertFindings (call : UpsertFindings) (table : VulnerabilityTable) :
    Option (VulnerabilityTable × UpsertVulnerabilitiesResult) :=
  let state := call.loop texts table
  ((requests texts).insertAll state.rows table).map fun after =>
    (after, ⟨state.created, 0, state.skipped⟩)

/-- The variables of the loop of `dedup_node`. -/
structure Deduplicating where
  seen : List String
  kept : List FindingDraft
  skipped : Nat

def Deduplicating.turn (state : Deduplicating) (finding : FindingDraft) : Deduplicating :=
  let key := finding.identity texts
  if key ∈ state.seen then { state with skipped := state.skipped + 1 }
  else ⟨key :: state.seen, state.kept ++ [finding], state.skipped⟩

/-- `dedup_node`: the findings that are kept, and how many are not. -/
def dedupNode (findings : List FindingDraft) : List FindingDraft × Nat :=
  let state := findings.foldl (Deduplicating.turn texts) ⟨[], [], 0⟩
  (state.kept, state.skipped)

end

section

variable {texts : Texts} {call : UpsertFindings} {table after : VulnerabilityTable}
  {drafts : List (VulnerabilityId × FindingDraft)} {id : VulnerabilityId} {row : Vulnerability}

/-- The row of a draft whose severity is canonical. -/
def UpsertFindings.stored (call : UpsertFindings) (draft : FindingDraft) : Vulnerability :=
  call.row draft ((VulnerabilitySeverity.ofString? draft.severity).getD .info)

section

variable {state : Upserting} {draft : FindingDraft} {severity : VulnerabilitySeverity}

theorem UpsertFindings.turn_old
    (valid : VulnerabilitySeverity.ofString? draft.severity = some severity)
    (old : draft.identity texts ∈ state.seen) :
    call.turn texts state (id, draft) = { state with skipped := state.skipped + 1 } := by
  simp only [UpsertFindings.turn, valid, old, ↓reduceIte]

theorem UpsertFindings.turn_new
    (valid : VulnerabilitySeverity.ofString? draft.severity = some severity)
    (new : draft.identity texts ∉ state.seen) :
    call.turn texts state (id, draft) =
      ⟨draft.identity texts :: state.seen, state.rows ++ [(id, call.row draft severity)],
        state.created + 1, state.skipped⟩ := by
  simp only [UpsertFindings.turn, valid, new, ↓reduceIte]

end

/-- The drafts whose identity is new, each with its key. -/
def newDrafts (texts : Texts) (seen : List String) (drafts : List (VulnerabilityId × FindingDraft)) :
    List (VulnerabilityId × FindingDraft) :=
  firsts (fun entry => entry.2.identity texts) seen drafts

/-- The loop adds the rows of the drafts whose identity is new, and counts all drafts. -/
theorem UpsertFindings.loop_eq {state : Upserting}
    (canonical : ∀ entry ∈ drafts,
      (VulnerabilitySeverity.ofString? entry.2.severity).isSome = true) :
    let ended := drafts.foldl (call.turn texts) state
    let kept := newDrafts texts state.seen drafts
    ended.rows = state.rows ++ kept.map (fun entry => (entry.1, call.stored entry.2)) ∧
      ended.created = state.created + kept.length ∧
      ended.created + ended.skipped = state.created + state.skipped + drafts.length := by
  induction drafts generalizing state with
  | nil => simp [newDrafts, firsts]
  | cons entry drafts ih =>
      obtain ⟨id, draft⟩ := entry
      obtain ⟨severity, found⟩ := Option.isSome_iff_exists.mp (canonical _ List.mem_cons_self)
      have rest := @ih (call.turn texts state (id, draft))
        fun entry member => canonical entry (List.mem_cons_of_mem _ member)
      rw [List.foldl_cons]
      by_cases old : draft.identity texts ∈ state.seen
      · have kept : newDrafts texts state.seen ((id, draft) :: drafts) =
            newDrafts texts state.seen drafts := Firsts.firsts_cons_seen old
        rw [UpsertFindings.turn_old found old] at rest ⊢
        rw [kept]
        obtain ⟨rows, created, total⟩ := rest
        refine ⟨rows, created, ?_⟩
        rw [total]
        simp only [List.length_cons]
        omega
      · have stored : call.stored draft = call.row draft severity := by
          simp only [UpsertFindings.stored, found, Option.getD_some]
        have kept : newDrafts texts state.seen ((id, draft) :: drafts) =
            (id, draft) :: newDrafts texts (draft.identity texts :: state.seen) drafts :=
          Firsts.firsts_cons_new old
        rw [UpsertFindings.turn_new found old] at rest ⊢
        rw [kept]
        obtain ⟨rows, created, total⟩ := rest
        refine ⟨?_, ?_, ?_⟩
        · rw [rows, List.map_cons, stored, List.append_assoc, List.singleton_append]
        · rw [created]
          simp only [List.length_cons]
          omega
        · rw [total]
          simp only [List.length_cons]
          omega

theorem dedupNode_eq (findings : List FindingDraft) :
    (dedupNode texts findings).1 = firsts (FindingDraft.identity texts) [] findings := by
  have general : ∀ state : Deduplicating,
      (findings.foldl (Deduplicating.turn texts) state).kept =
        state.kept ++ firsts (FindingDraft.identity texts) state.seen findings := by
    induction findings with
    | nil => simp [firsts]
    | cons finding findings ih =>
        intro state
        rw [List.foldl_cons, ih, Deduplicating.turn]
        by_cases old : finding.identity texts ∈ state.seen
        · rw [if_pos old, Firsts.firsts_cons_seen old]
        · rw [if_neg old, Firsts.firsts_cons_new old, List.append_assoc, List.singleton_append]
  exact general ⟨[], [], 0⟩

/-- What a call does on drafts whose severity is canonical. -/
theorem UpsertFindings.loop_rows
    (canonical : ∀ entry ∈ call.drafts,
      (VulnerabilitySeverity.ofString? entry.2.severity).isSome = true) :
    let seen := (call.existing table).map fun entry => entry.2.identity texts
    let kept := newDrafts texts seen call.drafts
    (call.loop texts table).rows = kept.map (fun entry => (entry.1, call.stored entry.2)) ∧
      (call.loop texts table).created = kept.length ∧
      (call.loop texts table).created + (call.loop texts table).skipped = call.drafts.length := by
  obtain ⟨rows, created, total⟩ := @UpsertFindings.loop_eq texts call call.drafts
    ⟨(call.existing table).map fun entry => entry.2.identity texts, [], 0, 0⟩ canonical
  simp only [List.nil_append, Nat.zero_add] at rows created total
  exact ⟨rows, created, total⟩

/-! The flush. -/

theorem insertAll_find {rows : List (VulnerabilityId × Vulnerability)}
    (inserted : (requests texts).insertAll rows table = some after) :
    (∀ id row, after.find id = some row ↔ table.find id = some row ∨ (id, row) ∈ rows) ∧
      ∀ id, id ∈ after.keys ↔ id ∈ table.keys ∨ id ∈ rows.map Prod.fst := by
  induction rows generalizing table with
  | nil =>
      cases inserted
      simp
  | cons entry rows ih =>
      obtain ⟨new, row⟩ := entry
      rw [ReadCommitted.Service.insertAll] at inserted
      split at inserted
      next fresh =>
        have inserted : (requests texts).insertAll rows (table.insert new row) = some after :=
          inserted
        obtain ⟨found, keys⟩ := ih inserted
        constructor
        · intro id stored
          rw [found, Table.find_insert, List.mem_cons]
          by_cases same : id = new
          · subst same
            have untaken : table.find id = none := by
              rw [Table.find, fresh, Slot.row?_fresh]
            simp [untaken, eq_comm]
          · simp [same]
        · intro id
          rw [keys, Table.insert, List.mem_cons, List.map_cons, List.mem_cons]
          tauto
      next => cases inserted

theorem mem_existing : (id, row) ∈ call.existing table ↔ id ∈ table.keys ∧
    table.find id = some row ∧ row.scanId = call.scanId ∧ row.tenantId = call.tenantId := by
  rw [UpsertFindings.existing, Table.rows, List.mem_filterMap]
  constructor
  · rintro ⟨key, known, given⟩
    obtain ⟨stored, found, given⟩ := Option.bind_eq_some_iff.mp given
    split at given
    next matched =>
      cases given
      rw [Bool.and_eq_true, beq_iff_eq, beq_iff_eq] at matched
      exact ⟨known, found, matched⟩
    next => cases given
  · rintro ⟨known, found, scan, tenant⟩
    refine ⟨id, known, ?_⟩
    rw [found, Option.bind_some]
    simp [scan, tenant]

/-- What `upsert_findings` leaves, for drafts that are all canonical. -/
structure StoredOnce (texts : Texts) (call : UpsertFindings) (table after : VulnerabilityTable)
    (result : UpsertVulnerabilitiesResult) : Prop where
  accounted : ∀ entry ∈ call.drafts,
    let count := (call.loop texts table).rows.countP fun row =>
      row.2.identity texts == entry.2.identity texts
    (count = 1 ∧ ∀ old ∈ call.existing table, old.2.identity texts ≠ entry.2.identity texts) ∨
      (count = 0 ∧ ∃ old ∈ call.existing table, old.2.identity texts = entry.2.identity texts)
  unchanged : ∀ id row, table.find id = some row → after.find id = some row
  added : ∀ id row, after.find id = some row →
    table.find id = some row ∨ (id, row) ∈ (call.loop texts table).rows
  firstOfEach : (call.loop texts table).rows.map Prod.snd =
    (newcomers (FindingDraft.identity texts)
      ((call.existing table).map fun entry => entry.2.identity texts)
      (call.drafts.map Prod.snd)).map call.stored
  counted : result.created = (call.loop texts table).rows.length ∧
    result.created + result.skipped = call.drafts.length
  again : ∀ later : UpsertFindings, later.scanId = call.scanId → later.tenantId = call.tenantId →
    later.drafts.map Prod.snd = call.drafts.map Prod.snd →
    upsertFindings texts later after = some (after, ⟨0, 0, call.drafts.length⟩)
  deduplicated : ∀ other : UpsertFindings, other.scanId = call.scanId →
    other.tenantId = call.tenantId → other.clock = call.clock →
    other.drafts.map Prod.snd = (dedupNode texts (call.drafts.map Prod.snd)).1 →
    (other.loop texts table).rows.map Prod.snd = (call.loop texts table).rows.map Prod.snd

end

section

variable {texts : Texts} {call : UpsertFindings} {table after : VulnerabilityTable}
  {result : UpsertVulnerabilitiesResult}

theorem newDrafts_identities {seen : List String} {drafts : List (VulnerabilityId × FindingDraft)}
    {key : String} :
    key ∈ (newDrafts texts seen drafts).map (fun entry => entry.2.identity texts) ↔
      (∃ entry ∈ drafts, entry.2.identity texts = key) ∧ key ∉ seen := by
  rw [newDrafts, Firsts.mem_keys, List.mem_map]

/-- The rows, without their keys, depend on the drafts without their keys. -/
theorem loop_rows_values
    (canonical : ∀ entry ∈ call.drafts,
      (VulnerabilitySeverity.ofString? entry.2.severity).isSome = true) :
    (call.loop texts table).rows.map Prod.snd =
      (firsts (FindingDraft.identity texts)
        ((call.existing table).map fun entry => entry.2.identity texts)
        (call.drafts.map Prod.snd)).map call.stored := by
  obtain ⟨rows, _⟩ := @UpsertFindings.loop_rows texts call table canonical
  rw [rows, ← Firsts.firsts_map, List.map_map, List.map_map]
  rfl

theorem count_identities {key : String}
    (canonical : ∀ entry ∈ call.drafts,
      (VulnerabilitySeverity.ofString? entry.2.severity).isSome = true)
    (drafted : ∃ entry ∈ call.drafts, entry.2.identity texts = key) :
    ((call.loop texts table).rows.countP fun row => row.2.identity texts == key) =
      if key ∈ (call.existing table).map (fun entry => entry.2.identity texts) then 0 else 1 := by
  obtain ⟨rows, _⟩ := @UpsertFindings.loop_rows texts call table canonical
  have distinct : ((newDrafts texts ((call.existing table).map fun entry =>
      entry.2.identity texts) call.drafts).map fun entry => entry.2.identity texts).Nodup :=
    Firsts.nodup_keys
  have counted : ((call.loop texts table).rows.countP fun row => row.2.identity texts == key) =
      ((newDrafts texts ((call.existing table).map fun entry =>
        entry.2.identity texts) call.drafts).map fun entry => entry.2.identity texts).count key := by
    rw [rows, List.countP_map, List.count, List.countP_map]
    rfl
  rw [counted]
  by_cases old : key ∈ (call.existing table).map (fun entry => entry.2.identity texts)
  · rw [if_pos old]
    apply List.count_eq_zero_of_not_mem
    rw [newDrafts_identities]
    exact fun new => new.2 old
  · rw [if_neg old]
    apply List.count_eq_one_of_mem distinct
    rw [newDrafts_identities]
    exact ⟨drafted, old⟩

/-- Drafts among canonical ones are canonical. -/
theorem canonical_of_values {other : UpsertFindings}
    (canonical : ∀ entry ∈ call.drafts,
      (VulnerabilitySeverity.ofString? entry.2.severity).isSome = true)
    (subset : other.drafts.map Prod.snd ⊆ call.drafts.map Prod.snd) :
    ∀ entry ∈ other.drafts,
      (VulnerabilitySeverity.ofString? entry.2.severity).isSome = true := by
  intro entry member
  obtain ⟨entry', member', same⟩ := List.mem_map.mp (subset (List.mem_map_of_mem member))
  rw [← same]
  exact canonical entry' member'

theorem upsert_stored_once
    (canonical : ∀ entry ∈ call.drafts,
      (VulnerabilitySeverity.ofString? entry.2.severity).isSome = true)
    (stored : upsertFindings texts call table = some (after, result)) :
    StoredOnce texts call table after result := by
  obtain ⟨after, inserted, same⟩ := Option.map_eq_some_iff.mp stored
  cases same
  obtain ⟨rows, created, total⟩ := @UpsertFindings.loop_rows texts call table canonical
  obtain ⟨found, keys⟩ := insertAll_find inserted
  constructor
  · intro entry member
    have count := @count_identities texts call table _ canonical ⟨entry, member, rfl⟩
    by_cases old : entry.2.identity texts ∈
        (call.existing table).map (fun entry => entry.2.identity texts)
    · rw [if_pos old] at count
      exact .inr ⟨count, List.mem_map.mp old⟩
    · rw [if_neg old] at count
      refine .inl ⟨count, fun row inside same => old ?_⟩
      exact List.mem_map.mpr ⟨row, inside, same⟩
  · intro id row there
    exact (found id row).mpr (.inl there)
  · intro id row there
    exact (found id row).mp there
  · rw [loop_rows_values canonical, Firsts.firsts_eq_newcomers]
  · exact ⟨by rw [created, rows, List.length_map], total⟩
  · intro later scan tenant drafts
    have canonical' := canonical_of_values canonical fun draft member => by rwa [drafts] at member
    have seen : ∀ entry ∈ later.drafts, entry.2.identity texts ∈
        (later.existing after).map fun entry => entry.2.identity texts := by
      intro entry member
      have member' : entry.2 ∈ call.drafts.map Prod.snd := by
        rw [← drafts]
        exact List.mem_map_of_mem member
      obtain ⟨draft, inside, same⟩ := List.mem_map.mp member'
      have count := @count_identities texts call table _ canonical ⟨draft, inside, rfl⟩
      rw [← same, List.mem_map]
      by_cases old : draft.2.identity texts ∈
          (call.existing table).map (fun entry => entry.2.identity texts)
      · obtain ⟨⟨id, row⟩, selected, same'⟩ := List.mem_map.mp old
        obtain ⟨known, there, scan', tenant'⟩ := mem_existing.mp selected
        refine ⟨(id, row), mem_existing.mpr ⟨(keys id).mpr (.inl known),
          (found id row).mpr (.inl there), scan'.trans scan.symm, tenant'.trans tenant.symm⟩, same'⟩
      · rw [if_neg old] at count
        have positive : 0 < (call.loop texts table).rows.countP fun row =>
            row.2.identity texts == draft.2.identity texts := by
          rw [count]
          exact Nat.one_pos
        obtain ⟨⟨id, row⟩, created, same'⟩ := List.countP_pos_iff.mp positive
        have written := created
        rw [rows] at written
        obtain ⟨kept, _, shape⟩ := List.mem_map.mp written
        cases shape
        exact ⟨(kept.1, call.stored kept.2), mem_existing.mpr ⟨(keys _).mpr (.inr
          (List.mem_map_of_mem created)), (found _ _).mpr (.inr created), scan.symm, tenant.symm⟩,
          beq_iff_eq.mp same'⟩
    obtain ⟨rows', created', total'⟩ := @UpsertFindings.loop_rows texts later after canonical'
    have nothing : newDrafts texts ((later.existing after).map fun entry =>
        entry.2.identity texts) later.drafts = [] := Firsts.firsts_eq_nil seen
    have length : later.drafts.length = call.drafts.length := by
      simpa using congrArg List.length drafts
    rw [nothing] at rows' created'
    have skipped : (later.loop texts after).skipped = call.drafts.length := by
      rw [List.length_nil] at created'
      omega
    rw [upsertFindings, rows', created', skipped]
    rfl
  · intro other scan tenant clock drafts
    have subset : other.drafts.map Prod.snd ⊆ call.drafts.map Prod.snd := by
      rw [drafts, dedupNode_eq]
      exact Firsts.firsts_sublist.subset
    have canonical' := canonical_of_values canonical subset
    have same : other.existing table = call.existing table := by
      rw [UpsertFindings.existing, UpsertFindings.existing, scan, tenant]
    have written : other.stored = call.stored := by
      funext draft
      simp only [UpsertFindings.stored, UpsertFindings.row, scan, tenant, clock]
    rw [loop_rows_values canonical', loop_rows_values canonical, drafts, dedupNode_eq, same,
      written, Firsts.firsts_firsts (List.nil_subset _)]

/-- Every finding of the reports is stored once. -/
theorem findings_stored_once {unicode : Unicode} {reports : List NmapReport}
    (drafts : call.drafts.map Prod.snd = reports.flatMap (extractFindings unicode))
    (stored : upsertFindings texts call table = some (after, result)) :
    StoredOnce texts call table after result := by
  refine upsert_stored_once ?_ stored
  intro entry member
  have extracted : entry.2 ∈ reports.flatMap (extractFindings unicode) := by
    rw [← drafts]
    exact List.mem_map_of_mem member
  obtain ⟨report, _, inside⟩ := List.mem_flatMap.mp extracted
  rw [Nmap.extractFindings_eq] at inside
  obtain ⟨place, _, same⟩ := List.mem_map.mp inside
  rw [← same]
  exact Nmap.severityFromCvss_canonical _

end

/-! A script that ran against a host and again against its port. -/

def repeated : NmapReport where
  scanTypes := ["syn"]
  hosts := [⟨["10.0.0.1"], [], [⟨some "smb-vuln", some "VULNERABLE"⟩,
    ⟨some "smb-vuln", some "vulnerable"⟩, ⟨some "rdp-vuln", some "NOT VULNERABLE"⟩]⟩]

def repeatedCall : UpsertFindings where
  scanId := 3
  tenantId := 1
  drafts := (extractFindings Nmap.plainUnicode repeated).map fun draft => (7, draft)
  clock := 100

theorem findings_stored_once_repeated :
    ∃ after result, upsertFindings shortTexts repeatedCall .empty =
        some (after, result) ∧
      StoredOnce shortTexts repeatedCall .empty after result := by
  have stored : (upsertFindings shortTexts repeatedCall .empty).isSome = true := by
    decide +kernel
  obtain ⟨⟨after, result⟩, stored⟩ := Option.isSome_iff_exists.mp stored
  refine ⟨after, result, stored, ?_⟩
  apply @findings_stored_once shortTexts repeatedCall .empty after result Nmap.plainUnicode
    [repeated] _ stored
  simp [repeatedCall]

end Vulnerabilities

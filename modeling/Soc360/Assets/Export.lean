import Soc360.Events.Publishing
import Soc360.Text.Csv
import Soc360.Text.Dates
import Soc360.Text.Uuids
import Soc360.Users.Service

set_option autoImplicit false

namespace Assets

open Scans (AssetId)
open Users (User)

/-- The predicate of `_scope_query`. -/
def scopeQuery (currentUser : User) (asset : Asset) : Bool :=
  currentUser.isSuperadmin || currentUser.tenantId.any fun tenantId => asset.tenantId == tenantId

/-- `_CSV_COLUMNS`. -/
def csvColumns : List (List Char) :=
  ["id".toList, "type".toList, "value".toList, "tenant_id".toList, "created_at".toList,
    "updated_at".toList]

/-- `_row_to_csv_dict`, in the order of the columns. -/
def rowToCsv (entry : AssetId × Asset) : List (List Char) :=
  [Uuid.str entry.1, entry.2.assetType.value.toList, entry.2.value.toList,
    Uuid.str entry.2.tenantId, Dates.isoformat entry.2.createdAt,
    Dates.isoformat entry.2.updatedAt]

/-- `SELECT` of the visible assets, `ORDER BY created_at DESC, id DESC`. -/
def visibleAssets (currentUser : User) (table : AssetTable) : List (AssetId × Asset) :=
  (((table.rows fun _ => scopeQuery currentUser).map fun entry =>
    (entry.2.createdAt, entry)).insertionSort Table.Newest).map Prod.snd

/-- `encode("utf-8")`. -/
def encode (text : List Char) : ByteArray := (String.ofList text).toUTF8

/-- `_stream_csv`: the header, and a chunk for each asset. -/
def streamCsv (currentUser : User) (table : AssetTable) : Except String (List ByteArray) := do
  Except.refuse (!currentUser.isSuperadmin && currentUser.tenantId.isNone)
    "tenant_id requerido para usuarios no superadmin"
  return encode (Csv.write csvColumns) ::
    (visibleAssets currentUser table).map fun entry => encode (Csv.write (rowToCsv entry))

/-- The body of a response, of the chunks that have come. -/
def body (chunks : List ByteArray) : ByteArray := chunks.foldl (· ++ ·) .empty

/-- A reader of the body. -/
def readCsv (bytes : ByteArray) : Option (List (List (List Char))) :=
  bytes.utf8Decode?.bind fun text => Csv.read text.toList

section

variable {currentUser : User} {table : AssetTable} {entry : AssetId × Asset}

theorem encode_eq (text : List Char) : encode text = text.utf8Encode := String.toByteArray_ofList

theorem encode_append (first second : List Char) :
    encode (first ++ second) = encode first ++ encode second := by
  rw [encode_eq, encode_eq, encode_eq, List.utf8Encode_append]

theorem body_encode (texts : List (List Char)) : body (texts.map encode) = encode texts.flatten := by
  have after : ∀ before : List Char, (texts.map encode).foldl (· ++ ·) (encode before) =
      encode (before ++ texts.flatten) := by
    induction texts with
    | nil =>
      intro before
      rw [List.flatten_nil, List.append_nil]
      rfl
    | cons text rest ih =>
      intro before
      rw [List.map_cons, List.foldl_cons, ← encode_append, ih, List.flatten_cons,
        List.append_assoc]
  exact after []

theorem readCsv_encode (text : List Char) : readCsv (encode text) = Csv.read text := by
  rw [readCsv, encode_eq, List.utf8Decode?_utf8Encode]
  rfl

/-- The chunks of some records are read as these. -/
theorem readCsv_records {records : List (List (List Char))}
    (some' : ∀ record ∈ records, record ≠ []) :
    readCsv (body (records.map fun record => encode (Csv.write record))) = some records := by
  have texts : (records.map fun record => encode (Csv.write record)) =
      (records.map Csv.write).map encode := by
    rw [List.map_map]
    rfl
  rw [texts, body_encode, readCsv_encode, ← List.flatMap_def]
  exact Csv.read_write some'

theorem value_inj {first second : AssetType} (same : first.value = second.value) :
    first = second := by
  cases first <;> cases second <;> first | rfl | exact absurd same (by decide)

/-- A record tells the asset. -/
theorem rowToCsv_inj {first second : AssetId × Asset} (same : rowToCsv first = rowToCsv second) :
    first = second := by
  obtain ⟨key, ⟨tenantId, value, assetType, createdAt, updatedAt⟩⟩ := first
  obtain ⟨key', ⟨tenantId', value', assetType', createdAt', updatedAt'⟩⟩ := second
  simp only [rowToCsv, List.cons.injEq, and_true] at same
  obtain ⟨keys, types, values, tenants, created, updated⟩ := same
  rw [Uuid.str_inj keys, value_inj (String.toList_inj.mp types), String.toList_inj.mp values,
    Uuid.str_inj tenants, Dates.isoformat_inj created, Dates.isoformat_inj updated]

theorem visibleAssets_perm :
    (visibleAssets currentUser table).Perm (table.rows fun _ => scopeQuery currentUser) := by
  have perm := (List.perm_insertionSort Table.Newest ((table.rows fun _ =>
    scopeQuery currentUser).map fun entry => (entry.2.createdAt, entry))).map Prod.snd
  rw [List.map_map] at perm
  exact perm.trans (List.Perm.of_eq (List.map_id _))

theorem visibleAssets_newest :
    (visibleAssets currentUser table).Pairwise fun first second =>
      second.2.createdAt < first.2.createdAt ∨
        first.2.createdAt = second.2.createdAt ∧ second.1 ≤ first.1 := by
  have : Std.Total (Table.Newest : Nat × Nat × Asset → Nat × Nat × Asset → Prop) :=
    Table.newest_total
  have : IsTrans (Nat × Nat × Asset) Table.Newest := Table.newest_trans
  refine List.pairwise_map.mpr (List.Pairwise.imp_of_mem ?_
    (List.pairwise_insertionSort Table.Newest _))
  intro first second member member' newest
  obtain ⟨entry, _, rfl⟩ := List.mem_map.mp ((List.mem_insertionSort _).mp member)
  obtain ⟨entry', _, rfl⟩ := List.mem_map.mp ((List.mem_insertionSort _).mp member')
  exact newest

theorem mem_visibleAssets (listed : table.Listed) {assetId : AssetId} {asset : Asset} :
    (assetId, asset) ∈ visibleAssets currentUser table ↔ table.find assetId = some asset ∧
      (currentUser.isSuperadmin = true ∨ currentUser.tenantId = some asset.tenantId) := by
  rw [visibleAssets_perm.mem_iff, Table.mem_rows listed, scopeQuery, Bool.or_eq_true]
  refine and_congr_right' (or_congr_right ?_)
  cases currentUser.tenantId with
  | none => exact iff_of_false nofun nofun
  | some tenantId =>
    rw [Option.any_some, beq_iff_eq, Option.some.injEq]
    exact eq_comm

/-- The chunks that have come are those of the header and of the first assets. -/
theorem streamCsv_take {chunks : List ByteArray} (streamed : streamCsv currentUser table = .ok chunks)
    (count : Nat) :
    chunks.take (count + 1) = (csvColumns :: ((visibleAssets currentUser table).take count).map
      rowToCsv).map fun record => encode (Csv.write record) := by
  obtain ⟨_, _, given⟩ := Except.bind_eq_ok.mp streamed
  cases given
  rw [List.take_succ_cons, ← List.map_take, List.map_cons, List.map_map]
  rfl

theorem records_some (assets : List (AssetId × Asset)) :
    ∀ record ∈ csvColumns :: assets.map rowToCsv, record ≠ [] := by
  intro record member
  rcases List.mem_cons.mp member with rfl | member
  · exact List.cons_ne_nil _ _
  · obtain ⟨entry, _, rfl⟩ := List.mem_map.mp member
    exact List.cons_ne_nil _ _

theorem length_streamCsv {chunks : List ByteArray}
    (streamed : streamCsv currentUser table = .ok chunks) :
    chunks.length = (visibleAssets currentUser table).length + 1 := by
  obtain ⟨_, _, given⟩ := Except.bind_eq_ok.mp streamed
  cases given
  rw [List.length_cons, List.length_map]

theorem readCsv_take {chunks : List ByteArray} (streamed : streamCsv currentUser table = .ok chunks)
    (count : Nat) : readCsv (body (chunks.take (count + 1))) =
      some (csvColumns :: ((visibleAssets currentUser table).take count).map rowToCsv) := by
  rw [streamCsv_take streamed, readCsv_records (records_some _)]

/-- An export holds the assets that its user may see, each once and the newest first. As much of it
as has come is well formed, and all of it tells every column of every asset. -/
theorem export_reads (listed : table.Listed) {chunks : List ByteArray}
    (streamed : streamCsv currentUser table = .ok chunks) :
    let assets := visibleAssets currentUser table
    assets.Nodup ∧
    (∀ assetId asset, (assetId, asset) ∈ assets ↔ table.find assetId = some asset ∧
      (currentUser.isSuperadmin = true ∨ currentUser.tenantId = some asset.tenantId)) ∧
    (assets.Pairwise fun first second => second.2.createdAt < first.2.createdAt ∨
      first.2.createdAt = second.2.createdAt ∧ second.1 ≤ first.1) ∧
    (∀ count, readCsv (body (chunks.take (count + 1))) =
      some (csvColumns :: (assets.take count).map rowToCsv)) ∧
    ∀ (other : AssetTable) (chunks' : List ByteArray), streamCsv currentUser other = .ok chunks' →
      body chunks' = body chunks → visibleAssets currentUser other = assets := by
  have all {table : AssetTable} {chunks : List ByteArray}
      (streamed : streamCsv currentUser table = .ok chunks) : readCsv (body chunks) =
        some (csvColumns :: (visibleAssets currentUser table).map rowToCsv) := by
    have read := readCsv_take streamed (visibleAssets currentUser table).length
    rwa [List.take_length, ← length_streamCsv streamed, List.take_length] at read
  refine ⟨visibleAssets_perm.nodup_iff.mpr (Table.nodup_rows listed),
    fun assetId asset => mem_visibleAssets listed, visibleAssets_newest, readCsv_take streamed,
    fun other chunks' streamed' same => ?_⟩
  have records := (all streamed').symm.trans (same ▸ all streamed)
  have rows := List.tail_eq_of_cons_eq (Option.some.inj records)
  exact List.map_injective_iff.mpr (fun _ _ => rowToCsv_inj) rows

end

def analyst : User :=
  ⟨some 1, "ana@acme.example", "", "Ana", .analyst, true, false⟩

/-- Two assets of tenant 1, one with marks of the format in its value, and one of tenant 2. -/
def quotedAssets : AssetTable :=
  ((Table.empty.insert 10 ⟨1, "arn:aws:s3:::a,\"b\"", .cloudResource, 100, 100⟩).insert 11
    ⟨1, "10.0.0.1", .ip, 200, 250⟩).insert 12 ⟨2, "10.0.0.2", .ip, 300, 300⟩

theorem export_reads_quoted : ∃ chunks, streamCsv analyst quotedAssets = .ok chunks ∧
    (visibleAssets analyst quotedAssets).map Prod.fst = [11, 10] ∧
    readCsv (body (chunks.take 3)) =
      some (csvColumns :: ((visibleAssets analyst quotedAssets).take 2).map rowToCsv) := by
  have listed : quotedAssets.Listed :=
    ((Table.Listed.empty.insert List.not_mem_nil).insert (by decide)).insert (by decide)
  exact ⟨_, rfl, rfl, (export_reads listed rfl).2.2.2.1 2⟩

end Assets

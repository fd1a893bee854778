import GoTen.Common.Converters
import GoTen.Verified.BigInt
import GoTen.Verified.Result

/-!
# Paging through the host's batches (`go/host/storage/hostdb/batch.go`)

The host serves the batch listing of its public API from its own database.
`GetBatchListing` reads the head batch, turns the page's offset and size
into a window of sequence numbers counted down from the head, and looks up
every sequence number of the window; `GetBatchListingDeprecated` computes
the same window and adds each batch's transaction hashes.

The window is computed in machine integers: `batchesFrom := head - Offset`
is a `uint64` subtraction, and `batchesTo := int(batchesFrom) - int(Size) + 1`
a signed one, clamped to 1. Up to the head the window is the page the
caller asked for. Past the head the subtraction wraps, the signed
conversion makes the lower end negative, the clamp makes it 1, and the
window runs from just below `2 ^ 64` down to sequence number 1.

A sequence number is a query argument, and `database/sql` refuses a
`uint64` argument with the high bit set; every stored sequence number is
below `2 ^ 63`.

## Main results

* `getBatchListing_offsetAtMostHead`: for an offset up to the head, the
  listing holds exactly the stored batches of the page, highest first; at
  the head the page is empty.
* `listBatchesDeprecated_eq`: the deprecated listing skips every sequence
  number whose lookup fails, whatever the reason.
* `batchListing_offsetPastHead`: past the head, the window runs from
  `2 ^ 64` less the overshoot down to 1; `GetBatchListing` fails on its
  first lookup and `GetBatchListingDeprecated` lists every stored batch.
-/

namespace GoTen.Host.BatchListing

open GoTen.Common
open GoTen.Common.Converters
open GoTen.Verified
open GoTen.Verified.BigInt

/-- `common.QueryPagination`; `Size` is a Go `uint`, 64 bits wide on the host. -/
structure QueryPagination where
  offset : UInt64
  size : UInt64
  deriving DecidableEq, Repr

/-- `QueryPagination.UnmarshalJSON`, from the size and the offset that
`json.Unmarshal` decoded. -/
def QueryPagination.unmarshalJSON (size offset : UInt64) : Except String QueryPagination :=
  if size < 1 ∨ size > 100 then .error "size must be between 1 and 100"
  else .ok ⟨offset, size⟩

/-- A row of `batch_host` with its `ext_batch` column decoded; `sequence` and
`height` are the `uint64` values `AddBatch` inserted. -/
structure BatchHostRow where
  sequence : UInt64
  fullHash : Hash
  height : UInt64
  extBatch : ExtBatch
  deriving DecidableEq, Repr

/-- A row of `transaction_host`. -/
structure TransactionHostRow where
  hash : Hash
  bSequence : UInt64
  deriving DecidableEq, Repr

/-- The host database's `batch_host` and `transaction_host` tables as
`AddBatch` writes them: `sequence` is the primary key, the driver stores
only sequence numbers below `2 ^ 63`, and each row holds the batch whose
header carries the row's sequence number. `placeholder` is the SQL
dialect's argument placeholder. -/
structure HostDB where
  placeholder : String
  batchHost : List BatchHostRow
  transactionHost : List TransactionHostRow
  sequence_nodup : (batchHost.map BatchHostRow.sequence).Nodup
  sequence_lt : ∀ row ∈ batchHost, row.sequence.toNat < 2 ^ 63
  header_sequence : ∀ row ∈ batchHost,
    row.extBatch.header.map (fun header => uint64 header.sequencerOrderNo) = some row.sequence

/-- `common.PublicBatch`. -/
structure PublicBatch where
  sequencerOrderNo : Int
  fullHash : Hash
  height : Int
  txCount : Int
  header : Option BatchHeader
  encryptedTxBlob : List UInt8
  deriving DecidableEq, Repr

/-- `common.PublicBatchDeprecated`. -/
structure PublicBatchDeprecated where
  batchHeader : BatchHeader
  txHashes : List Hash
  deriving DecidableEq, Repr

/-- `common.BatchListingResponse`. -/
structure BatchListingResponse where
  batchesData : List PublicBatch
  total : UInt64
  deriving DecidableEq, Repr

/-- `common.BatchListingResponseDeprecated`. -/
structure BatchListingResponseDeprecated where
  batchesData : List PublicBatchDeprecated
  total : UInt64
  deriving DecidableEq, Repr

/-- What `fetchPublicBatch` and `fetchHeadBatch` build from a row: each
integer column is scanned and goes through `int64` into a `*big.Int`. -/
def BatchHostRow.toPublicBatch (row : BatchHostRow) : PublicBatch :=
  ⟨row.sequence.toInt64.toInt, row.fullHash, row.height.toInt64.toInt,
    row.extBatch.txHashes.length, row.extBatch.header, row.extBatch.encryptedTxBlob⟩

/-- `selectBatch`. -/
def selectBatch : String := "SELECT sequence, hash, height, ext_batch FROM batch_host"

/-- The error of `database/sql` for a `uint64` query argument with the high
bit set: its default converter refuses the value before the driver sees it. -/
def errHighBitArgument : String :=
  "sql: converting argument $1 type: uint64 values with high bit set are not supported"

/-- The row `WHERE sequence=?` selects. -/
def HostDB.rowBySequence (db : HostDB) (seqNo : UInt64) : Option BatchHostRow :=
  db.batchHost.find? fun row => row.sequence == seqNo

/-- The hashes `selectTxBySeq` selects, in the table's order. -/
def HostDB.txHashesOf (db : HostDB) (seqNo : UInt64) : List Hash :=
  (db.transactionHost.filter fun tx => tx.bSequence == seqNo).map TransactionHostRow.hash

/-- `GetPublicBatchBySequenceNumber`: `fetchPublicBatch` with
`WHERE sequence=?`; no row is `errutil.ErrNotFound`. -/
def getPublicBatchBySequenceNumber (db : HostDB) (seqNo : UInt64) : Except Failure PublicBatch :=
  if seqNo.toNat < 2 ^ 63 then
    match db.rowBySequence seqNo with
    | some row => .ok row.toPublicBatch
    | none => .error (.error "not found")
  else
    .error (.error ("failed to scan with query " ++ selectBatch ++ " WHERE sequence=" ++
      db.placeholder ++ " - " ++ errHighBitArgument))

/-- `GetCurrentHeadBatch`: `fetchHeadBatch`, the row of the largest sequence
number (`ORDER BY sequence DESC LIMIT 1`). -/
def getCurrentHeadBatch (db : HostDB) : Except Failure PublicBatch :=
  match db.batchHost.find? (fun row => db.batchHost.all fun other => other.sequence ≤ row.sequence) with
  | some row => .ok row.toPublicBatch
  | none => .error (.error "not found")

/-- `GetTxsBySequenceNumber`: `fetchTx`. -/
def getTxsBySequenceNumber (db : HostDB) (seqNo : UInt64) : Except Failure (List Hash) :=
  if seqNo.toNat < 2 ^ 63 then
    .ok (db.txHashesOf seqNo)
  else
    .error (.error ("query execution for select txs failed: " ++ errHighBitArgument))

/-- `batchesFrom` and `batchesTo` of both listings, `batchesTo` clamped to 1. -/
def batchListingWindow (head : UInt64) (pagination : QueryPagination) : UInt64 × Int64 :=
  let batchesFrom := head - pagination.offset
  let batchesTo := batchesFrom.toInt64 - pagination.size.toInt64 + 1
  (batchesFrom, if batchesTo ≤ 0 then 1 else batchesTo)

/-- The sequence numbers `for i := batchesFrom; i >= uint64(batchesTo); i--`
visits, in order. The clamp keeps `batchesTo` at 1 or more, so the loop
stops before `i--` could wrap below 0. -/
def visitedSequenceNumbers (batchesFrom : UInt64) (batchesTo : Int64) : List UInt64 :=
  (List.range (batchesFrom.toNat + 1 - batchesTo.toUInt64.toNat)).map
    fun k => batchesFrom - UInt64.ofNat k

/-- The loop of `GetBatchListing`: a sequence number without a batch is
skipped, any other error ends the listing. -/
def listBatches (db : HostDB) : List UInt64 → Except Failure (List PublicBatch)
  | [] => .ok []
  | i :: rest =>
    match getPublicBatchBySequenceNumber db i with
    | .ok batch => do
      let batches ← listBatches db rest
      return batch :: batches
    | .error f =>
      if f = .error "not found" then listBatches db rest
      else .error (f.wrap "failed to fetch batch by sequence number - ")

/-- `GetBatchListing`. -/
def getBatchListing (db : HostDB) (pagination : QueryPagination) :
    Except Failure BatchListingResponse := do
  let headBatch ← (getCurrentHeadBatch db).mapError (Failure.wrap "failed to fetch current head batch - ")
  let window := batchListingWindow (uint64 headBatch.sequencerOrderNo) pagination
  let batches ← listBatches db (visitedSequenceNumbers window.1 window.2)
  return ⟨batches, uint64 headBatch.sequencerOrderNo⟩

/-- The loop of `GetBatchListingDeprecated`: a sequence number whose lookup
fails, for whatever reason, is skipped (`batch == nil`), and each batch
found comes with its transaction hashes. The header is dereferenced before
the check that it is not nil. -/
def listBatchesDeprecated (db : HostDB) : List UInt64 → Except Failure (List PublicBatchDeprecated)
  | [] => .ok []
  | i :: rest =>
    match getPublicBatchBySequenceNumber db i with
    | .error _ => listBatchesDeprecated db rest
    | .ok batch =>
      match batch.header with
      | none => .error (.panic "runtime error: invalid memory address or nil pointer dereference")
      | some header => do
        let txHashes ← (getTxsBySequenceNumber db (uint64 header.sequencerOrderNo)).mapError
          (Failure.wrap "failed to get tx hashes by seq no: ")
        let batches ← listBatchesDeprecated db rest
        return ⟨header, txHashes⟩ :: batches

/-- `GetBatchListingDeprecated`. -/
def getBatchListingDeprecated (db : HostDB) (pagination : QueryPagination) :
    Except Failure BatchListingResponseDeprecated := do
  let headBatch ← (getCurrentHeadBatch db).mapError (Failure.wrap "failed to fetch head batch - ")
  let window := batchListingWindow (uint64 headBatch.sequencerOrderNo) pagination
  let batches ← listBatchesDeprecated db (visitedSequenceNumbers window.1 window.2)
  return ⟨batches, UInt64.ofNat batches.length⟩

/-! ## The window's sequence numbers -/

/-- `x - k` for a `k` that does not pass below 0. -/
theorem toNat_sub_ofNat {x : UInt64} {k : Nat} (hk : k ≤ x.toNat) :
    (x - UInt64.ofNat k).toNat = x.toNat - k := by
  have hk64 : (UInt64.ofNat k).toNat = k := by
    rw [UInt64.toNat_ofNat']
    exact Nat.mod_eq_of_lt (by have := x.toNat_lt; omega)
  rw [UInt64.toNat_sub_of_le _ _ (UInt64.le_iff_toNat_le.mpr (by omega)), hk64]

section Visited

variable {batchesFrom : UInt64} {batchesTo : Int64}

/-- The loop visits every sequence number from `batchesFrom` down to
`uint64(batchesTo)`, and no other. -/
theorem mem_visitedSequenceNumbers {i : UInt64} :
    i ∈ visitedSequenceNumbers batchesFrom batchesTo ↔
      batchesTo.toUInt64.toNat ≤ i.toNat ∧ i.toNat ≤ batchesFrom.toNat := by
  simp only [visitedSequenceNumbers, List.mem_map, List.mem_range]
  constructor
  · rintro ⟨k, hk, rfl⟩
    rw [toNat_sub_ofNat (by omega)]
    omega
  · rintro ⟨hlo, hhi⟩
    refine ⟨batchesFrom.toNat - i.toNat, by omega, ?_⟩
    apply UInt64.toNat_inj.mp
    rw [toNat_sub_ofNat (by omega)]
    omega

/-- The loop counts down. -/
theorem visitedSequenceNumbers_pairwise :
    (visitedSequenceNumbers batchesFrom batchesTo).Pairwise fun a b => b < a := by
  apply List.pairwise_map.mpr
  apply List.Pairwise.imp_of_mem _ (List.pairwise_lt_range)
  intro k l hk hl hkl
  rw [List.mem_range] at hk hl
  rw [UInt64.lt_iff_toNat_lt, toNat_sub_ofNat (by omega), toNat_sub_ofNat (by omega)]
  omega

/-- The loop's first round looks up `batchesFrom` itself, unless the window
is empty. -/
theorem visitedSequenceNumbers_eq_cons (h : batchesTo.toUInt64.toNat ≤ batchesFrom.toNat) :
    ∃ rest, visitedSequenceNumbers batchesFrom batchesTo = batchesFrom :: rest := by
  obtain ⟨n, hn⟩ : ∃ n, batchesFrom.toNat + 1 - batchesTo.toUInt64.toNat = n + 1 :=
    ⟨batchesFrom.toNat - batchesTo.toUInt64.toNat, by omega⟩
  refine ⟨((List.range n).map Nat.succ).map fun k => batchesFrom - UInt64.ofNat k, ?_⟩
  rw [visitedSequenceNumbers, hn, List.range_succ_eq_map, List.map_cons]
  simp

end Visited

/-! ## Lookups -/

section Lookups

variable (db : HostDB)

/-- `sequence` is the primary key: the row a sequence number selects is the
stored row with that number. -/
theorem rowBySequence_eq_some {i : UInt64} {row : BatchHostRow} :
    db.rowBySequence i = some row ↔ row ∈ db.batchHost ∧ row.sequence = i := by
  constructor
  · intro h
    have hmem := List.mem_of_find?_eq_some h
    have hsel := List.find?_some h
    exact ⟨hmem, beq_iff_eq.mp hsel⟩
  · rintro ⟨hrow, rfl⟩
    cases hfind : db.rowBySequence row.sequence with
    | none =>
      have := List.find?_eq_none.mp hfind row hrow
      simp at this
    | some found =>
      have hmem := List.mem_of_find?_eq_some hfind
      have hsel := List.find?_some hfind
      rw [List.inj_on_of_nodup_map db.sequence_nodup hmem hrow (beq_iff_eq.mp hsel)]

theorem getPublicBatchBySequenceNumber_of_row {i : UInt64} {row : BatchHostRow}
    (h : db.rowBySequence i = some row) :
    getPublicBatchBySequenceNumber db i = .ok row.toPublicBatch := by
  obtain ⟨hrow, rfl⟩ := (rowBySequence_eq_some db).mp h
  rw [getPublicBatchBySequenceNumber, if_pos (db.sequence_lt row hrow), h]

/-- A sequence number with no row fails its lookup: not found, or refused by
`database/sql` when its high bit is set. -/
theorem getPublicBatchBySequenceNumber_of_noRow {i : UInt64} (h : db.rowBySequence i = none) :
    getPublicBatchBySequenceNumber db i = .error (if i.toNat < 2 ^ 63 then .error "not found"
      else .error ("failed to scan with query " ++ selectBatch ++ " WHERE sequence=" ++
        db.placeholder ++ " - " ++ errHighBitArgument)) := by
  unfold getPublicBatchBySequenceNumber
  split_ifs
  · rw [h]
  · rfl

/-- The deprecated listing's entry for a row: its header and its transactions. -/
def HostDB.deprecatedOf (row : BatchHostRow) : Option PublicBatchDeprecated :=
  row.extBatch.header.map fun header => ⟨header, db.txHashesOf row.sequence⟩

/-- With every sequence number below `2 ^ 63`, the listing loop returns the
batch of each one that has a row, in the order visited. -/
theorem listBatches_of_lt : ∀ {is : List UInt64}, (∀ i ∈ is, i.toNat < 2 ^ 63) →
    listBatches db is = .ok ((is.filterMap db.rowBySequence).map BatchHostRow.toPublicBatch)
  | [], _ => rfl
  | i :: rest, hlt => by
    have ih := listBatches_of_lt (fun j hj => hlt j (List.mem_cons_of_mem i hj))
    cases hrow : db.rowBySequence i with
    | some row =>
      simp only [listBatches, getPublicBatchBySequenceNumber_of_row db hrow, ih, List.filterMap_cons,
        hrow, List.map_cons, Result.ok_bind]
      rfl
    | none =>
      simp only [listBatches, getPublicBatchBySequenceNumber_of_noRow db hrow,
        if_pos (hlt i List.mem_cons_self), if_true, ih, List.filterMap_cons, hrow]

/-- A first sequence number with the high bit set ends the listing with
`database/sql`'s refusal. -/
theorem listBatches_of_highBit {i : UInt64} (rest : List UInt64) (hi : 2 ^ 63 ≤ i.toNat) :
    listBatches db (i :: rest) = .error (.error ("failed to fetch batch by sequence number - " ++
      "failed to scan with query " ++ selectBatch ++ " WHERE sequence=" ++ db.placeholder ++ " - " ++
      errHighBitArgument)) := by
  have hnone : db.rowBySequence i = none := by
    cases hrow : db.rowBySequence i with
    | none => rfl
    | some row =>
      obtain ⟨hmem, rfl⟩ := (rowBySequence_eq_some db).mp hrow
      exact absurd (db.sequence_lt row hmem) (by omega)
  have hne : ("failed to scan with query " ++ selectBatch ++ " WHERE sequence=" ++ db.placeholder ++
      " - " ++ errHighBitArgument) ≠ "not found" := by
    intro h
    have hlen := congrArg String.length h
    simp only [String.length_append] at hlen
    have : "failed to scan with query ".length = 26 := by decide
    have : "not found".length = 9 := by decide
    omega
  simp only [String.append_assoc] at hne
  simp only [listBatches, getPublicBatchBySequenceNumber_of_noRow db hnone,
    if_neg (by omega : ¬ i.toNat < 2 ^ 63), Failure.error.injEq, String.append_assoc, if_neg hne,
    Failure.wrap]

/-- The deprecated listing loop returns, for each sequence number that has a
row, the row's header and transactions, in the order visited; every other
sequence number is skipped, whatever its lookup returned. -/
theorem listBatchesDeprecated_eq : ∀ is : List UInt64,
    listBatchesDeprecated db is = .ok (is.filterMap fun i => (db.rowBySequence i).bind db.deprecatedOf)
  | [] => rfl
  | i :: rest => by
    cases hrow : db.rowBySequence i with
    | none =>
      simp only [listBatchesDeprecated, getPublicBatchBySequenceNumber_of_noRow db hrow,
        listBatchesDeprecated_eq rest, List.filterMap_cons, hrow, Option.bind_none]
    | some row =>
      obtain ⟨hmem, rfl⟩ := (rowBySequence_eq_some db).mp hrow
      obtain ⟨header, hheader, hseq⟩ := Option.map_eq_some_iff.mp (db.header_sequence row hmem)
      have htxs : getTxsBySequenceNumber db (uint64 header.sequencerOrderNo) =
          .ok (db.txHashesOf row.sequence) := by
        rw [getTxsBySequenceNumber, hseq, if_pos (db.sequence_lt row hmem)]
      simp only [listBatchesDeprecated, getPublicBatchBySequenceNumber_of_row db hrow,
        BatchHostRow.toPublicBatch, hheader, htxs, Except.mapError, Result.ok_bind,
        listBatchesDeprecated_eq rest, List.filterMap_cons, hrow, Option.bind_some,
        HostDB.deprecatedOf, Option.map_some]
      rfl

end Lookups

/-! ## The window -/

/-- The pages `UnmarshalJSON` admits: a size from 1 to 100, any offset. -/
theorem QueryPagination.unmarshalJSON_eq_ok {size offset : UInt64} {p : QueryPagination} :
    QueryPagination.unmarshalJSON size offset = .ok p ↔
      (1 ≤ size.toNat ∧ size.toNat ≤ 100) ∧ p = ⟨offset, size⟩ := by
  have hrange : ¬ (size < 1 ∨ size > 100) ↔ 1 ≤ size.toNat ∧ size.toNat ≤ 100 := by
    simp only [gt_iff_lt, UInt64.lt_iff_toNat_lt, not_or, not_lt, UInt64.reduceToNat]
  unfold unmarshalJSON
  split_ifs with h
  · simp only [false_iff, not_and]
    exact fun hsize => absurd h (hrange.mpr hsize)
  · simp only [Except.ok.injEq]
    exact ⟨fun hp => ⟨hrange.mp h, hp.symm⟩, fun hp => hp.2.symm⟩

/-- `int(batchesFrom) - int(Size) + 1` is the exact difference for a page
size `UnmarshalJSON` admits, wherever that difference does not overflow. -/
theorem toInt_batchesTo {head : UInt64} {p : QueryPagination}
    (hsize : 1 ≤ p.size.toNat ∧ p.size.toNat ≤ 100)
    (hrange : -2 ^ 63 ≤ (head - p.offset).toInt64.toInt - p.size.toNat + 1) :
    ((head - p.offset).toInt64 - p.size.toInt64 + 1).toInt =
      (head - p.offset).toInt64.toInt - p.size.toNat + 1 := by
  have hsizeInt : p.size.toInt64.toInt = p.size.toNat := by
    rw [toInt_toInt64, if_pos (by omega)]
  have hupper := (head - p.offset).toInt64.toInt_lt
  rw [@toInt_sub_add_one (head - p.offset).toInt64 p.size.toInt64
    (by rw [hsizeInt]; exact hrange) (by rw [hsizeInt]; omega), hsizeInt]

/-- The lower end of the window is `int(batchesFrom) - int(Size) + 1` clamped
to 1, wherever that difference does not overflow. -/
theorem toNat_batchListingWindow_snd {head : UInt64} {p : QueryPagination}
    (hsize : 1 ≤ p.size.toNat ∧ p.size.toNat ≤ 100)
    (hrange : -2 ^ 63 ≤ (head - p.offset).toInt64.toInt - p.size.toNat + 1) :
    (batchListingWindow head p).2.toUInt64.toNat =
      max 1 ((head - p.offset).toInt64.toInt - p.size.toNat + 1).toNat := by
  have hexact := toInt_batchesTo hsize hrange
  dsimp only [batchListingWindow]
  split_ifs with hle
  · rw [Int64.le_iff_toInt_le, hexact, Int64.toInt_zero] at hle
    have hone : (1 : Int64).toUInt64.toNat = 1 := rfl
    rw [hone]
    omega
  · rw [Int64.le_iff_toInt_le, hexact, Int64.toInt_zero] at hle
    rw [toNat_toUInt64_of_nonneg (by omega), hexact]
    omega

/-- Where `int(batchesFrom) - int(Size) + 1` is not positive, the clamp sets
the lower end to 1. -/
theorem batchListingWindow_snd_of_nonpos {head : UInt64} {p : QueryPagination}
    (hsize : 1 ≤ p.size.toNat ∧ p.size.toNat ≤ 100)
    (hrange : -2 ^ 63 ≤ (head - p.offset).toInt64.toInt - p.size.toNat + 1)
    (hnonpos : (head - p.offset).toInt64.toInt - p.size.toNat + 1 ≤ 0) :
    (batchListingWindow head p).2 = 1 := by
  have hexact := toInt_batchesTo hsize hrange
  dsimp only [batchListingWindow]
  rw [if_pos (by rw [Int64.le_iff_toInt_le, hexact, Int64.toInt_zero]; exact hnonpos)]

/-- At or below the head, `batchesFrom` is the head less the offset, which
`int` reads unchanged. -/
theorem batchesFrom_of_le {head offset : UInt64} (hhead : head.toNat < 2 ^ 63) (hle : offset ≤ head) :
    (head - offset).toNat = head.toNat - offset.toNat ∧
      (head - offset).toInt64.toInt = ((head.toNat - offset.toNat : Nat) : Int) := by
  have hnat := UInt64.toNat_sub_of_le head offset hle
  refine ⟨hnat, ?_⟩
  rw [toInt_toInt64, if_pos (by omega), hnat]

/-- Past the head, `batchesFrom` wraps to `2 ^ 64` less the overshoot, which
`int` reads as the overshoot negated. -/
theorem batchesFrom_of_lt {head offset : UInt64} (hlt : head < offset)
    (hover : offset.toNat - head.toNat ≤ 2 ^ 63) :
    (head - offset).toNat = 2 ^ 64 - (offset.toNat - head.toNat) ∧
      (head - offset).toInt64.toInt = -((offset.toNat - head.toNat : Nat) : Int) := by
  rw [UInt64.lt_iff_toNat_lt] at hlt
  have hoffset := offset.toNat_lt
  have hnat : (head - offset).toNat = 2 ^ 64 - (offset.toNat - head.toNat) := by
    rw [UInt64.toNat_sub]
    omega
  refine ⟨hnat, ?_⟩
  rw [toInt_toInt64, if_neg (by omega), hnat]
  omega

/-! ## The listings -/

section Listings

variable {db : HostDB} {head : BatchHostRow}

/-- A stored row's sequence number is below `2 ^ 63`, so `int64` and
`*big.Int` carry it unchanged. -/
theorem sequencerOrderNo_toPublicBatch {row : BatchHostRow} (hrow : row ∈ db.batchHost) :
    row.toPublicBatch.sequencerOrderNo = row.sequence.toNat := by
  rw [BatchHostRow.toPublicBatch, toInt_toInt64, if_pos (db.sequence_lt row hrow)]

/-- The head batch is the stored row of the largest sequence number. -/
theorem getCurrentHeadBatch_of_max (hhead : head ∈ db.batchHost)
    (hmax : ∀ row ∈ db.batchHost, row.sequence ≤ head.sequence) :
    getCurrentHeadBatch db = .ok head.toPublicBatch := by
  unfold getCurrentHeadBatch
  cases hfind : db.batchHost.find? (fun row => db.batchHost.all fun other => other.sequence ≤ row.sequence) with
  | none =>
    have hnot := List.find?_eq_none.mp hfind head hhead
    simp only [List.all_eq_true, decide_eq_true_eq] at hnot
    exact absurd hmax hnot
  | some found =>
    have hmem := List.mem_of_find?_eq_some hfind
    have hsel := List.find?_some hfind
    simp only [List.all_eq_true, decide_eq_true_eq] at hsel
    have hseq : found.sequence = head.sequence :=
      UInt64.le_antisymm (hmax found hmem) (hsel head hhead)
    rw [List.inj_on_of_nodup_map db.sequence_nodup hmem hhead hseq]

/-- `GetBatchListing` once the head is read: the loop over the window
below the head's sequence number. -/
theorem getBatchListing_of_head (hhead : head ∈ db.batchHost)
    (hmax : ∀ row ∈ db.batchHost, row.sequence ≤ head.sequence) (p : QueryPagination) :
    getBatchListing db p =
      (listBatches db (visitedSequenceNumbers (batchListingWindow head.sequence p).1
        (batchListingWindow head.sequence p).2)) >>= fun batches => .ok ⟨batches, head.sequence⟩ := by
  have hseq : uint64 head.toPublicBatch.sequencerOrderNo = head.sequence :=
    uint64_toInt_toInt64 (db.sequence_lt head hhead)
  simp only [getBatchListing, getCurrentHeadBatch_of_max hhead hmax, Except.mapError,
    Result.ok_bind, hseq]
  rfl

theorem getBatchListingDeprecated_of_head (hhead : head ∈ db.batchHost)
    (hmax : ∀ row ∈ db.batchHost, row.sequence ≤ head.sequence) (p : QueryPagination) :
    getBatchListingDeprecated db p =
      (listBatchesDeprecated db (visitedSequenceNumbers (batchListingWindow head.sequence p).1
        (batchListingWindow head.sequence p).2)) >>=
        fun batches => .ok ⟨batches, UInt64.ofNat batches.length⟩ := by
  have hseq : uint64 head.toPublicBatch.sequencerOrderNo = head.sequence :=
    uint64_toInt_toInt64 (db.sequence_lt head hhead)
  simp only [getBatchListingDeprecated, getCurrentHeadBatch_of_max hhead hmax, Except.mapError,
    Result.ok_bind, hseq]
  rfl

/-- `batches` lists exactly the stored batches whose sequence numbers lie
from `lo` to `hi`, highest first. -/
def ListsWindow (db : HostDB) (lo hi : Nat) (batches : List PublicBatch) : Prop :=
  (∀ b, b ∈ batches ↔ ∃ row ∈ db.batchHost,
    lo ≤ row.sequence.toNat ∧ row.sequence.toNat ≤ hi ∧ b = row.toPublicBatch) ∧
  batches.Pairwise fun a b => b.sequencerOrderNo < a.sequencerOrderNo

/-- Looking up the visited sequence numbers lists the stored batches between
the window's ends, highest first. -/
theorem listsWindow_visited (batchesFrom : UInt64) (batchesTo : Int64) :
    ListsWindow db batchesTo.toUInt64.toNat batchesFrom.toNat
      (((visitedSequenceNumbers batchesFrom batchesTo).filterMap db.rowBySequence).map
        BatchHostRow.toPublicBatch) := by
  constructor
  · intro b
    simp only [List.mem_map, List.mem_filterMap, rowBySequence_eq_some]
    constructor
    · rintro ⟨row, ⟨i, hi, hrow, rfl⟩, rfl⟩
      exact ⟨row, hrow, (mem_visitedSequenceNumbers.mp hi).1, (mem_visitedSequenceNumbers.mp hi).2, rfl⟩
    · rintro ⟨row, hrow, hlo, hhi, rfl⟩
      exact ⟨row, ⟨row.sequence, mem_visitedSequenceNumbers.mpr ⟨hlo, hhi⟩, hrow, rfl⟩, rfl⟩
  · apply List.pairwise_map.mpr
    apply List.pairwise_filterMap.mpr
    apply List.Pairwise.imp _ visitedSequenceNumbers_pairwise
    intro i j hji rowi hi rowj hj
    obtain ⟨hmemi, rfl⟩ := (rowBySequence_eq_some db).mp hi
    obtain ⟨hmemj, rfl⟩ := (rowBySequence_eq_some db).mp hj
    rw [sequencerOrderNo_toPublicBatch hmemi, sequencerOrderNo_toPublicBatch hmemj]
    exact Int.ofNat_lt.mpr (UInt64.lt_iff_toNat_lt.mp hji)

/-- Up to the head, the listing holds exactly the stored batches of the page
the caller asked for, highest first; at the head that page is empty. -/
theorem getBatchListing_offsetAtMostHead (hhead : head ∈ db.batchHost)
    (hmax : ∀ row ∈ db.batchHost, row.sequence ≤ head.sequence) {size offset : UInt64}
    {p : QueryPagination} (hp : QueryPagination.unmarshalJSON size offset = .ok p)
    (hbelow : offset ≤ head.sequence) :
    ∃ batches, getBatchListing db p = .ok ⟨batches, head.sequence⟩ ∧
      ListsWindow db (max 1 (head.sequence.toNat - offset.toNat + 1 - size.toNat))
        (head.sequence.toNat - offset.toNat) batches := by
  obtain ⟨hsize, rfl⟩ := QueryPagination.unmarshalJSON_eq_ok.mp hp
  have hlt := db.sequence_lt head hhead
  obtain ⟨hfrom, hfromInt⟩ := batchesFrom_of_le hlt hbelow
  set window := batchListingWindow head.sequence ⟨offset, size⟩ with hwindow
  have hupper : window.1.toNat = head.sequence.toNat - offset.toNat := hfrom
  have hrange : -2 ^ 63 ≤ (head.sequence - offset).toInt64.toInt - size.toNat + 1 := by
    rw [hfromInt]
    omega
  have hlower : window.2.toUInt64.toNat =
      max 1 (head.sequence.toNat - offset.toNat + 1 - size.toNat) := by
    rw [hwindow, @toNat_batchListingWindow_snd head.sequence ⟨offset, size⟩ hsize hrange]
    dsimp only
    rw [hfromInt]
    omega
  have hvisited : ∀ i ∈ visitedSequenceNumbers window.1 window.2, i.toNat < 2 ^ 63 := by
    intro i hi
    have := (mem_visitedSequenceNumbers.mp hi).2
    omega
  refine ⟨((visitedSequenceNumbers window.1 window.2).filterMap db.rowBySequence).map
    BatchHostRow.toPublicBatch, ?_, ?_⟩
  · rw [getBatchListing_of_head hhead hmax, listBatches_of_lt db hvisited, Result.ok_bind]
  · rw [← hlower, ← hupper]
    exact listsWindow_visited window.1 window.2

theorem batchListing_offsetPastHead (hhead : head ∈ db.batchHost)
    (hmax : ∀ row ∈ db.batchHost, row.sequence ≤ head.sequence) {size offset : UInt64}
    {p : QueryPagination} (hp : QueryPagination.unmarshalJSON size offset = .ok p)
    (hpast : head.sequence < offset)
    (hbound : offset.toNat + size.toNat ≤ head.sequence.toNat + 2 ^ 63 + 1) :
    (batchListingWindow head.sequence p).1.toNat = 2 ^ 64 - (offset.toNat - head.sequence.toNat) ∧
      (batchListingWindow head.sequence p).2 = 1 ∧
      getBatchListing db p = .error (.error ("failed to fetch batch by sequence number - " ++
        "failed to scan with query " ++ selectBatch ++ " WHERE sequence=" ++ db.placeholder ++ " - " ++
        errHighBitArgument)) ∧
      ∃ batches, getBatchListingDeprecated db p = .ok ⟨batches, UInt64.ofNat batches.length⟩ ∧
        ∀ b, b ∈ batches ↔ ∃ row ∈ db.batchHost, 1 ≤ row.sequence.toNat ∧ db.deprecatedOf row = some b := by
  obtain ⟨hsize, rfl⟩ := QueryPagination.unmarshalJSON_eq_ok.mp hp
  have hlt := db.sequence_lt head hhead
  have hoffset := UInt64.lt_iff_toNat_lt.mp hpast
  obtain ⟨hfrom, hfromInt⟩ := batchesFrom_of_lt hpast (by omega)
  have hrange : -2 ^ 63 ≤ (head.sequence - offset).toInt64.toInt - size.toNat + 1 := by
    rw [hfromInt]
    omega
  have hto : (batchListingWindow head.sequence ⟨offset, size⟩).2 = 1 :=
    @batchListingWindow_snd_of_nonpos head.sequence ⟨offset, size⟩ hsize hrange
      (by dsimp only; rw [hfromInt]; omega)
  set window := batchListingWindow head.sequence ⟨offset, size⟩ with hwindow
  have hupper : window.1.toNat = 2 ^ 64 - (offset.toNat - head.sequence.toNat) := hfrom
  have hlower : window.2.toUInt64.toNat = 1 := by
    rw [hto]
    rfl
  refine ⟨hupper, hto, ?_, ?_⟩
  · -- the first sequence number the loop looks up has the high bit set
    obtain ⟨rest, hcons⟩ := visitedSequenceNumbers_eq_cons (by omega : window.2.toUInt64.toNat ≤ window.1.toNat)
    rw [getBatchListing_of_head hhead hmax, ← hwindow, hcons,
      @listBatches_of_highBit db window.1 rest (by omega), Result.error_bind]
  · refine ⟨_, by rw [getBatchListingDeprecated_of_head hhead hmax, listBatchesDeprecated_eq,
      Result.ok_bind], ?_⟩
    intro b
    simp only [← hwindow, List.mem_filterMap, Option.bind_eq_some_iff, rowBySequence_eq_some]
    constructor
    · rintro ⟨i, hi, row, ⟨hrow, rfl⟩, hb⟩
      exact ⟨row, hrow, by have := (mem_visitedSequenceNumbers.mp hi).1; omega, hb⟩
    · rintro ⟨row, hrow, hone, hb⟩
      have hrowlt := db.sequence_lt row hrow
      exact ⟨row.sequence, mem_visitedSequenceNumbers.mpr ⟨by omega, by omega⟩, row, ⟨hrow, rfl⟩, hb⟩

end Listings

/-- A header whose only nonzero fields are its height and sequence number. -/
def headerAt (n : Nat) : BatchHeader :=
  ⟨0, 0, 0, 0, n, n, 0, 0, 0, [], 0, 0, 0, [], [], 0, 0, 0, []⟩

/-- The row `AddBatch` writes for the batch at `n` without transactions. -/
def rowAt (n : Nat) : BatchHostRow :=
  ⟨UInt64.ofNat n, 0, UInt64.ofNat n, ⟨some (headerAt n), [], []⟩⟩

/-- Three batches, at sequence numbers 1, 2 and 3, in the sqlite dialect. -/
def threeBatchDb : HostDB where
  placeholder := "?"
  batchHost := [rowAt 1, rowAt 2, rowAt 3]
  transactionHost := []
  sequence_nodup := by decide
  sequence_lt := by decide
  header_sequence := by decide

/-- The second page of one batch: the batch with sequence number 2. -/
theorem getBatchListing_offsetAtMostHead_threeBatches :
    ∃ batches, getBatchListing threeBatchDb ⟨1, 1⟩ = .ok ⟨batches, (rowAt 3).sequence⟩ ∧
      ListsWindow threeBatchDb 2 2 batches :=
  @getBatchListing_offsetAtMostHead threeBatchDb (rowAt 3) (by decide) (by decide) 1 1 ⟨1, 1⟩ rfl
    (by decide)

theorem batchListing_offsetPastHead_threeBatches :
    (batchListingWindow (rowAt 3).sequence ⟨4, 2⟩).1.toNat =
        2 ^ 64 - ((4 : UInt64).toNat - (rowAt 3).sequence.toNat) ∧
      (batchListingWindow (rowAt 3).sequence ⟨4, 2⟩).2 = 1 ∧
      getBatchListing threeBatchDb ⟨4, 2⟩ = .error (.error ("failed to fetch batch by sequence number - " ++
        "failed to scan with query " ++ selectBatch ++ " WHERE sequence=" ++ threeBatchDb.placeholder ++
        " - " ++ errHighBitArgument)) ∧
      ∃ batches, getBatchListingDeprecated threeBatchDb ⟨4, 2⟩ = .ok ⟨batches, UInt64.ofNat batches.length⟩ ∧
        ∀ b, b ∈ batches ↔ ∃ row ∈ threeBatchDb.batchHost, 1 ≤ row.sequence.toNat ∧
          threeBatchDb.deprecatedOf row = some b :=
  @batchListing_offsetPastHead threeBatchDb (rowAt 3) (by decide) (by decide) 2 4 ⟨4, 2⟩ rfl
    (by decide) (by decide)

end GoTen.Host.BatchListing

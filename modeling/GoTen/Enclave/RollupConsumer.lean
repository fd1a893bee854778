import GoTen.EthAdapter.Blob
import GoTen.EthAdapter.MgmtContractLib

/-!
# Extracting rollups from an L1 block (`rollupConsumerImpl.extractAndVerifyRollups`)

The host hands the enclave every TEN-relevant transaction of an L1 block
with its receipt, and, for each transaction that decodes as a rollup, the
blobs fetched for its versioned hashes, whether the transaction succeeded or
not. The enclave concatenates the blobs of all the transactions of the
block and computes their versioned hashes. Then, for each successful
transaction that decodes as a rollup, it compares the rollup's hashes with
the block's hashes from index 0 on and, when they match, reconstructs a
rollup from all the blobs of the block.

geth's KZG package is a parameter (`Kzg`), as are the ABI decoder and RLP.
The front-run below uses geth's RLP and kzg4844's own commitments and
versioned hashes of its two blobs.

## Main results

* `verifyBlobHashes_eq_ok`: the hash check passes exactly when the rollup's
  hashes are a prefix of the block's.
* `extractAndVerifyRollups_eq`: a successful rollup transaction gives a
  rollup exactly when its hashes are a prefix of the block's, and that
  rollup is the one reconstructed from all the blobs of the block.
* `extractAndVerifyRollups_revertedBlobsFirst`: blobs of a reverted rollup
  transaction ahead of the sequencer's make the enclave skip the sequencer's
  rollup.
-/

namespace GoTen.Enclave.RollupConsumer

open GoTen.Common
open GoTen.Verified
open GoTen.EthAdapter.Blob
open GoTen.EthAdapter.MgmtContractLib

/-- What `MakeSidecar` uses of geth's `kzg4844` package. -/
structure Kzg where
  /-- `kzg4844.BlobToCommitment`. -/
  blobToCommitment : Blob → Except String (List UInt8)
  /-- `kzg4844.ComputeBlobProof`. -/
  computeBlobProof : Blob → List UInt8 → Except String (List UInt8)
  /-- `KZGToVersionedHash`. -/
  kzgToVersionedHash : List UInt8 → Hash

/-- The loop of `MakeSidecar` from blob `i` on, as far as the versioned
hashes go; the commitments and proofs it collects are not read here. -/
def makeSidecarLoop (kzg : Kzg) : Nat → List Blob → Except String (List Hash)
  | _, [] => .ok []
  | i, blob :: blobs => do
      let commitment ← (kzg.blobToCommitment blob).mapError fun e =>
        s!"cannot compute KZG commitment of blob {i} in tx candidate: {e}"
      let _ ← (kzg.computeBlobProof blob commitment).mapError fun e =>
        s!"cannot compute KZG proof for fast commitment verification of blob {i} in tx candidate: {e}"
      let blobHashes ← makeSidecarLoop kzg (i + 1) blobs
      pure (kzg.kzgToVersionedHash commitment :: blobHashes)

/-- `common.TxAndReceiptAndBlobs`. -/
structure TxAndReceiptAndBlobs where
  tx : L1Tx
  receipt : Receipt
  blobs : List Blob

/-- `BlockAndReceipts.RelevantTransactions`: the transactions whose receipt
has the successful status. -/
def relevantTransactions (txsWithReceipts : List TxAndReceiptAndBlobs) : List L1Tx :=
  (txsWithReceipts.filter fun t => t.receipt.status == 1).map (·.tx)

/-- `extractBlobsAndHashes`: the blobs of all the transactions of the block,
in order, and their versioned hashes. -/
def extractBlobsAndHashes (kzg : Kzg) (txsWithReceipts : List TxAndReceiptAndBlobs) :
    Except Failure (List Blob × List Hash) := do
  let blobs := txsWithReceipts.flatMap (·.blobs)
  let blobHashes ← (makeSidecarLoop kzg 0 blobs).mapError fun e =>
    .error s!"could not create blob sidecar and blob hashes. Cause: {e}"
  pure (blobs, blobHashes)

/-- `common.Hash.Hex`: `0x` and the 64 lowercase hex digits of the hash. -/
def hashHex (h : Hash) : String :=
  let digits := Nat.toDigits 16 h.toNat
  "0x" ++ String.ofList (List.replicate (64 - digits.length) '0' ++ digits)

/-- The loop of `verifyBlobHashes` from index `i` on: the rollup's hashes
against the block's, position by position. A position past the block's
hashes panics. -/
def verifyBlobHashesFrom (blobHashes : List Hash) : Nat → List Hash → Except Failure Unit
  | _, [] => .ok ()
  | i, hash :: hashes =>
      match blobHashes[i]? with
      | none => .error (.panic s!"index out of range [{i}] with length {blobHashes.length}")
      | some blobHash =>
          if hash ≠ blobHash then
            let rollupHash := hashHex hash
            let blockHash := hashHex blobHash
            .error (.error
              s!"hash mismatch at index {i}: rollupHash ({rollupHash}) != blobHash ({blockHash})")
          else verifyBlobHashesFrom blobHashes (i + 1) hashes

/-- `verifyBlobHashes`. -/
def verifyBlobHashes (rollupHashes blobHashes : List Hash) : Except Failure Unit :=
  verifyBlobHashesFrom blobHashes 0 rollupHashes

/-- The loop of `extractAndVerifyRollups` over the relevant transactions. A
rollup whose hashes do not match is skipped, with a warning. -/
def extractRollupsLoop (abi : ContractAbi) (addr : Address) (rlp : Rlp) (blobs : List Blob)
    (blobHashes : List Hash) : List L1Tx → Except Failure (List ExtRollup)
  | [] => .ok []
  | tx :: txs => do
      let t ← decodeTx abi addr tx
      match t with
      | some (.rollupHashes rollupHashes) =>
          match verifyBlobHashes rollupHashes blobHashes with
          | .error (.error _) => extractRollupsLoop abi addr rlp blobs blobHashes txs
          | .error f => .error f
          | .ok () => do
              let r ← (reconstructRollup rlp blobs).mapError fun e =>
                .error s!"could not recreate rollup from blobs. Cause: {e}"
              let rollups ← extractRollupsLoop abi addr rlp blobs blobHashes txs
              pure (r :: rollups)
      | _ => extractRollupsLoop abi addr rlp blobs blobHashes txs

/-- `rollupConsumerImpl.extractAndVerifyRollups`; `addr` is the management
contract's address. -/
def extractAndVerifyRollups (abi : ContractAbi) (addr : Address) (kzg : Kzg) (rlp : Rlp)
    (txsWithReceipts : List TxAndReceiptAndBlobs) : Except Failure (List ExtRollup) := do
  let (blobs, blobHashes) ← extractBlobsAndHashes kzg txsWithReceipts
  extractRollupsLoop abi addr rlp blobs blobHashes (relevantTransactions txsWithReceipts)

/-! ## The hash check -/

section Check

variable (blobHashes : List Hash)

/-- The check from index `i` on passes exactly when the rollup's hashes are
a prefix of the block's from `i` on. -/
theorem verifyBlobHashesFrom_eq_ok (hashes : List Hash) :
    ∀ i, verifyBlobHashesFrom blobHashes i hashes = .ok () ↔ hashes <+: blobHashes.drop i := by
  induction hashes with
  | nil =>
      intro i
      simp [verifyBlobHashesFrom]
  | cons hash hashes ih =>
      intro i
      cases hi : blobHashes[i]? with
      | none =>
          -- the block has no hash at `i`, so no hash starts there
          have hdrop : blobHashes.drop i = [] :=
            List.drop_eq_nil_iff.mpr (List.getElem?_eq_none_iff.mp hi)
          simp [verifyBlobHashesFrom, hi, hdrop]
      | some blobHash =>
          obtain ⟨hlt, hget⟩ := List.getElem?_eq_some_iff.mp hi
          have hdrop : blobHashes.drop i = blobHash :: blobHashes.drop (i + 1) := by
            rw [List.drop_eq_getElem_cons hlt, hget]
          by_cases heq : hash = blobHash
          · simp [verifyBlobHashesFrom, hi, heq, hdrop, ih]
          · simp [verifyBlobHashesFrom, hi, heq, hdrop]

/-- The check passes exactly when the rollup's hashes are a prefix of the
block's. -/
theorem verifyBlobHashes_eq_ok (rollupHashes : List Hash) :
    verifyBlobHashes rollupHashes blobHashes = .ok () ↔ rollupHashes <+: blobHashes := by
  rw [verifyBlobHashes, verifyBlobHashesFrom_eq_ok, List.drop_zero]

/-- The check does not panic when the rollup has no more hashes than the
block from `i` on. -/
theorem verifyBlobHashesFrom_not_panic (hashes : List Hash) :
    ∀ i, i + hashes.length ≤ blobHashes.length → ∀ f,
      verifyBlobHashesFrom blobHashes i hashes = .error f → ∃ msg, f = .error msg := by
  induction hashes with
  | nil =>
      intro i _ f hf
      cases hf
  | cons hash hashes ih =>
      intro i hlen f hf
      have hlt : i < blobHashes.length := by
        simp only [List.length_cons] at hlen
        omega
      have hi : blobHashes[i]? = some blobHashes[i] := List.getElem?_eq_getElem hlt
      by_cases heq : hash = blobHashes[i]
      · simp only [verifyBlobHashesFrom, hi, heq, ne_eq, not_true_eq_false, if_false] at hf
        exact ih (i + 1) (by simp only [List.length_cons] at hlen; omega) f hf
      · simp only [verifyBlobHashesFrom, hi, heq, ne_eq, not_false_eq_true, if_true,
          Except.error.injEq] at hf
        exact ⟨_, hf.symm⟩

end Check

/-! ## The rollups of a block -/

/-- The hashes a transaction announces as a rollup, if it decodes as one. -/
def rollupHashesOf (abi : ContractAbi) (addr : Address) (tx : L1Tx) : Option (List Hash) :=
  match decodeTx abi addr tx with
  | .ok (some (.rollupHashes hs)) => some hs
  | _ => none

section Extract

variable {abi : ContractAbi} {addr : Address} {rlp : Rlp} {blobs : List Blob}
  {blobHashes : List Hash}

/-- A transaction that decodes as anything but a rollup is passed over. -/
theorem extractRollupsLoop_cons_skip {tx : L1Tx} {txs : List L1Tx} {t : Option L1Transaction}
    (ht : decodeTx abi addr tx = .ok t) (hnot : ∀ hs, t ≠ some (.rollupHashes hs)) :
    extractRollupsLoop abi addr rlp blobs blobHashes (tx :: txs) =
      extractRollupsLoop abi addr rlp blobs blobHashes txs := by
  -- `hnot` sends the match on the decoded transaction to its last branch
  simp only [extractRollupsLoop, ht, Result.ok_bind]

/-- A transaction that decodes as anything but a rollup announces no
hashes. -/
theorem rollupHashesOf_of_not_rollup {tx : L1Tx} {t : Option L1Transaction}
    (ht : decodeTx abi addr tx = .ok t) (hnot : ∀ hs, t ≠ some (.rollupHashes hs)) :
    rollupHashesOf abi addr tx = none := by
  unfold rollupHashesOf
  split
  · rename_i hs heq
    rw [ht] at heq
    exact absurd (Except.ok.inj heq) (hnot hs)
  · rfl

/-- With every transaction decoding, the rollups' hashes no more than the
block's, and the blobs reconstructing to `R`: the loop gives `R` once for
each rollup transaction whose hashes are a prefix of the block's. -/
theorem extractRollupsLoop_eq {R : ExtRollup} (hrec : reconstructRollup rlp blobs = .ok R)
    (txs : List L1Tx) (hdecode : ∀ tx ∈ txs, ∃ t, decodeTx abi addr tx = .ok t)
    (hlen : ∀ tx ∈ txs, ∀ hs, rollupHashesOf abi addr tx = some hs →
      hs.length ≤ blobHashes.length) :
    extractRollupsLoop abi addr rlp blobs blobHashes txs =
      .ok ((txs.filter fun tx => (rollupHashesOf abi addr tx).any (·.isPrefixOf blobHashes)).map
        fun _ => R) := by
  induction txs with
  | nil => rfl
  | cons tx txs ih =>
      obtain ⟨t, ht⟩ := hdecode tx List.mem_cons_self
      have hrest := ih (fun tx' h' => hdecode tx' (List.mem_cons_of_mem _ h'))
        (fun tx' h' => hlen tx' (List.mem_cons_of_mem _ h'))
      by_cases hroll : ∃ hs, t = some (.rollupHashes hs)
      · obtain ⟨hs, rfl⟩ := hroll
        have hof : rollupHashesOf abi addr tx = some hs := by simp [rollupHashesOf, ht]
        by_cases hpre : hs <+: blobHashes
        · -- the hashes match: the rollup of all the blobs is added
          have hv : verifyBlobHashes hs blobHashes = .ok () :=
            (verifyBlobHashes_eq_ok blobHashes hs).mpr hpre
          have hbool : hs.isPrefixOf blobHashes = true := List.isPrefixOf_iff_prefix.mpr hpre
          simp [extractRollupsLoop, ht, hv, hrec, hrest, hof, hbool, Except.mapError, pure,
            Except.pure]
        · -- a mismatch is an error, not a panic, and the transaction is skipped
          have hbool : hs.isPrefixOf blobHashes = false := by
            rw [Bool.eq_false_iff]
            exact fun hb => hpre (List.isPrefixOf_iff_prefix.mp hb)
          have hle := hlen tx List.mem_cons_self hs hof
          cases hv : verifyBlobHashes hs blobHashes with
          | ok u => exact absurd ((verifyBlobHashes_eq_ok blobHashes hs).mp hv) hpre
          | error f =>
              obtain ⟨msg, rfl⟩ := verifyBlobHashesFrom_not_panic blobHashes hs 0
                (by omega) f hv
              simp [extractRollupsLoop, ht, hv, hrest, hof, hbool]
      · have hnot : ∀ hs, t ≠ some (.rollupHashes hs) := fun hs heq => hroll ⟨hs, heq⟩
        rw [extractRollupsLoop_cons_skip ht hnot, hrest]
        simp [rollupHashesOf_of_not_rollup ht hnot]

end Extract

section Block

variable {abi : ContractAbi} {addr : Address} {kzg : Kzg} {rlp : Rlp}
  {block : List TxAndReceiptAndBlobs}

/-- What the enclave extracts from a block whose blobs hash and reconstruct
to `R`, when the successful transactions decode and announce no more hashes
than the block has: `R` once for each successful rollup transaction whose
hashes are a prefix of the block's. -/
theorem extractAndVerifyRollups_eq {blobHashes : List Hash} {R : ExtRollup}
    (hkzg : makeSidecarLoop kzg 0 (block.flatMap (·.blobs)) = .ok blobHashes)
    (hrec : reconstructRollup rlp (block.flatMap (·.blobs)) = .ok R)
    (hdecode : ∀ tx ∈ relevantTransactions block, ∃ t, decodeTx abi addr tx = .ok t)
    (hlen : ∀ tx ∈ relevantTransactions block, ∀ hs, rollupHashesOf abi addr tx = some hs →
      hs.length ≤ blobHashes.length) :
    extractAndVerifyRollups abi addr kzg rlp block =
      .ok (((relevantTransactions block).filter fun tx =>
        (rollupHashesOf abi addr tx).any (·.isPrefixOf blobHashes)).map fun _ => R) := by
  simp only [extractAndVerifyRollups, extractBlobsAndHashes, hkzg, Except.mapError,
    Result.ok_bind]
  exact extractRollupsLoop_eq hrec _ hdecode hlen

/-- A reverted transaction to the management contract whose blobs the host
fetched, ahead of the sequencer's successful rollup transaction: when the
block's first blob does not hash to the sequencer's first hash, the enclave
extracts no rollup from the block. -/
theorem extractAndVerifyRollups_revertedBlobsFirst (reverted sequencer : TxAndReceiptAndBlobs)
    {hash h₀ : Hash} {hashes blobHashes : List Hash}
    (hreverted : reverted.receipt.status ≠ 1) (hsuccess : sequencer.receipt.status = 1)
    (hdecode : decodeTx abi addr sequencer.tx = .ok (some (.rollupHashes (hash :: hashes))))
    (hkzg : makeSidecarLoop kzg 0 (reverted.blobs ++ sequencer.blobs) = .ok (h₀ :: blobHashes))
    (hne : hash ≠ h₀) :
    extractAndVerifyRollups abi addr kzg rlp [reverted, sequencer] = .ok [] := by
  have hrel : relevantTransactions [reverted, sequencer] = [sequencer.tx] := by
    simp [relevantTransactions, hreverted, hsuccess]
  have hblobs : [reverted, sequencer].flatMap (·.blobs) = reverted.blobs ++ sequencer.blobs := by
    simp
  simp [extractAndVerifyRollups, extractBlobsAndHashes, hblobs, hkzg, hrel, extractRollupsLoop,
    hdecode, verifyBlobHashes, verifyBlobHashesFrom, hne, Except.mapError]

end Block

/-- The management contract's ABI, as far as the selector `01020304` of
`AddRollup` goes. -/
def addRollupAbi : ContractAbi :=
  ⟨fun sel => if sel = [1, 2, 3, 4] then .ok addRollupMethod else .error "no method with id",
    fun _ _ => .error "no method", fun _ => .error "illegal base64 data"⟩

/-- A blob of ones. -/
def onesBlob : Blob := fun _ => 1

/-- Bytes 1 to 31 of every field element of `periodicBlob`. Repeated, they
start with `0xb8 0x55`, the tag of an 85-byte string, followed by geth's
encoding of `periodicRollup`: the hashes of its header are read from the
period itself. -/
def rollupPeriod : List UInt8 :=
  [0xb8, 0x55, 0xf8, 0x53, 0xf8, 0x45, 0xa0, 0, 0xc0, 0xa0, 0, 0x80, 0x80, 0x80, 0x8a,
    1, 2, 3, 4, 5, 6, 7, 8, 9, 10, 0, 0, 0, 0, 0, 0]

/-- A blob whose 4096 field elements all equal `0` followed by
`rollupPeriod`. -/
def periodicBlob : Blob := fun i => if i % 32 = 0 then 0 else rollupPeriod.getD (i % 32 - 1) 0

/-- The rollup `periodicBlob` carries: no message, no signature, no calldata
header, the payload `1, …, 10`. -/
def periodicRollup : ExtRollup :=
  ⟨⟨0x00c0a0008080808a0102030405060708090a000000000000b855f853f845a000, [],
    0x008080808a0102030405060708090a000000000000b855f853f845a000c0a000, [], 0⟩, [],
    [1, 2, 3, 4, 5, 6, 7, 8, 9, 10]⟩

/-- `kzg4844.BlobToCommitment` of the two blobs, compressed G1 points. The
field elements of each blob are all one scalar `c`, so the commitment is `c`
times the generator of G1: the Lagrange basis of the setup sums to one. -/
def onesCommitment : List UInt8 :=
  FixedBytes.toBytes 48
    0xaa1a1c26055a329817a5759d877a2795f9499b97d6056edde0eea39512f24e8bc874b4471f0501127abb1ea0d9f68ac1
def periodicCommitment : List UInt8 :=
  FixedBytes.toBytes 48
    0x8b7de2a8053d8e01e5f19c0684ce096ffece57615fff899adfa2369ea8a4a0f1d904998c983c147e0536854c0e2dadc9

/-- `KZGToVersionedHash` of the two commitments: their SHA-256 with its first
byte set to the version `0x01`. -/
def onesVersionedHash : Hash := 0x016c357b8b3a6b3fd82386e7bebf77143d537cdb1c856509661c412602306a04
def periodicVersionedHash : Hash :=
  0x015870db8c9bb647d26de5f2d5aef2a9105e14d527ea859408f62d4db3719d4a

/-- kzg4844 on the two blobs of the block, as a table of its values: the
blobs differ in byte 1. The proofs are not read. -/
def blockKzg : Kzg :=
  ⟨fun blob => .ok (if blob 1 = 1 then onesCommitment else periodicCommitment), fun _ _ => .ok [],
    fun c => if c = onesCommitment then onesVersionedHash
      else if c = periodicCommitment then periodicVersionedHash else 0⟩

/-- A reverted `AddRollup` blob transaction to the contract at 7, carrying a
blob of ones, and the sequencer's successful one, carrying `periodicBlob`;
each announces its own blob's versioned hash. -/
def revertedRollupTx : TxAndReceiptAndBlobs :=
  ⟨⟨some 7, [1, 2, 3, 4], blobTxType, [onesVersionedHash]⟩, ⟨0, 0, 0, 0, [], 0⟩, [onesBlob]⟩
def sequencerRollupTx : TxAndReceiptAndBlobs :=
  ⟨⟨some 7, [1, 2, 3, 4], blobTxType, [periodicVersionedHash]⟩, ⟨1, 1, 1, 0, [], 0⟩,
    [periodicBlob]⟩

/-- The sequencer's blob alone reconstructs to `periodicRollup`: its bodies
start with geth's encoding of the rollup's encoding. -/
theorem reconstructRollup_periodicBlob :
    reconstructRollup gethRlp [periodicBlob] = .ok periodicRollup := by
  have hprefix : (bodies periodicBlob).take 87 =
      gethRlp.encodeBytes (gethRlp.encodeRollup periodicRollup) := by
    decide +kernel
  have hstream : decodeBlobs gethRlp [periodicBlob] = .ok (gethRlp.encodeRollup periodicRollup) := by
    rw [decodeBlobs, decodeBlobsLoop_eq, Result.ok_bind, List.flatMap_singleton,
      ← List.take_append_drop 87 (bodies periodicBlob), hprefix, List.append_assoc]
    exact Rlp.decodeString_encodeString (b := gethRlp.encodeRollup periodicRollup) (by decide) _
  rw [reconstructRollup, hstream]
  simp only [Except.mapError, Result.ok_bind,
    decodeRollup_encodeRollup periodicRollup (by decide)]

/-- The sequencer's blob decodes to a rollup on its own, yet the block with
the reverted transaction first gives none. -/
theorem extractAndVerifyRollups_frontRun :
    (∃ r, reconstructRollup gethRlp sequencerRollupTx.blobs = .ok r) ∧
      revertedRollupTx.receipt.status ≠ 1 ∧ sequencerRollupTx.receipt.status = 1 ∧
      decodeTx addRollupAbi 7 sequencerRollupTx.tx =
        .ok (some (.rollupHashes [periodicVersionedHash])) ∧
      makeSidecarLoop blockKzg 0 (revertedRollupTx.blobs ++ sequencerRollupTx.blobs) =
        .ok [onesVersionedHash, periodicVersionedHash] ∧
      periodicVersionedHash ≠ onesVersionedHash ∧
      extractAndVerifyRollups addRollupAbi 7 blockKzg gethRlp
        [revertedRollupTx, sequencerRollupTx] = .ok [] := by
  have hdec : decodeTx addRollupAbi 7 sequencerRollupTx.tx =
      .ok (some (.rollupHashes [periodicVersionedHash])) := by
    decide
  have hkzg : makeSidecarLoop blockKzg 0 (revertedRollupTx.blobs ++ sequencerRollupTx.blobs) =
      .ok [onesVersionedHash, periodicVersionedHash] := by
    decide
  exact ⟨⟨_, reconstructRollup_periodicBlob⟩, by decide, by decide, hdec, hkzg, by decide,
    extractAndVerifyRollups_revertedBlobsFirst revertedRollupTx sequencerRollupTx (by decide)
      (by decide) hdec hkzg (by decide)⟩

/-- The sequencer's transaction alone in its block gives its rollup. -/
theorem extractAndVerifyRollups_eq_sequencerAlone :
    extractAndVerifyRollups addRollupAbi 7 blockKzg gethRlp [sequencerRollupTx] =
      .ok [periodicRollup] := by
  have hrel : relevantTransactions [sequencerRollupTx] = [sequencerRollupTx.tx] := by
    decide
  have hkzg : makeSidecarLoop blockKzg 0 ([sequencerRollupTx].flatMap (·.blobs)) =
      .ok [periodicVersionedHash] := by
    decide
  have hof : rollupHashesOf addRollupAbi 7 sequencerRollupTx.tx = some [periodicVersionedHash] := by
    decide
  have hdecode : ∀ tx ∈ relevantTransactions [sequencerRollupTx],
      ∃ t, decodeTx addRollupAbi 7 tx = .ok t := by
    rw [hrel]
    intro tx htx
    rw [List.mem_singleton.mp htx]
    exact ⟨_, rfl⟩
  have hlen : ∀ tx ∈ relevantTransactions [sequencerRollupTx], ∀ hs,
      rollupHashesOf addRollupAbi 7 tx = some hs → hs.length ≤ [periodicVersionedHash].length := by
    rw [hrel]
    intro tx htx hs hhs
    rw [List.mem_singleton.mp htx, hof] at hhs
    cases hhs
    exact Nat.le_refl _
  have hpre : [periodicVersionedHash].isPrefixOf [periodicVersionedHash] = true := by decide
  rw [extractAndVerifyRollups_eq hkzg reconstructRollup_periodicBlob hdecode hlen, hrel]
  simp only [List.filter_cons, List.filter_nil, hof, Option.any_some, hpre, if_true,
    List.map_cons, List.map_nil]

end GoTen.Enclave.RollupConsumer

import GoTen.Common.Types
import GoTen.Verified.Abi
import GoTen.Verified.BigInt
import GoTen.Verified.Result

/-!
# The check of the batch-end receipt (`system/hooks.go`)

After the priced transactions of a batch ran, the executor sends a synthetic
`onBlock` transaction to the `TransactionPostProcessor` contract, whose
registered callbacks may emit any event. `VerifyOnBlockReceipt` checks the
receipt of that transaction: it succeeded and has logs, the first
`TransactionsConverted` event counts the batch's transactions, and every
`TransactionProcessed` event decodes.

The two checks are two scans over the logs. The first tests that a log has
a topic before reading it; the second reads `Topics[0]` of every log.

## Main results

* `verifyOnBlockReceipt_anonymousLog`: a log without topics panics the
  check once the first scan passed and the logs before it decode.
-/

namespace GoTen.Enclave.SystemHooks

open GoTen.Common
open GoTen.Verified

/-- What the check uses of the generated `ZenBase` ABI: the ids of the two
events and geth's `Unpack` of the second. -/
structure ZenBaseAbi where
  transactionsConvertedID : Hash
  transactionProcessedID : Hash
  unpackTransactionProcessed : List UInt8 → Except String Unit

/-- The body of the first scan at a `TransactionsConverted` log: its data is
one word, the number of transactions converted, read with `big.Int.Uint64`. -/
def checkConvertedLog (transactions : List Tx) (log : Log) : Except Failure Unit :=
  if log.data.length ≠ 32 then
    .error (.error "invalid data length for TransactionsConverted event")
  else
    let transactionsConverted := BigInt.uint64 (Abi.wordValue log.data)
    if transactionsConverted ≠ UInt64.ofNat transactions.length then
      let expected := transactions.length
      let got := transactionsConverted.toNat
      .error (.error s!"mismatch in TransactionsConverted event: expected {expected}, got {got}")
    else .ok ()

/-- The first scan: the first log whose first topic is the
`TransactionsConverted` id is checked, and the scan breaks there. -/
def checkTransactionsConverted (abi : ZenBaseAbi) (transactions : List Tx) :
    List Log → Except Failure Unit
  | [] => .ok ()
  | log :: logs =>
      -- `len(log.Topics) > 0 && log.Topics[0] == ID`
      if log.topics.head? = some abi.transactionsConvertedID then
        checkConvertedLog transactions log
      else checkTransactionsConverted abi transactions logs

/-- The second scan: every log whose first topic is the
`TransactionProcessed` id must decode. -/
def checkTransactionsProcessed (abi : ZenBaseAbi) : List Log → Except Failure Unit
  | [] => .ok ()
  | log :: logs =>
      match log.topics with
      | [] => .error (.panic "index out of range [0] with length 0")
      | topic0 :: _ =>
          if topic0 ≠ abi.transactionProcessedID then checkTransactionsProcessed abi logs
          else
            match abi.unpackTransactionProcessed log.data with
            | .error e => .error (.error ("failed to unpack log " ++ e))
            | .ok _ => checkTransactionsProcessed abi logs

/-- `systemContractCallbacks.VerifyOnBlockReceipt`; `getAbi` is
`ZenBaseMetaData.GetAbi`. The source tests for a receipt without logs twice. -/
def verifyOnBlockReceipt (getAbi : Except String ZenBaseAbi) (transactions : List Tx)
    (receipt : Receipt) : Except Failure Bool := do
  if receipt.status ≠ 1 then throw (.error "transaction failed")
  if receipt.logs.isEmpty then throw (.error "transaction has no logs")
  let abi ← getAbi.mapError fun e => .error ("failed to get ABI " ++ e)
  if receipt.logs.isEmpty then throw (.error "no logs in onBlockReceipt")
  checkTransactionsConverted abi transactions receipt.logs
  checkTransactionsProcessed abi receipt.logs
  return true

/-! ## The two scans -/

/-- The second scan reaches the first log without topics if the logs before
it decode, and panics there. -/
theorem checkTransactionsProcessed_anonymousLog (abi : ZenBaseAbi) (pre post : List Log)
    (l : Log) (hanon : l.topics = []) :
    checkTransactionsProcessed abi (pre ++ l :: post) =
      (checkTransactionsProcessed abi pre >>= fun _ =>
        .error (.panic "index out of range [0] with length 0")) := by
  induction pre with
  | nil => simp [checkTransactionsProcessed, hanon]
  | cons log pre ih =>
      simp only [List.cons_append, checkTransactionsProcessed]
      cases log.topics with
      | nil => rfl
      | cons topic0 rest =>
          by_cases hid : topic0 = abi.transactionProcessedID
          · cases abi.unpackTransactionProcessed log.data with
            | error e => simp [hid]
            | ok u => simp [hid, ih]
          · simp [hid, ih]

/-! ## The receipt check -/

/-- A successful receipt whose `TransactionsConverted` log checks out, with
a log without topics after logs that decode: the check panics. -/
theorem verifyOnBlockReceipt_anonymousLog (getAbi : Except String ZenBaseAbi)
    (abi : ZenBaseAbi) (transactions : List Tx) (receipt : Receipt) (pre post : List Log)
    (l : Log) (hstatus : receipt.status = 1) (habi : getAbi = .ok abi)
    (hlogs : receipt.logs = pre ++ l :: post) (hanon : l.topics = [])
    (hconv : checkTransactionsConverted abi transactions receipt.logs = .ok ())
    (hpre : checkTransactionsProcessed abi pre = .ok ()) :
    verifyOnBlockReceipt getAbi transactions receipt =
      .error (.panic "index out of range [0] with length 0") := by
  have hne : receipt.logs.isEmpty = false := by simp [hlogs]
  have hproc : checkTransactionsProcessed abi receipt.logs =
      .error (.panic "index out of range [0] with length 0") := by
    rw [hlogs, checkTransactionsProcessed_anonymousLog abi pre post l hanon, hpre]
    rfl
  simp [verifyOnBlockReceipt, hstatus, hne, habi, Except.mapError, hconv, hproc]

/-- A batch-end receipt whose one log is a `LOG0` event of a callback: the
first scan skips it, the second panics on it. -/
theorem verifyOnBlockReceipt_anonymousLog_log0 :
    verifyOnBlockReceipt (.ok ⟨1, 2, fun _ => .ok ()⟩) [] ⟨0, 1, 0, 0, [⟨5, [], [], 0⟩], 0⟩ =
      .error (.panic "index out of range [0] with length 0") :=
  verifyOnBlockReceipt_anonymousLog _ ⟨1, 2, fun _ => .ok ()⟩ [] _ [] [] ⟨5, [], [], 0⟩ rfl rfl
    rfl rfl rfl rfl

end GoTen.Enclave.SystemHooks

import GoTen.Enclave.BatchExecutor
import GoTen.Verified.BigInt

/-!
# Paying for L1 publishing (`evm.executeTransaction`, `applyTx`)

A priced transaction pays, before it runs, the cost of publishing it on L1:
`applyTx` takes `PublishingCost` from the sender with geth's
`StateDB.SubBalance` and gives it to the batch's coinbase, and lowers the
message's gas limit by the gas that cost amounts to at the batch's base fee.
If the EVM then refuses the transaction, `executeTransaction` reverts to the
snapshot taken before the payment.

Balances are geth's `uint256` words, and `SubBalance` subtracts modulo
`2 ^ 256`. The batch executor admits a transaction when its cost is at most
the sender's balance before the batch (`filterTransactionsWithSufficientFunds`),
one transaction at a time, while each payment is taken from the balance
that the transactions before it left.

geth's `TransactionToMessage` and `ApplyTransactionWithEVM` are parameters
(`Geth`), acting on the balances.

## Main results

* `subBalance_toNat`: `SubBalance` takes the amount off when the balance
  covers it and wraps around `2 ^ 256` otherwise.
* `payL1Cost_eq`: the payment takes the cost from the sender's balance as
  the transactions before left it, and gives it to the coinbase.
* `applyTx_paid`: a transaction that pays and that geth runs ends with
  geth's balances and the execution fee paid to the coinbase.
* `executeTransactions_wrapsBalance`: two transactions of one sender, each
  affordable before the batch and together not, both admitted; the first
  runs and leaves less than the second one's cost, and the second's payment
  wraps the sender's balance to nearly `2 ^ 256`.
-/

namespace GoTen.Enclave.L1Payment

open GoTen.Common
open GoTen.Verified
open GoTen.Enclave.BatchExecutor

/-- The balances of the `StateDB`, as `uint256` words. -/
abbrev Balances := Address → BitVec 256

/-- `StateDB.SubBalance`: `uint256` subtraction, which wraps. -/
def subBalance (s : Balances) (a : Address) (amount : BitVec 256) : Balances :=
  Function.update s a (s a - amount)

/-- `StateDB.AddBalance`. -/
def addBalance (s : Balances) (a : Address) (amount : BitVec 256) : Balances :=
  Function.update s a (s a + amount)

/-- `uint256.MustFromBig`. -/
def mustFromBig (x : Nat) : Except Failure (BitVec 256) :=
  if 2 ^ 256 ≤ x then .error (.panic "uint256: overflow") else .ok (BitVec.ofNat 256 x)

/-- The fields of geth's `core.Message` that the payment reads. -/
structure Message where
  sender : Address
  gasLimit : UInt64
  deriving DecidableEq, Repr

/-- What `applyTx` uses of geth. -/
structure Geth where
  /-- `TransactionToMessage` with the batch's signer and base fee. -/
  transactionToMessage : Tx → Except String Message
  /-- `ApplyTransactionWithEVM`: the receipt and the balances after the
  transaction, or geth's refusal, which changes nothing. -/
  applyTransactionWithEVM : Balances → Message → Tx → Except String (Receipt × Balances)

/-- `ErrGasNotEnoughForL1`. -/
def errGasNotEnoughForL1 : String := "gas limit too low to pay for execution and l1 fees"

/-- The L1 payment of `applyTx`: the gas it takes from the message, and the
balances after the sender paid the coinbase. -/
def payL1Cost (header : BatchHeader) (statedb : Balances) (msg : Message) (l1cost : Nat) :
    Except Failure (Message × Balances × Nat) := do
  -- `l1Gas.Div(l1cost, header.BaseFee)`
  if header.baseFee = 0 then throw (.panic "division by zero")
  let l1Gas := l1cost / header.baseFee + 1
  if msg.gasLimit < BigInt.uint64 l1Gas then
    let have_ := msg.gasLimit
    throw (.error s!"{errGasNotEnoughForL1}. Want at least: {l1Gas} have: {have_}")
  let amount ← mustFromBig l1cost
  let statedb := subBalance statedb msg.sender amount
  let statedb := addBalance statedb header.coinbase amount
  pure ({ msg with gasLimit := msg.gasLimit - BigInt.uint64 l1Gas }, statedb, l1Gas)

/-- `applyTx`. A refusal by geth is returned as an error; the payment it
hands back is discarded with the snapshot the caller reverts to. -/
def applyTx (geth : Geth) (header : BatchHeader) (noBaseFee : Bool) (statedb : Balances)
    (tx : PricedTx) : Except Failure (Receipt × Balances) := do
  let msg ← (geth.transactionToMessage tx.tx).mapError Failure.error
  let l1cost := tx.publishingCost
  let (msg, statedb, l1Gas) ←
    if l1cost ≠ 0 then payL1Cost header statedb msg l1cost else pure (msg, statedb, 0)
  match geth.applyTransactionWithEVM statedb msg tx.tx with
  | .error e => throw (.error e)
  | .ok (receipt, statedb) =>
      let statedb ← if header.coinbase ≠ 0 ∧ !noBaseFee then do
          let executionGasCost ← mustFromBig (receipt.gasUsed.toNat * header.baseFee)
          pure (addBalance statedb header.coinbase executionGasCost)
        else pure statedb
      pure ({ receipt with gasUsed := receipt.gasUsed + BigInt.uint64 l1Gas }, statedb)

/-- `executeTransaction`, as far as the balances go: the receipt and the
balances after it, or no receipt and the balances of the snapshot. -/
def executeTransaction (geth : Geth) (header : BatchHeader) (noBaseFee : Bool)
    (s : Balances) (t : PricedTx) : Except Failure (Option Receipt × Balances) :=
  match applyTx geth header noBaseFee s t with
  | .ok (receipt, s') => .ok (some receipt, s')
  | .error (.error _) => .ok (none, s)
  | .error f => .error f

/-- The balances along the loop of `ExecuteTransactions`. -/
def executeTransactions (geth : Geth) (header : BatchHeader) (noBaseFee : Bool) :
    Balances → List PricedTx → Except Failure Balances
  | s, [] => .ok s
  | s, t :: ts => do
      let (_, s') ← executeTransaction geth header noBaseFee s t
      executeTransactions geth header noBaseFee s' ts

/-! ## Subtraction modulo `2 ^ 256` -/

@[simp] theorem subBalance_self (s : Balances) (a : Address) (amount : BitVec 256) :
    subBalance s a amount a = s a - amount := by
  simp [subBalance]

/-- `SubBalance` takes the amount off when the balance covers it, and wraps
around `2 ^ 256` otherwise. -/
theorem subBalance_toNat (s : Balances) (a : Address) (amount : BitVec 256) :
    (subBalance s a amount a).toNat =
      if amount.toNat ≤ (s a).toNat then (s a).toNat - amount.toNat
      else 2 ^ 256 + (s a).toNat - amount.toNat := by
  have hs := (s a).isLt
  have hx := amount.isLt
  rw [subBalance_self, BitVec.toNat_sub]
  split
  · rename_i hle
    -- the sum is one `2 ^ 256` above the difference
    rw [show 2 ^ 256 - amount.toNat + (s a).toNat = 2 ^ 256 + ((s a).toNat - amount.toNat) by
      omega, Nat.add_mod_left, Nat.mod_eq_of_lt (by omega)]
  · rw [Nat.mod_eq_of_lt (by omega)]
    omega

/-! ## The payment -/

/-- With a positive base fee, a gas limit that covers the L1 gas and a cost
that fits a `uint256`, the payment takes the cost from the sender's balance
as it stands, modulo `2 ^ 256`, and gives it to the coinbase. -/
theorem payL1Cost_eq {header : BatchHeader} {statedb : Balances} {msg : Message} {l1cost : Nat}
    (hfee : header.baseFee ≠ 0)
    (hgas : BigInt.uint64 ((l1cost / header.baseFee + 1 : Nat) : Int) ≤ msg.gasLimit)
    (hcost : l1cost < 2 ^ 256) :
    payL1Cost header statedb msg l1cost =
      .ok ({ msg with
          gasLimit := msg.gasLimit - BigInt.uint64 ((l1cost / header.baseFee + 1 : Nat) : Int) },
        addBalance (subBalance statedb msg.sender (BitVec.ofNat 256 l1cost)) header.coinbase
          (BitVec.ofNat 256 l1cost),
        l1cost / header.baseFee + 1) := by
  have hmust : mustFromBig l1cost = .ok (BitVec.ofNat 256 l1cost) := by
    rw [mustFromBig, if_neg (by omega)]
  simp only [payL1Cost, hfee, hmust, if_false]
  -- what is left is the gas check, with the cast pushed inside
  simpa using hgas

/-- A payment that goes through had a gas limit covering the L1 gas, and
leaves the message the rest of it. -/
theorem payL1Cost_eq_ok {header : BatchHeader} {statedb statedb' : Balances} {msg msg' : Message}
    {l1cost l1Gas : Nat} (h : payL1Cost header statedb msg l1cost = .ok (msg', statedb', l1Gas)) :
    BigInt.uint64 ((l1cost / header.baseFee + 1 : Nat) : Int) ≤ msg.gasLimit ∧
      msg'.gasLimit = msg.gasLimit - BigInt.uint64 ((l1cost / header.baseFee + 1 : Nat) : Int) := by
  unfold payL1Cost at h
  split at h
  · cases h
  dsimp only at h
  split at h
  · cases h
  rename_i hgas
  obtain ⟨amount, -, hpay⟩ := Result.bind_eq_ok.mp h
  cases hpay
  exact ⟨UInt64.not_lt.mp hgas, rfl⟩

/-- `AddBalance` at one account leaves the others. -/
@[simp] theorem addBalance_of_ne (s : Balances) {a b : Address} (amount : BitVec 256) (h : b ≠ a) :
    addBalance s a amount b = s b := by
  simp [addBalance, h]

/-- A transaction that pays its L1 cost and that geth then runs, in a batch
with a coinbase: the balances are geth's after the payment, and the
coinbase gets the execution fee on top. -/
theorem applyTx_paid {geth : Geth} {header : BatchHeader} {s s' : Balances} {tx : PricedTx}
    {msg : Message} {receipt : Receipt}
    (hmsg : geth.transactionToMessage tx.tx = .ok msg) (hpaid : tx.publishingCost ≠ 0)
    (hfee : header.baseFee ≠ 0)
    (hgas : BigInt.uint64 ((tx.publishingCost / header.baseFee + 1 : Nat) : Int) ≤ msg.gasLimit)
    (hcost : tx.publishingCost < 2 ^ 256)
    (hevm : geth.applyTransactionWithEVM
      (addBalance (subBalance s msg.sender (BitVec.ofNat 256 tx.publishingCost)) header.coinbase
        (BitVec.ofNat 256 tx.publishingCost))
      { msg with gasLimit :=
          msg.gasLimit - BigInt.uint64 ((tx.publishingCost / header.baseFee + 1 : Nat) : Int) }
      tx.tx = .ok (receipt, s'))
    (hcoinbase : header.coinbase ≠ 0) (hexec : receipt.gasUsed.toNat * header.baseFee < 2 ^ 256) :
    applyTx geth header false s tx =
      .ok ({ receipt with gasUsed :=
          receipt.gasUsed + BigInt.uint64 ((tx.publishingCost / header.baseFee + 1 : Nat) : Int) },
        addBalance s' header.coinbase (BitVec.ofNat 256 (receipt.gasUsed.toNat * header.baseFee))) := by
  have hmust : mustFromBig (receipt.gasUsed.toNat * header.baseFee) =
      .ok (BitVec.ofNat 256 (receipt.gasUsed.toNat * header.baseFee)) := by
    rw [mustFromBig, if_neg (by omega)]
  simp only [applyTx, hmsg, Except.mapError, Result.ok_bind, payL1Cost_eq hfee hgas hcost, hevm,
    Bool.not_false, hmust, pure_bind]
  rw [if_pos hpaid, if_pos ⟨hcoinbase, trivial⟩]
  rfl

/-- A step of the loop of `ExecuteTransactions`. -/
theorem executeTransactions_cons {geth : Geth} {header : BatchHeader} {noBaseFee : Bool}
    {s s' : Balances} {t : PricedTx} {ts : List PricedTx} {r : Option Receipt}
    (h : executeTransaction geth header noBaseFee s t = .ok (r, s')) :
    executeTransactions geth header noBaseFee s (t :: ts) =
      executeTransactions geth header noBaseFee s' ts := by
  simp [executeTransactions, h, bind, Except.bind]

/-! ## Two transactions of one sender -/

/-- geth charging 21000 gas at a price of one to sender zero, whose message
asks for 51001 gas, and refusing a sender whose balance does not cover the
gas limit at that price. -/
def transferGeth : Geth where
  transactionToMessage _ := .ok ⟨0, 51001⟩
  applyTransactionWithEVM s msg tx :=
    if (s msg.sender).toNat < msg.gasLimit.toNat then
      .error "insufficient funds for gas * price + value"
    else .ok (⟨tx.hash, 1, 0, 21000, [], 0⟩, subBalance s msg.sender 21000)

/-- A batch at base fee one, paying coinbase 9. -/
def payHeader : BatchHeader := { zeroHeader with baseFee := 1, coinbase := 9 }

/-- Sender zero holds 51001 before the batch. -/
def fundedBalances : Balances := fun a => if a = 0 then 51001 else 0

/-- Two priced transactions of sender zero. -/
def paidTx1 : Tx := ⟨1, 1, 1, some 5⟩
def paidTx2 : Tx := ⟨2, 1, 1, some 5⟩

/-- The executor's collaborators as the funds filter reads them: every
transaction is sender zero's and costs 30000 to publish; the EVM is not
run here. -/
def paymentExecutor : BatchExecutor Balances Unit where
  fetchBlock _ := none
  fetchBatchHeader _ := none
  getBatchState _ := .ok fundedBalances
  rlpHash h := h.root
  evm := ⟨fun _ => .ok (), fun _ _ _ _ _ _ => .error "not run", fun s => s⟩
  batchGasLimit := 0
  messageBus := ⟨0, ⟨1, 2, fun _ => .error "no event", fun _ => .error "no event"⟩, fun _ => 0⟩
  retrieveInboundMessages _ _ _ := .ok ([], [])
  createSyntheticTransactions _ _ := []
  executeValueTransfers _ s := s
  getAuthenticatedSender _ := some 0
  getBalance s a := (s a).toNat
  estimateL1StorageGasCost _ _ := .ok 30000
  deriveFields rs _ _ _ _ _ := .ok rs
  createOnBatchEndTransaction _ _ _ := .noTransactions
  verifyOnBlockReceipt _ _ := true
  intermediateRoot _ := 0
  deriveShaReceipts _ := 0
  deriveShaTxs _ := 0
  emptyRootHash := 0
  merkleRoot _ := .ok 0
  marshalTree _ := []
  commit _ _ _ := .ok 0

/-- Sender zero's transaction of publishing cost 30000 under `transferGeth`
at `payHeader`: the L1 payment to coinbase 9, geth's 21000 from the sender,
and the execution fee to coinbase 9. -/
def afterTransfer (s : Balances) : Balances :=
  addBalance (subBalance (addBalance (subBalance s 0 30000) 9 30000) 0 21000) 9 21000

/-- The coinbase's payments leave sender zero with its two subtractions. -/
theorem afterTransfer_zero (s : Balances) :
    afterTransfer s 0 = subBalance (subBalance s 0 30000) 0 21000 0 := by
  simp [afterTransfer]

/-- A transaction of sender zero costing 30000 runs when the payment leaves
the 21000 its message still asks for. -/
theorem executeTransaction_transferGeth {s : Balances} {t : PricedTx}
    (hcost : t.publishingCost = 30000) (hfunds : 21000 ≤ (subBalance s 0 30000 0).toNat) :
    ∃ r, executeTransaction transferGeth payHeader false s t = .ok (some r, afterTransfer s) := by
  obtain ⟨tx, cost⟩ := t
  subst hcost
  have hlimit : (51001 - BigInt.uint64 ((30000 / 1 + 1 : Nat) : Int)).toNat = 21000 := by decide
  have hevm : transferGeth.applyTransactionWithEVM (addBalance (subBalance s 0 30000) 9 30000)
      ⟨0, 51001 - BigInt.uint64 ((30000 / 1 + 1 : Nat) : Int)⟩ tx =
      .ok (⟨tx.hash, 1, 0, 21000, [], 0⟩,
        subBalance (addBalance (subBalance s 0 30000) 9 30000) 0 21000) := by
    simp only [transferGeth, addBalance_of_ne _ _ (show (0 : Address) ≠ 9 by decide), hlimit]
    rw [if_neg (by omega)]
  have hgas : BigInt.uint64 ((30000 / payHeader.baseFee + 1 : Nat) : Int) ≤ 51001 := by decide
  have hexec : (21000 : UInt64).toNat * payHeader.baseFee < 2 ^ 256 := by decide
  have hr := @applyTx_paid transferGeth payHeader s _ ⟨tx, 30000⟩ ⟨0, 51001⟩ _ rfl
    (show (30000 : Nat) ≠ 0 by decide) (by decide) hgas (show (30000 : Nat) < 2 ^ 256 by norm_num)
    hevm (by decide) hexec
  have hfee : BitVec.ofNat 256 ((21000 : UInt64).toNat * payHeader.baseFee) = 21000 := by decide
  have hcoinbase : payHeader.coinbase = 9 := rfl
  exact ⟨_, by rw [executeTransaction, hr, hcoinbase, hfee]; rfl⟩

theorem executeTransactions_wrapsBalance :
    filterTransactionsWithSufficientFunds paymentExecutor fundedBalances none [paidTx1, paidTx2] =
        .ok ([⟨paidTx1, 30000⟩, ⟨paidTx2, 30000⟩], []) ∧
      ∃ r s₁ s₂,
        executeTransaction transferGeth payHeader false fundedBalances ⟨paidTx1, 30000⟩ =
          .ok (some r, s₁) ∧ (s₁ 0).toNat = 1 ∧
        executeTransactions transferGeth payHeader false fundedBalances
          [⟨paidTx1, 30000⟩, ⟨paidTx2, 30000⟩] = .ok s₂ ∧
        (s₂ 0).toNat = 2 ^ 256 - 50999 := by
  -- the first payment is covered and leaves 1 after geth's 21000
  have hpay₁ : (subBalance fundedBalances 0 30000 0).toNat = 21001 := by
    rw [subBalance_toNat]
    decide
  have hleft₁ : (afterTransfer fundedBalances 0).toNat = 1 := by
    rw [afterTransfer_zero, subBalance_toNat, hpay₁]
    decide
  -- the second payment is not, and wraps
  have hpay₂ : (subBalance (afterTransfer fundedBalances) 0 30000 0).toNat = 2 ^ 256 + 1 - 30000 := by
    rw [subBalance_toNat, hleft₁]
    decide
  have hleft₂ : (afterTransfer (afterTransfer fundedBalances) 0).toNat = 2 ^ 256 - 50999 := by
    rw [afterTransfer_zero, subBalance_toNat, hpay₂]
    decide
  obtain ⟨r₁, h₁⟩ := executeTransaction_transferGeth (s := fundedBalances) (t := ⟨paidTx1, 30000⟩)
    rfl (by omega)
  obtain ⟨r₂, h₂⟩ := executeTransaction_transferGeth (s := afterTransfer fundedBalances)
    (t := ⟨paidTx2, 30000⟩) rfl (by omega)
  refine ⟨rfl, r₁, _, _, h₁, hleft₁, ?_, hleft₂⟩
  rw [executeTransactions_cons h₁, executeTransactions_cons h₂]
  rfl

end GoTen.Enclave.L1Payment

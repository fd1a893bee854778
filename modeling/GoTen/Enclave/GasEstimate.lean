import GoTen.Enclave.L1Payment
import GoTen.Verified.Rlp

/-!
# Gas for L1 publishing: the estimate and the charge (`go/enclave/gas`, `rpc/EstimateGas.go`)

A transaction on TEN pays for its publication on L1 in L2 gas. Two pieces
of code price that publication, at two moments:

* `eth_estimateGas` (`EstimateGasExecute`) prices the call's calldata with
  `EstimateL1CostForMsg`: 90% of its length at the calldata price of a
  nonzero byte, plus a fixed overhead of 150 such bytes, at the L1 base fee;
  it converts the cost to L2 gas at the batch's base fee, adds one and
  doubles the result, and adds the execution estimate of the EVM;
* the batch executor prices the signed transaction with
  `EstimateL1StorageGasCost`: 90% of the length of its whole RLP encoding,
  with no overhead, at the L1 base fee; `applyTx` converts that cost to L2
  gas, adds one, and takes it from the gas limit before the EVM runs.

The encoding counts every field of the transaction (nonce, fees, value,
signature, chain id, access list), the estimate only the calldata and the
overhead. Where the encoding is more than twice the calldata and the
overhead, the charge exceeds what the estimate reserved.

geth's RLP encoding and `doEstimateGas` are parameters.

## Main results

* `calculateL1GasUsed_eq`: `CalculateL1GasUsed` is `Nat` arithmetic for any
  length below `2 ^ 57` bytes.
* `estimateGas_l1GasExceedsReserve`: where the encoding is longer than twice
  the calldata and 336 bytes, the charge exceeds the publishing gas, and a
  transaction sent with the estimate as its gas limit leaves the EVM less
  than the execution estimate.
-/

namespace GoTen.Enclave.GasEstimate

open GoTen.Common
open GoTen.Verified
open GoTen.Enclave.L1Payment

/-- `params.TxDataNonZeroGasEIP2028`. -/
def txDataNonZeroGasEIP2028 : UInt64 := 16

/-- `CalculateL1GasUsed`: 90% of the data's length, in `uint64` arithmetic,
at the price of a nonzero calldata byte, plus the overhead. -/
def calculateL1GasUsed (data : List UInt8) (overhead : Nat) : Nat :=
  let reducedTxSize : UInt64 := UInt64.ofNat data.length
  let reducedTxSize := (reducedTxSize * 90) / 100
  let reducedTxSize := reducedTxSize * txDataNonZeroGasEIP2028
  reducedTxSize.toNat + overhead

/-- The fields of `gethapi.TransactionArgs` the estimate reads: the calldata. -/
structure TransactionArgs where
  data : Option (List UInt8)
  deriving DecidableEq, Repr

/-- `oracle.EstimateL1CostForMsg` at an L1 block whose `BaseFee` is
`blockBaseFee`; a block without one prices at zero. -/
def estimateL1CostForMsg (args : TransactionArgs) (blockBaseFee : Option Nat) : Nat :=
  let encoded := args.data.getD []
  let nonZeroGas := txDataNonZeroGasEIP2028.toNat
  let overhead := 150 * nonZeroGas
  let l1Gas := calculateL1GasUsed encoded overhead
  let baseFee := blockBaseFee.getD 0
  l1Gas * baseFee

/-- `oracle.EstimateL1StorageGasCost`: the L1 gas of the transaction's RLP
encoding at the block's base fee, zero without one. `encodeToBytes` is
`rlp.EncodeToBytes`. -/
def estimateL1StorageGasCost (encodeToBytes : Tx → Except String (List UInt8)) (tx : Tx)
    (blockBaseFee : Option Nat) : Except String Nat := do
  let encodedTx ← encodeToBytes tx
  match blockBaseFee with
  | none => return 0
  | some baseFee => return calculateL1GasUsed encodedTx 0 * baseFee

/-- The publishing gas `EstimateGasExecute` adds: the L1 cost in L2 gas at the
batch's base fee, one more for the remainder of the division, doubled
against spikes. -/
def publishingGas (l1Cost batchBaseFee : Nat) : Nat :=
  (l1Cost / batchBaseFee + 1) * 2

/-- What `EstimateGasExecute` reads besides the call: the base fees of the
L1 head block and of the head batch, `doEstimateGas` (the execution gas and
the gas price, or the EVM's error), and the sender's balance. -/
structure EstimateEnv where
  l1BaseFee : Option Nat
  batchBaseFee : Nat
  doEstimateGas : TransactionArgs → Except String (UInt64 × Nat)
  balance : Nat

/-- `EstimateGasExecute`, from the head block and batch on: the publishing
gas and the execution estimate, summed as `uint64`s, if the sender can pay
for that much gas. -/
def estimateGasExecute (env : EstimateEnv) (args : TransactionArgs) : Except Failure UInt64 := do
  let l1Cost := estimateL1CostForMsg args env.l1BaseFee
  -- `big.Int.Div` by a zero base fee
  if env.batchBaseFee = 0 then throw (.panic "division by zero")
  let publishing := publishingGas l1Cost env.batchBaseFee
  let (executionGasEstimate, gasPrice) ← (env.doEstimateGas args).mapError
    fun e => .error ("unable to estimate transaction - " ++ e)
  let totalGasEstimate := BigInt.uint64 publishing + executionGasEstimate
  if env.balance < gasPrice * totalGasEstimate.toNat then
    throw (.error "insufficient funds for gas estimate")
  return totalGasEstimate

/-! ## The prices as arithmetic -/

/-- Below `2 ^ 57` bytes nothing in `CalculateL1GasUsed` wraps. -/
theorem calculateL1GasUsed_eq {data : List UInt8} (hlen : data.length < 2 ^ 57) (overhead : Nat) :
    calculateL1GasUsed data overhead = data.length * 90 / 100 * 16 + overhead := by
  have hsize : (UInt64.ofNat data.length).toNat = data.length := by
    rw [UInt64.toNat_ofNat']
    exact Nat.mod_eq_of_lt (by omega)
  have hscaled : (UInt64.ofNat data.length * 90).toNat = data.length * 90 := by
    simp only [UInt64.toNat_mul, hsize, UInt64.reduceToNat]
    exact Nat.mod_eq_of_lt (by omega)
  have hreduced : (UInt64.ofNat data.length * 90 / 100).toNat = data.length * 90 / 100 := by
    simp only [UInt64.toNat_div, hscaled, UInt64.reduceToNat]
  have hgas : (UInt64.ofNat data.length * 90 / 100 * txDataNonZeroGasEIP2028).toNat =
      data.length * 90 / 100 * 16 := by
    simp only [UInt64.toNat_mul, hreduced, txDataNonZeroGasEIP2028, UInt64.reduceToNat]
    exact Nat.mod_eq_of_lt (by omega)
  simp only [calculateL1GasUsed, hgas]

theorem estimateL1CostForMsg_eq {args : TransactionArgs} (hlen : (args.data.getD []).length < 2 ^ 57)
    (baseFee : Nat) :
    estimateL1CostForMsg args (some baseFee) =
      ((args.data.getD []).length * 90 / 100 * 16 + 2400) * baseFee := by
  simp only [estimateL1CostForMsg, calculateL1GasUsed_eq hlen, Option.getD_some]
  rfl

theorem estimateL1StorageGasCost_eq {encodeToBytes : Tx → Except String (List UInt8)} {tx : Tx}
    {encoded : List UInt8} (henc : encodeToBytes tx = .ok encoded) (hlen : encoded.length < 2 ^ 57)
    (baseFee : Nat) :
    estimateL1StorageGasCost encodeToBytes tx (some baseFee) =
      .ok (encoded.length * 90 / 100 * 16 * baseFee) := by
  simp only [estimateL1StorageGasCost, henc, Result.ok_bind, calculateL1GasUsed_eq hlen, Nat.add_zero]
  rfl

/-- A returned estimate is the publishing gas and the execution estimate,
summed as `uint64`s. -/
theorem estimateGasExecute_eq_ok {env : EstimateEnv} {args : TransactionArgs} {estimate : UInt64}
    {executionGasEstimate : UInt64} {gasPrice : Nat}
    (hexec : env.doEstimateGas args = .ok (executionGasEstimate, gasPrice))
    (h : estimateGasExecute env args = .ok estimate) :
    estimate = BigInt.uint64 (publishingGas (estimateL1CostForMsg args env.l1BaseFee)
      env.batchBaseFee : Nat) + executionGasEstimate := by
  unfold estimateGasExecute at h
  split at h
  · cases h
  simp only [hexec, Except.mapError, Result.ok_bind] at h
  split at h
  · cases h
  exact (Except.ok.inj h).symm

/-! ## The estimate against the charge -/

/-- Where the encoding's L1 gas exceeds twice the calldata's by two or more
and the L1 base fee is at least the batch's, the charge exceeds the
publishing gas the estimate reserved. -/
theorem publishingGas_lt_l1Gas {calldataGas encodedGas l1BaseFee batchBaseFee : Nat}
    (hfee : 0 < batchBaseFee) (hfees : batchBaseFee ≤ l1BaseFee) (hgas : 2 * calldataGas + 2 ≤ encodedGas) :
    publishingGas (calldataGas * l1BaseFee) batchBaseFee < encodedGas * l1BaseFee / batchBaseFee + 1 := by
  have hscale : (2 * (calldataGas * l1BaseFee) + 2 * l1BaseFee) / batchBaseFee ≤
      encodedGas * l1BaseFee / batchBaseFee := by
    apply Nat.div_le_div_right
    have := Nat.mul_le_mul_right l1BaseFee hgas
    rw [Nat.add_mul, Nat.mul_assoc] at this
    exact this
  have hsplit : 2 * (calldataGas * l1BaseFee) / batchBaseFee + 2 * l1BaseFee / batchBaseFee ≤
      (2 * (calldataGas * l1BaseFee) + 2 * l1BaseFee) / batchBaseFee :=
    Nat.div_add_div_le_add_div
  have hdouble : 2 * (calldataGas * l1BaseFee / batchBaseFee) ≤ 2 * (calldataGas * l1BaseFee) / batchBaseFee :=
    Nat.mul_div_le_mul_div_assoc 2 _ _
  have htwo : 2 ≤ 2 * l1BaseFee / batchBaseFee :=
    (Nat.le_div_iff_mul_le hfee).mpr (by omega)
  unfold publishingGas
  omega

/-- The gas an estimate `publishing + execution`, summed as `uint64`s, leaves
the EVM after a charge above the publishing gas is below the execution
estimate, whenever the charge passes `applyTx`'s check. -/
theorem gasLimit_sub_lt {publishing l1Gas : Nat} {execution : UInt64} (hcharge : publishing < l1Gas)
    (hfit : l1Gas < 2 ^ 64)
    (hcheck : BigInt.uint64 (l1Gas : Int) ≤ BigInt.uint64 (publishing : Int) + execution) :
    BigInt.uint64 (publishing : Int) + execution - BigInt.uint64 (l1Gas : Int) < execution := by
  have hl1 : (BigInt.uint64 (l1Gas : Int)).toNat = l1Gas := BigInt.toNat_uint64_natCast hfit
  have hsum : (BigInt.uint64 (publishing : Int) + execution).toNat =
      (publishing + execution.toNat) % 2 ^ 64 := by
    rw [UInt64.toNat_add, BigInt.toNat_uint64_natCast (by omega : publishing < 2 ^ 64)]
  have hcheckNat : l1Gas ≤ (publishing + execution.toNat) % 2 ^ 64 := by
    rw [← hl1, ← hsum]
    exact UInt64.le_iff_toNat_le.mp hcheck
  have hexec := execution.toNat_lt
  rw [UInt64.lt_iff_toNat_lt, UInt64.toNat_sub_of_le _ _ hcheck, hsum, hl1]
  omega

theorem estimateGas_l1GasExceedsReserve {env : EstimateEnv} {args : TransactionArgs} {l1BaseFee : Nat}
    (hl1 : env.l1BaseFee = some l1BaseFee) (hfee : 0 < env.batchBaseFee)
    (hfees : env.batchBaseFee ≤ l1BaseFee)
    {encodeToBytes : Tx → Except String (List UInt8)} {tx : Tx} {encoded : List UInt8}
    (henc : encodeToBytes tx = .ok encoded)
    (hlong : 2 * (args.data.getD []).length + 336 ≤ encoded.length)
    (hfit : encoded.length * l1BaseFee < 2 ^ 56 * env.batchBaseFee) :
    ∃ cost, estimateL1StorageGasCost encodeToBytes tx env.l1BaseFee = .ok cost ∧
      publishingGas (estimateL1CostForMsg args env.l1BaseFee) env.batchBaseFee <
        cost / env.batchBaseFee + 1 ∧
      ∀ {estimate executionGasEstimate : UInt64} {gasPrice : Nat},
        env.doEstimateGas args = .ok (executionGasEstimate, gasPrice) →
        estimateGasExecute env args = .ok estimate →
        ∀ {header : BatchHeader} {statedb statedb' : Balances} {msg msg' : Message} {l1Gas : Nat},
          header.baseFee = env.batchBaseFee → msg.gasLimit = estimate →
          payL1Cost header statedb msg cost = .ok (msg', statedb', l1Gas) →
          msg'.gasLimit < executionGasEstimate := by
  -- the encoding is short enough for `uint64` arithmetic and for the charge to fit
  have hshort : encoded.length < 2 ^ 56 := by
    have hbound : encoded.length * l1BaseFee < 2 ^ 56 * l1BaseFee :=
      Nat.lt_of_lt_of_le hfit (Nat.mul_le_mul_left _ hfees)
    exact Nat.lt_of_mul_lt_mul_right hbound
  have hcalldata : (args.data.getD []).length < 2 ^ 57 := by omega
  have hcost := estimateL1StorageGasCost_eq henc (by omega) l1BaseFee
  have hestimate := estimateL1CostForMsg_eq hcalldata l1BaseFee
  rw [hl1]
  refine ⟨_, hcost, ?_⟩
  rw [hestimate]
  have hcharge := @publishingGas_lt_l1Gas ((args.data.getD []).length * 90 / 100 * 16 + 2400)
    (encoded.length * 90 / 100 * 16) l1BaseFee env.batchBaseFee hfee hfees (by omega)
  refine ⟨hcharge, ?_⟩
  intro estimate executionGasEstimate gasPrice hexec hest header statedb statedb' msg msg' l1Gas
    hheader hmsg hpay
  have hfitGas : encoded.length * 90 / 100 * 16 * l1BaseFee / env.batchBaseFee + 1 < 2 ^ 64 := by
    have hscaled : encoded.length * 90 / 100 * 16 * l1BaseFee ≤ 16 * (encoded.length * l1BaseFee) := by
      rw [← Nat.mul_assoc, Nat.mul_comm 16 encoded.length]
      exact Nat.mul_le_mul_right l1BaseFee (by omega)
    have hquot : encoded.length * 90 / 100 * 16 * l1BaseFee / env.batchBaseFee < 2 ^ 60 :=
      (Nat.div_lt_iff_lt_mul hfee).mpr (by omega)
    omega
  obtain ⟨hcheck, hgasLimit⟩ := payL1Cost_eq_ok hpay
  rw [hgasLimit, hmsg, estimateGasExecute_eq_ok hexec hest, hl1, hestimate]
  rw [hmsg, estimateGasExecute_eq_ok hexec hest, hl1, hestimate] at hcheck
  rw [hheader] at hcheck ⊢
  exact gasLimit_sub_lt hcharge hfitGas hcheck

/-- An L1 head block and a head batch at base fee one, and an EVM that
estimates 21000 gas at gas price zero. -/
def unitFeeEnv : EstimateEnv := ⟨some 1, 1, fun _ => .ok (21000, 0), 0⟩

/-- The transaction the call is sent as. -/
def accessListTx : Tx := ⟨7, 1, 1, some 5⟩

/-- Its signed fields as a `DynamicFeeTx`: chain 443, nonce 0, a tip and a
fee cap of one, the estimate 25802 as gas limit, the address 5 as recipient,
no value and no calldata, an access list of eight storage keys of the
address 5, and a signature with `V = 1` and `R = S = 2 ^ 255`. -/
def accessListTxItem : Rlp.Item :=
  .list [Rlp.uintItem 443, Rlp.uintItem 0, Rlp.uintItem 1, Rlp.uintItem 1, Rlp.uintItem 25802,
    .bytes (FixedBytes.toBytes 20 5), Rlp.uintItem 0, .bytes [],
    .list [.list [.bytes (FixedBytes.toBytes 20 5),
      .list ((List.range 8).map fun key => .bytes (FixedBytes.toBytes 32 key))]],
    Rlp.uintItem 1, Rlp.uintItem (2 ^ 255), Rlp.uintItem (2 ^ 255)]

/-- `rlp.EncodeToBytes` of `accessListTx`: a typed transaction is written as
the byte string of its type, `0x02`, followed by its fields. -/
def encodeAccessListTx : Tx → Except String (List UInt8) :=
  fun _ => .ok (Rlp.encodeString (0x02 :: Rlp.encode accessListTxItem))

/-- The encoding takes 400 bytes: a three-byte tag, the type, and 396 bytes
of fields. -/
theorem length_encodeAccessListTx :
    (Rlp.encodeString (0x02 :: Rlp.encode accessListTxItem)).length = 400 := by
  decide +kernel

theorem estimateGas_l1GasExceedsReserve_accessList :
    ∃ cost, estimateL1StorageGasCost encodeAccessListTx accessListTx unitFeeEnv.l1BaseFee = .ok cost ∧
      publishingGas (estimateL1CostForMsg ⟨some []⟩ unitFeeEnv.l1BaseFee) unitFeeEnv.batchBaseFee <
        cost / unitFeeEnv.batchBaseFee + 1 ∧
      ∀ {estimate executionGasEstimate : UInt64} {gasPrice : Nat},
        unitFeeEnv.doEstimateGas ⟨some []⟩ = .ok (executionGasEstimate, gasPrice) →
        estimateGasExecute unitFeeEnv ⟨some []⟩ = .ok estimate →
        ∀ {header : BatchHeader} {statedb statedb' : Balances} {msg msg' : Message} {l1Gas : Nat},
          header.baseFee = unitFeeEnv.batchBaseFee → msg.gasLimit = estimate →
          payL1Cost header statedb msg cost = .ok (msg', statedb', l1Gas) →
          msg'.gasLimit < executionGasEstimate :=
  @estimateGas_l1GasExceedsReserve unitFeeEnv ⟨some []⟩ 1 rfl (by decide) (by decide)
    encodeAccessListTx accessListTx (Rlp.encodeString (0x02 :: Rlp.encode accessListTxItem)) rfl
    (by rw [length_encodeAccessListTx]; decide) (by rw [length_encodeAccessListTx]; decide)

/- With empty calldata the estimate is 4802 publishing gas and 21000 for the
EVM; the charge for the 400-byte encoding is 5761 gas, and the EVM is left
20041. -/
example : estimateGasExecute unitFeeEnv ⟨some []⟩ = .ok 25802 := by decide

example : ((payL1Cost payHeader (fun _ => 0) ⟨0, 25802⟩ 5760).map
    fun paid => paid.1.gasLimit) = .ok 20041 := by decide

end GoTen.Enclave.GasEstimate

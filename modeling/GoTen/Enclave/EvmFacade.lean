import GoTen.Common.Types
import GoTen.Verified.SkipRun

/-!
# Executing the transactions of a batch (`evm.ExecuteTransactions`)

`ExecuteTransactions` runs a list of priced transactions through the EVM one
after the other. Each transaction is given the index `(fromTxIndex + i) -
tCountRollback`, where `tCountRollback` counts the transactions that failed
so far: a failed transaction reverts to its snapshot and gives its index to
the next one. The outcome of every transaction is stored in a Go map keyed
by the transaction hash, and `processTransactions` reads the outcomes back
in list order, splits executed from excluded transactions and sorts the
results by transaction index.

The EVM itself is a parameter (`Evm`): a deterministic step that either
returns a receipt and a new state or an error, in which case the state is
the snapshot taken before the transaction. Everything else is the code of
`go/enclave/evm/evm_facade.go` and `go/enclave/components/batch_executor.go`.

## Main results

* `executeTransactionsLoop_eq_run`: the loop with its rollback counter is a
  `SkipRun.run`, and its map holds, for every hash, the outcome of the last
  transaction with that hash.
* `processTransactions_eq`: when the hashes are distinct, `processTransactions`
  returns exactly the transactions that succeeded and their results.
* `processTransactions_survivors`: re-running only the executed transactions
  executes all of them, with the same results and the same final state.
-/

namespace GoTen.Enclave.EvmFacade

open GoTen.Common
open GoTen.Verified

variable {σ η : Type}

/-- What `ExecuteTransactions` threads from one transaction to the next: the
`StateDB`, the batch's `GasPool` and the `usedGas` counter. -/
structure EvmState (σ : Type) where
  stateDB : σ
  gasPool : Nat
  usedGas : Nat

/-- The EVM as `ExecuteTransactions` drives it. -/
structure Evm (σ η : Type) where
  /-- `EncodingService.CreateEthHeaderForBatch`: the geth header of the batch. -/
  createEthHeaderForBatch : BatchHeader → Except Failure η
  /-- `executeTransaction` at index `tCount`, with or without the base fee
  rule. An error means the snapshot was reverted. -/
  executeTransaction :
    EvmState σ → η → BatchHeader → PricedTx → Nat → Bool → Except String (Receipt × EvmState σ)
  /-- `StateDB.Finalise(true)`. -/
  finalise : σ → σ

/-- The Go `map[common.TxHash]*core.TxExecResult`; a later write wins. -/
abbrev TxResultMap := Hash → Option TxExecResult

/-- The `TxExecResult` that `executeTransaction` returns for an outcome. -/
def execResult (t : PricedTx) : Except String Receipt → TxExecResult
  | .ok r => ⟨some r, t.tx, none⟩
  | .error e => ⟨none, t.tx, some e⟩

/-- The loop of `ExecuteTransactions`, with the source's `i` and
`tCountRollback`. -/
def executeTransactionsLoop (evm : Evm σ η) (ethHeader : η) (header : BatchHeader)
    (fromTxIndex : Nat) (noBaseFee : Bool) :
    List PricedTx → Nat → Nat → EvmState σ → TxResultMap → TxResultMap × EvmState σ
  | [], _, _, s, result => (result, s)
  | t :: ts, i, tCountRollback, s, result =>
      match evm.executeTransaction s ethHeader header t ((fromTxIndex + i) - tCountRollback)
          noBaseFee with
      | .error e =>
          executeTransactionsLoop evm ethHeader header fromTxIndex noBaseFee ts (i + 1)
            (tCountRollback + 1) s
            (Function.update result t.tx.hash (some (execResult t (.error e))))
      | .ok (r, s') =>
          executeTransactionsLoop evm ethHeader header fromTxIndex noBaseFee ts (i + 1)
            tCountRollback s' (Function.update result t.tx.hash (some (execResult t (.ok r))))

/-- `ExecuteTransactions`: a fresh gas pool of `batchGasLimit`, the loop, and
`Finalise`. -/
def executeTransactions (evm : Evm σ η) (txs : List PricedTx) (s : σ) (header : BatchHeader)
    (fromTxIndex : Nat) (noBaseFee : Bool) (batchGasLimit : Nat) :
    Except Failure (TxResultMap × σ) := do
  let ethHeader ← evm.createEthHeaderForBatch header
  let (result, st) := executeTransactionsLoop evm ethHeader header fromTxIndex noBaseFee txs 0 0
    ⟨s, batchGasLimit, 0⟩ (fun _ => none)
  return (result, evm.finalise st.stateDB)

/-- The lookup loop of `processTransactions`: executed transactions, excluded
transactions and the results of the executed ones, in list order. -/
def collectResults (resultMap : TxResultMap) :
    List PricedTx → Except Failure (List Tx × List Tx × List TxExecResult)
  | [] => .ok ([], [], [])
  | t :: ts =>
      match resultMap t.tx.hash with
      | none => .error (.error "there should be an entry for each transaction")
      | some result => do
          let (executed, excluded, results) ← collectResults resultMap ts
          if result.receipt.isSome then
            return (t.tx :: executed, excluded, result :: results)
          else
            return (executed, t.tx :: excluded, results)

/-- The receipt index `sortByTxIndex` compares. -/
def txIndexOf (r : TxExecResult) : Nat :=
  (r.receipt.map Receipt.transactionIndex).getD 0

/-- `sort.Sort(sortByTxIndex(txResults))`. Go sorts short slices by insertion
sort; the indices of executed transactions are distinct, so any sort agrees. -/
def sortByTxIndex (results : List TxExecResult) : List TxExecResult :=
  results.insertionSort fun a b => txIndexOf a ≤ txIndexOf b

/-- `batchExecutor.processTransactions`. -/
def processTransactions (evm : Evm σ η) (header : BatchHeader) (tCount : Nat)
    (txs : List PricedTx) (stateDB : σ) (noBaseFee : Bool) (batchGasLimit : Nat) :
    Except Failure (List Tx × List Tx × List TxExecResult × σ) := do
  let (txResultsMap, stateDB') ←
    executeTransactions evm txs stateDB header tCount noBaseFee batchGasLimit
  let (executed, excluded, txResults) ← collectResults txResultsMap txs
  return (executed, excluded, sortByTxIndex txResults, stateDB')

/-! ## The loop is a run that skips failures -/

section Loop

variable (evm : Evm σ η) (ethHeader : η) (header : BatchHeader) (noBaseFee : Bool)

/-- The step `SkipRun.run` repeats: one EVM transaction at a position. -/
def txStep (s : EvmState σ) (t : PricedTx) (pos : Nat) : Except String (Receipt × EvmState σ) :=
  evm.executeTransaction s ethHeader header t pos noBaseFee

/-- The map a sequence of outcomes leaves behind. -/
def outcomeMap (outcomes : List (PricedTx × Except String Receipt)) (m : TxResultMap) :
    TxResultMap :=
  outcomes.foldl (fun m o => Function.update m o.1.tx.hash (some (execResult o.1 o.2))) m

/-- The loop computes the run of `txStep` from position `fromTxIndex + i -
tCountRollback`; the counter never overtakes `i`. -/
theorem executeTransactionsLoop_eq_run (fromTxIndex : Nat) (ts : List PricedTx) :
    ∀ (i tCountRollback : Nat) (s : EvmState σ) (m : TxResultMap), tCountRollback ≤ i →
      executeTransactionsLoop evm ethHeader header fromTxIndex noBaseFee ts i tCountRollback s m =
        (outcomeMap (SkipRun.run (txStep evm ethHeader header noBaseFee)
            (fromTxIndex + i - tCountRollback) s ts).1 m,
          (SkipRun.run (txStep evm ethHeader header noBaseFee)
            (fromTxIndex + i - tCountRollback) s ts).2) := by
  induction ts with
  | nil => intro i rb s m _; rfl
  | cons t ts ih =>
      intro i rb s m hrb
      cases hstep : evm.executeTransaction s ethHeader header t (fromTxIndex + i - rb) noBaseFee with
      | error e =>
          -- a failure keeps the position: `(i + 1) - (rb + 1) = i - rb`
          have hpos : fromTxIndex + (i + 1) - (rb + 1) = fromTxIndex + i - rb := by omega
          rw [SkipRun.run_cons_error _ hstep]
          simp only [executeTransactionsLoop, hstep]
          rw [ih (i + 1) (rb + 1) s _ (by omega), hpos]
          rfl
      | ok p =>
          obtain ⟨r, s'⟩ := p
          -- a success moves the position on by one
          have hpos : fromTxIndex + (i + 1) - rb = fromTxIndex + i - rb + 1 := by omega
          rw [SkipRun.run_cons_ok _ hstep]
          simp only [executeTransactionsLoop, hstep]
          rw [ih (i + 1) rb s' _ (by omega), hpos]
          rfl

end Loop

/-! ## Reading the map back -/

section ResultMap

private theorem outcomeMap_cons (o : PricedTx × Except String Receipt)
    (os : List (PricedTx × Except String Receipt)) (m : TxResultMap) :
    outcomeMap (o :: os) m =
      outcomeMap os (Function.update m o.1.tx.hash (some (execResult o.1 o.2))) := rfl

/-- A hash that no outcome carries keeps its old entry. -/
theorem outcomeMap_of_not_mem (os : List (PricedTx × Except String Receipt))
    (m : TxResultMap) (h : Hash) (hnot : h ∉ os.map (·.1.tx.hash)) :
    outcomeMap os m h = m h := by
  induction os generalizing m with
  | nil => rfl
  | cons o os ih =>
      simp only [List.map_cons, List.mem_cons, not_or] at hnot
      rw [outcomeMap_cons, ih _ hnot.2, Function.update_of_ne hnot.1]

/-- When every hash occurs once, the map holds each transaction's own outcome. -/
theorem outcomeMap_of_mem (os : List (PricedTx × Except String Receipt)) (m : TxResultMap)
    (hnodup : (os.map (·.1.tx.hash)).Nodup) {o : PricedTx × Except String Receipt}
    (hmem : o ∈ os) : outcomeMap os m o.1.tx.hash = some (execResult o.1 o.2) := by
  induction os generalizing m with
  | nil => simp at hmem
  | cons o' os ih =>
      simp only [List.map_cons, List.nodup_cons] at hnodup
      rw [outcomeMap_cons]
      rcases List.mem_cons.mp hmem with rfl | hmem'
      · rw [outcomeMap_of_not_mem os _ _ hnodup.1, Function.update_self]
      · exact ih _ hnodup.2 hmem'

end ResultMap

/-! ## What `processTransactions` returns -/

section Process

/-- The transactions a run excluded, in order. -/
def excludedOf (os : List (PricedTx × Except String Receipt)) : List Tx :=
  os.filterMap fun o => match o.2 with
    | .error _ => some o.1.tx
    | .ok _ => none

/-- The results of the executed transactions of a run, in order. -/
def resultsOf (os : List (PricedTx × Except String Receipt)) : List TxExecResult :=
  (SkipRun.results os).map fun p => execResult p.1 (.ok p.2)

private theorem collectResults_outcomes (m : TxResultMap)
    (os : List (PricedTx × Except String Receipt))
    (hmap : ∀ o ∈ os, m o.1.tx.hash = some (execResult o.1 o.2)) :
    collectResults m (os.map Prod.fst) =
      .ok ((SkipRun.kept os).map PricedTx.tx, excludedOf os, resultsOf os) := by
  induction os with
  | nil => rfl
  | cons o os ih =>
      obtain ⟨t, outcome⟩ := o
      have hhead := hmap (t, outcome) List.mem_cons_self
      have htail := ih fun o ho => hmap o (List.mem_cons_of_mem _ ho)
      cases outcome with
      | error e =>
          simp only [List.map_cons, collectResults, hhead, htail]
          simp [execResult, excludedOf, resultsOf]
      | ok r =>
          simp only [List.map_cons, collectResults, hhead, htail]
          simp [execResult, excludedOf, resultsOf]

/-- **`processTransactions` on distinct hashes.** Every transaction finds its
own outcome in the map, so the executed transactions are exactly the ones the
run kept, with their results, and the excluded ones are the failures. -/
theorem processTransactions_eq (evm : Evm σ η) (header : BatchHeader) (tCount : Nat)
    (txs : List PricedTx) (db : σ) (noBaseFee : Bool) (batchGasLimit : Nat) {ethHeader : η}
    (heth : evm.createEthHeaderForBatch header = .ok ethHeader)
    (hnodup : (txs.map (·.tx.hash)).Nodup) :
    let os := SkipRun.run (txStep evm ethHeader header noBaseFee) tCount
      ⟨db, batchGasLimit, 0⟩ txs
    processTransactions evm header tCount txs db noBaseFee batchGasLimit =
      .ok ((SkipRun.kept os.1).map PricedTx.tx, excludedOf os.1,
        sortByTxIndex (resultsOf os.1), evm.finalise os.2.stateDB) := by
  intro os
  have hfst : os.1.map Prod.fst = txs := SkipRun.run_map_fst _ _ _ _
  have hloop := executeTransactionsLoop_eq_run evm ethHeader header noBaseFee tCount txs 0 0
    ⟨db, batchGasLimit, 0⟩ (fun _ => none) le_rfl
  simp only [Nat.add_zero, Nat.sub_zero] at hloop
  have hexec : executeTransactions evm txs db header tCount noBaseFee batchGasLimit =
      .ok (outcomeMap os.1 (fun _ => none), evm.finalise os.2.stateDB) := by
    simp only [executeTransactions, heth, bind, Except.bind, pure, Except.pure]
    rw [hloop]
  -- the hashes of the outcomes are the hashes of `txs`, hence distinct
  have hnodup' : (os.1.map (·.1.tx.hash)).Nodup := by
    have hcomp : os.1.map (·.1.tx.hash) = (os.1.map Prod.fst).map (·.tx.hash) := by
      simp [List.map_map, Function.comp_def]
    rw [hcomp, hfst]
    exact hnodup
  have hmap : ∀ o ∈ os.1, outcomeMap os.1 (fun _ => none) o.1.tx.hash =
      some (execResult o.1 o.2) := fun o ho => outcomeMap_of_mem _ _ hnodup' ho
  have hcollect := collectResults_outcomes _ os.1 hmap
  rw [hfst] at hcollect
  simp only [processTransactions, hexec, hcollect, bind, Except.bind, pure, Except.pure]

/-- A run in which everything succeeded excluded nothing. -/
theorem excludedOf_map_ok (ps : List (PricedTx × Receipt)) :
    excludedOf (ps.map fun p => (p.1, (.ok p.2 : Except String Receipt))) = [] := by
  induction ps with
  | nil => rfl
  | cons p ps ih => simp [excludedOf] at ih ⊢

/-- **Replaying the executed transactions.** `processTransactions` run again
on the transactions it executed, from the same state and index, executes
all of them with the same results and ends in the same state. -/
theorem processTransactions_survivors (evm : Evm σ η) (header : BatchHeader) (tCount : Nat)
    (txs : List PricedTx) (db : σ) (noBaseFee : Bool) (batchGasLimit : Nat)
    (hnodup : (txs.map (·.tx.hash)).Nodup) {executed excluded : List Tx}
    {results : List TxExecResult} {db' : σ}
    (h : processTransactions evm header tCount txs db noBaseFee batchGasLimit =
      .ok (executed, excluded, results, db')) :
    ∃ survivors : List PricedTx, survivors.Sublist txs ∧
      survivors.map PricedTx.tx = executed ∧
      processTransactions evm header tCount survivors db noBaseFee batchGasLimit =
        .ok (executed, [], results, db') := by
  cases heth : evm.createEthHeaderForBatch header with
  | error e =>
      simp [processTransactions, executeTransactions, heth, bind, Except.bind] at h
  | ok ethHeader =>
      rw [processTransactions_eq evm header tCount txs db noBaseFee batchGasLimit heth hnodup] at h
      simp only [Except.ok.injEq, Prod.mk.injEq] at h
      obtain ⟨hexec, -, hres, hdb⟩ := h
      set os := SkipRun.run (txStep evm ethHeader header noBaseFee) tCount
        ⟨db, batchGasLimit, 0⟩ txs with hos
      have hsub : (SkipRun.kept os.1).Sublist txs := SkipRun.kept_run_sublist _ _ _ _
      have hnodup' : ((SkipRun.kept os.1).map (·.tx.hash)).Nodup := hnodup.sublist (hsub.map _)
      refine ⟨SkipRun.kept os.1, hsub, hexec, ?_⟩
      rw [processTransactions_eq evm header tCount _ db noBaseFee batchGasLimit heth hnodup',
        SkipRun.run_kept]
      simp only [excludedOf_map_ok, ← hexec, ← hres, ← hdb]
      rw [SkipRun.kept_eq_map_results, SkipRun.results_map_ok, ← SkipRun.kept_eq_map_results]
      simp only [resultsOf, SkipRun.results_map_ok]
      rfl

end Process

end GoTen.Enclave.EvmFacade

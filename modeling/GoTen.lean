import GoTen.Common.Types
import GoTen.Common.Converters
import GoTen.Verified.SkipRun
import GoTen.Verified.Abi
import GoTen.Verified.Result
import GoTen.Verified.BigInt
import GoTen.Verified.FixedBytes
import GoTen.Verified.Rlp
import GoTen.Verified.Chain
import GoTen.Verified.Radix
import GoTen.Verified.GoMap
import GoTen.Enclave.EvmFacade
import GoTen.Enclave.CrossChain
import GoTen.Enclave.BatchExecutor
import GoTen.Enclave.L1Payment
import GoTen.Enclave.GasEstimate
import GoTen.Enclave.OutboundData
import GoTen.Enclave.InboundMessages
import GoTen.Enclave.RollupProcessing
import GoTen.Enclave.Events
import GoTen.Enclave.GetLogs
import GoTen.Enclave.SystemHooks
import GoTen.Enclave.RollupCompression
import GoTen.Enclave.BatchRegistry
import GoTen.Enclave.RollupConsumer
import GoTen.Enclave.Storage
import GoTen.Enclave.BlockProcessor
import GoTen.EthAdapter.Blob
import GoTen.EthAdapter.MgmtContractLib
import GoTen.Host.L1Submission
import GoTen.Host.StateMachine
import GoTen.Host.BatchListing
import GoTen.Host.BatchRepository
import GoTen.Host.EnclaveState
import GoTen.Enclave.Sequencer
import GoTen.Enclave.Validator
import GoTen.WalletExtension.Cache
import GoTen.WalletExtension.RpcCache
import GoTen.WalletExtension.Ratelimiter

import BettaPay.Common.Multisig
import Mathlib.Logic.Function.Basic

namespace BettaPay.Settlement

open BettaPay.Host
open BettaPay.Common

inductive SettlementError where
  | alreadyInitialized
  | notInitialized
  | unauthorized
  | invalidFeeBps
  | paused
  | invalidAdmin
  | invalidRecoveryAddress
  | recoveryNotPending
  | recoveryDelayActive
  | executionNotReady
  | operationNotScheduled
  | operationAlreadyScheduled
  | invalidWasmInterface
  | invalidThreshold
  | recoveryAlreadyPending
  | alreadyUnpaused
  | alreadyPaused
  | sameAdmin
  | merchantExists
  | merchantMissing
  | duplicatePaymentReference
  | merchantRuleNotSet
  | zeroAddress
  | invalidPaymentReference
  | invalidSettlementDelay
  | invalidGovernance
  | amountOverflow
  | governanceCallFailed
  | feeExceedsGovernanceConfig
  | amountTooSmall
  | batchTooLarge
  | paymentOrphaned
  | operationHashCollision
  | adminSetEmpty
  | payloadTooLarge
  | executionDelayTooLong
  | invalidPauseReason
  deriving DecidableEq, Repr

/-! Contract policy. -/

def minPaymentAmount : I128 := ⟨100, by decide, by decide⟩

def maxSettlementDelayLedger : UInt32 := 100000

def maxPaymentsBatch : UInt32 := 100

def maxCancelAllBatch : UInt32 := 50

def paymentTtlThreshold : UInt32 := ledgersPerDay * 14

def paymentTtlBump : UInt32 := ledgersPerDay * 30

def ruleTtlThreshold : UInt32 := ledgersPerDay * 14

def ruleTtlBump : UInt32 := ledgersPerDay * 30

def merchantTtlThreshold : UInt32 := ledgersPerDay * 14

def merchantTtlBump : UInt32 := ledgersPerDay * 30

def scheduledOpTtlThreshold : UInt32 := ledgersPerDay * 14

def scheduledOpTtlBump : UInt32 := ledgersPerDay * 30

def defaultTimelockDelaySeconds : UInt64 := 7 * 24 * 60 * 60

def minTimelockDelaySeconds : UInt64 := defaultTimelockDelaySeconds

def maxTimelockDelaySeconds : UInt64 :=
  (scheduledOpTtlBump / ledgersPerDay).toUInt64 * 24 * 60 * 60

def maxScheduledOperationPayloadLen : UInt32 := 4096

def supportedInterfaceVersion : UInt32 := 1

def currentSchemaVersion : UInt32 := 1

def capabilityFlags : List Symbol :=
  ["timelock", "multisig_admin", "admin_recovery", "pause", "wasm_upgrade",
    "schema_migration", "merchant_rules", "default_rule",
    "governance_fee_ceiling", "fee_split_preview", "batch_payment_read",
    "payment_pruning"]

def bootstrapDefaultRule : SettlementRule where
  platformFeeBps := 100
  networkFeeBps := minFeeBps
  settlementDelayLedger := 0
  autoSettle := false

/-! Contract data. -/

structure FeeSplit where
  grossAmount : I128
  platformFeeAmount : I128
  networkFeeAmount : I128
  merchantPayoutAmount : I128
  deriving DecidableEq, Repr

inductive RuleProvenance where
  | merchant
  | default
  | governance
  | bootstrap
  deriving DecidableEq, Repr

structure EffectiveRule where
  rule : SettlementRule
  provenance : RuleProvenance
  deriving DecidableEq, Repr

structure PaymentRecord where
  merchant : Address
  amount : I128
  platformFeeAmount : I128
  networkFeeAmount : I128
  merchantPayoutAmount : I128
  platformFeeBps : UInt32
  networkFeeBps : UInt32
  ledger : UInt32
  settlementDelayLedger : UInt32
  autoSettle : Bool
  version : UInt32
  deriving DecidableEq, Repr

structure PaymentsPage where
  records : List PaymentRecord
  nextCursor : Option UInt32
  deriving DecidableEq, Repr

structure GovFeeConfig where
  platformFeeBps : UInt32
  networkFeeBps : UInt32
  deriving DecidableEq, Repr

structure ScheduledOp where
  operationXdr : Bytes
  executeAt : UInt64
  deriving DecidableEq, Repr

inductive Operation where
  | updateGovernance (newGovernance : Address)
  | cancelRecovery
  | transferAdmin (newAdmins : List Address) (newThreshold : UInt32)
  | upgrade (wasmHash : BytesN 32)
  | registerMerchant (merchant : Address)
  | unregisterMerchant (merchant : Address)
  | setSettlementRule (merchant : Address) (rule : SettlementRule)
  | clearSettlementRule (merchant : Address)
  | setDefaultRule (rule : SettlementRule)
  deriving DecidableEq, Repr

/-- The serialization and the hash that index the timelock queue. Both belong
to the host; nothing is assumed of the hash. -/
structure Codec where
  toXdr : Operation → Bytes
  sha256 : Bytes → BytesN 32

def Codec.hash (codec : Codec) (operation : Operation) : BytesN 32 :=
  codec.sha256 (codec.toXdr operation)

/-- Published events: the topics after the name, then the data. -/
inductive Event where
  | governanceUpdated (admin newGovernance : Address)
  | recoveryInitiated (recovery newAdmin : Address) (executeAfter : UInt64)
  | recoveryCancelled (canceller : Address)
  | recoveryExecuted (payload : AdminTransferred)
  | recoveryAddressUpdated (newRecovery : Address) (admin : Address)
  | adminTransferred (payload : AdminTransferred)
  | thresholdChanged (caller : Address) (current new : UInt32)
  | contractUpgraded (wasmHash : BytesN 32) (admin : Address)
  | paused (admin : Address) (reason : UInt32)
  | unpaused (admin : Address)
  | migrated (admin : Address) (version : UInt32)
  | opScheduled (opHash : BytesN 32) (caller : Address) (executeAt : UInt64)
  | opExecuted (opHash : BytesN 32)
  | opCancelled (opHash : BytesN 32) (caller : Address)
  | opCancelledBatch (caller : Address) (cancelled : UInt32)
  | merchantRegistered (merchant : Address) (admin : Address)
  | merchantConsent (merchant : Address)
  | merchantUnregistered (merchant : Address) (admin : Address)
  | settlementRuleUpdated (merchant : Address) (admin : Address)
      (prev rule : SettlementRule)
  | settlementRuleCleared (merchant : Address) (admin : Address)
      (removed fallback : SettlementRule)
  | defaultRuleUpdated (admin : Address) (prev rule : SettlementRule)
  | bootstrapFallback (rule : SettlementRule)
  | paymentStored (merchant : Address) (reference : BytesN 32)
      (record : PaymentRecord)
  | paymentPruned (merchant : Address) (reference : BytesN 32)
  | paymentsPruned (merchant : Address) (admin : Address) (removed : UInt32)
  | feeCeilingRejected (platformFeeBps networkFeeBps : UInt32)
  deriving DecidableEq, Repr

/-! Storage. Instance entries are singletons; persistent entries are tables,
and `liveUntil` is the last ledger each of them survives. -/

inductive PersistentKey where
  | merchant (merchant : Address)
  | rule (merchant : Address)
  | archivedMerchant (merchant : Address)
  | payment (merchant : Address) (reference : BytesN 32)
  | scheduledOperation (opHash : BytesN 32)
  | paymentCount (merchant : Address)
  deriving DecidableEq, Repr

structure State where
  admin : Option (List Address)
  threshold : Option UInt32
  recoveryAddress : Option Address
  pendingRecovery : Option PendingRecovery
  paused : Option Bool
  deployer : Option Address
  initializing : Bool
  governance : Option Address
  defaultRule : Option SettlementRule
  schemaVersion : Option UInt32
  cachedGovRule : Option (Option SettlementRule)
  pendingOperationCount : Option UInt32
  wasm : Option (BytesN 32)
  merchant : Address → Bool
  rule : Address → Option SettlementRule
  archivedMerchant : Address → Bool
  payment : Address → BytesN 32 → Option PaymentRecord
  paymentCount : Address → Option UInt32
  scheduledOperation : BytesN 32 → Option ScheduledOp
  liveUntil : PersistentKey → Nat
  events : List Event

/-- A freshly deployed contract. -/
def State.initial : State where
  admin := none
  threshold := none
  recoveryAddress := none
  pendingRecovery := none
  paused := none
  deployer := none
  initializing := false
  governance := none
  defaultRule := none
  schemaVersion := none
  cachedGovRule := none
  pendingOperationCount := none
  wasm := none
  merchant := fun _ => false
  rule := fun _ => none
  archivedMerchant := fun _ => false
  payment := fun _ _ => none
  paymentCount := fun _ => none
  scheduledOperation := fun _ => none
  liveUntil := fun _ => 0
  events := []

/-- How a contract at a governance address answers during one call. -/
structure GovernanceView where
  getSystemParam : Symbol → Answer
  getFeeConfig : Answer

structure Env extends Ledger where
  governance : Address → GovernanceView

abbrev Contract (α : Type) := Tx State (Failure SettlementError) α

end BettaPay.Settlement

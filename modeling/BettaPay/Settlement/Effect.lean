import BettaPay.Settlement.Batch
import BettaPay.Settlement.Contract

namespace BettaPay.Settlement

open BettaPay.Host
open BettaPay.Host.Tx (readState writeState)
open BettaPay.Common

/-- The operation a direct administrative call stands for, with its
signers. -/
def Call.administers : Call → Option (List Address × Operation)
  | .updateGovernance signers newGovernance =>
      some (signers, .updateGovernance newGovernance)
  | .transferAdmin signers newAdmins newThreshold =>
      some (signers, .transferAdmin newAdmins newThreshold)
  | .upgrade signers newWasmHash => some (signers, .upgrade newWasmHash)
  | .registerMerchant signers merchant =>
      some (signers, .registerMerchant merchant)
  | .unregisterMerchant signers merchant =>
      some (signers, .unregisterMerchant merchant)
  | .setSettlementRule signers merchant rule =>
      some (signers, .setSettlementRule merchant rule)
  | .clearSettlementRule signers merchant =>
      some (signers, .clearSettlementRule merchant)
  | .setDefaultRule signers newRule => some (signers, .setDefaultRule newRule)
  | _ => none

/-- The operations whose direct entry points work while paused. -/
def Operation.ignoresPause : Operation → Bool
  | .transferAdmin _ _ => true
  | .upgrade _ => true
  | _ => false

/-- The entry points that only read. -/
def Call.isQuery : Call → Bool
  | .getPaymentReference _ _ _ => true
  | .getPayments _ _ _ _ => true
  | .getPaymentCount _ _ => true
  | .calculateFeeSplit _ _ => true
  | .dryRun _ => true
  | .supportsInterface _ => true
  | .version => true
  | .getCapabilities => true
  | .isInitialized => true
  | .getAdmin => true
  | .getThreshold => true
  | .getGovernance => true
  | .getRecoveryAddress => true
  | .isPaused => true
  | .getPendingOperationCount => true
  | .isMerchantRegistered _ => true
  | .getDefaultRule => true
  | .getSettlementRule _ => true
  | .getSettlementRuleNoBump _ => true
  | .getEffectiveRule _ => true
  | .getRuleProvenance _ => true
  | _ => false

/-- The bounds an operation meets to be queued. -/
def Operation.WithinBounds : Operation → Prop
  | .transferAdmin newAdmins threshold =>
      1 ≤ threshold.toNat ∧ threshold.toNat ≤ newAdmins.length
  | .setSettlementRule _ rule =>
      rule.settlementDelayLedger ≤ maxSettlementDelayLedger
  | _ => True

/-- The events of a bootstrap-priced payment besides its own. -/
def bootstrapEvents (rule : SettlementRule) : List Event :=
  if isBootstrapRule rule then [.bootstrapFallback bootstrapDefaultRule]
  else []

/-- What each entry point does when it succeeds: the conditions it checked,
and the state it leaves. -/
inductive Effect (codec : Codec) (env : Env) (state : State) :
    Call → State → Prop where
  | init {deployer governance recoveryAddress : Address}
      {admins : List Address} {threshold : UInt32}
      (uninitialized : state.admin = none)
      (deployed : env.auths deployer = true)
      (consented : ∀ admin, admin ∈ admins → env.auths admin = true)
      (valid : ValidAdmins admins threshold)
      (governed : governance ≠ zeroAddress)
      (recoverable : recoveryAddress ≠ zeroAddress) :
      Effect codec env state
        (.init deployer admins threshold governance recoveryAddress)
        { state with
          deployer := some deployer
          admin := some admins
          threshold := some threshold
          governance := some governance
          recoveryAddress := some recoveryAddress
          initializing := false
          schemaVersion := some currentSchemaVersion }
  | initiateRecovery {newAdmin recovery : Address} {executeAfter : UInt64}
      (stored : state.recoveryAddress = some recovery)
      (authorized : env.auths recovery = true)
      (nonzero : newAdmin ≠ zeroAddress)
      (absent : state.pendingRecovery = none)
      (deadline : executeAfter.toNat =
        env.timestamp.toNat + recoveryDelaySeconds.toNat) :
      Effect codec env state (.initiateRecovery newAdmin)
        (State.soft
          { state with
            pendingRecovery := some ⟨newAdmin, executeAfter, recovery⟩ }
          state.cachedGovRule state.liveUntil
          [.recoveryInitiated recovery newAdmin executeAfter])
  | cancelRecovery {signers : List Address} {pending : PendingRecovery}
      {canceller : Address}
      (stored : state.pendingRecovery = some pending)
      (authorized : signers = [pending.initiatedBy] ∧
          env.auths pending.initiatedBy = true ∨
        state.authority.Quorum env.toLedger signers) :
      Effect codec env state (.cancelRecovery signers)
        (State.soft { state with pendingRecovery := none }
          state.cachedGovRule state.liveUntil
          [.recoveryCancelled canceller])
  | updateRecoveryAddress {signers : List Address}
      {newRecovery admin : Address}
      (quorum : state.authority.Quorum env.toLedger signers)
      (nonzero : newRecovery ≠ zeroAddress) :
      Effect codec env state (.updateRecoveryAddress signers newRecovery)
        (State.soft { state with recoveryAddress := some newRecovery }
          state.cachedGovRule state.liveUntil
          [.recoveryAddressUpdated newRecovery admin])
  | executeRecovery {pending : PendingRecovery}
      (stored : state.pendingRecovery = some pending)
      (matured : pending.executeAfter ≤ env.timestamp)
      (valid : ValidAdmins [pending.newAdmin] 1) :
      Effect codec env state .executeRecovery
        (State.soft
          { state with
            admin := some [pending.newAdmin]
            threshold := some 1
            pendingRecovery := none }
          state.cachedGovRule state.liveUntil
          [.recoveryExecuted ⟨state.admin.getD [], [pending.newAdmin]⟩])
  | changeThreshold {signers admins : List Address}
      {newThreshold current required : UInt32} {caller : Address}
      (stored : state.admin = some admins)
      (threshold : state.threshold = some current)
      (positive : 1 ≤ newThreshold.toNat)
      (attainable : newThreshold.toNat ≤ admins.length)
      (larger : required.toNat = current.toNat + 1)
      (authorized : state.authority.AuthorizedBy env.toLedger signers
        required) :
      Effect codec env state (.changeThreshold signers newThreshold)
        (State.soft { state with threshold := some newThreshold }
          state.cachedGovRule state.liveUntil
          [.thresholdChanged caller current newThreshold])
  | pause {signers : List Address} {reason : UInt32} {admin : Address}
      (quorum : state.authority.Quorum env.toLedger signers)
      (unpaused : state.isPaused = false) :
      Effect codec env state (.pause signers reason)
        (State.soft { state with paused := some true }
          state.cachedGovRule state.liveUntil [.paused admin reason])
  | unpause {signers : List Address} {admin : Address}
      (quorum : state.authority.Quorum env.toLedger signers)
      (paused : state.isPaused = true) :
      Effect codec env state (.unpause signers)
        (State.soft { state with paused := some false }
          state.cachedGovRule state.liveUntil [.unpaused admin])
  | migrate {signers : List Address} {admin : Address}
      {version : Option UInt32}
      (quorum : state.authority.Quorum env.toLedger signers)
      (unpaused : state.isPaused = false) :
      Effect codec env state (.migrate signers)
        (State.soft { state with schemaVersion := version }
          state.cachedGovRule state.liveUntil
          [.migrated admin currentSchemaVersion])
  | schedule {signers : List Address} {operation : Operation}
      {executeIn executeAt : UInt64} {caller : Address}
      {live : PersistentKey → Nat}
      (quorum : state.authority.Quorum env.toLedger signers)
      (unpaused : state.isPaused = false)
      (longEnough : minTimelockDelaySeconds ≤ executeIn)
      (shortEnough : executeIn ≤ maxTimelockDelaySeconds)
      (bounded : operation.WithinBounds)
      (small : (codec.toXdr operation).length ≤
        maxScheduledOperationPayloadLen.toNat)
      (free : state.scheduledOperation (codec.hash operation) = none)
      (deadline : executeAt.toNat =
        env.timestamp.toNat + executeIn.toNat) :
      Effect codec env state (.schedule signers operation executeIn)
        (State.soft
          { state with
            scheduledOperation :=
              Function.update state.scheduledOperation
                (codec.hash operation)
                (some ⟨codec.toXdr operation, executeAt⟩)
            pendingOperationCount :=
              some (saturatingAdd32 state.readPendingOperationCount 1) }
          state.cachedGovRule live
          [.opScheduled (codec.hash operation) caller executeAt])
  | execute {executor : Address} {operation : Operation}
      {slot : ScheduledOp} {middle : State}
      (queued : Queued codec state operation slot)
      (unpaused : state.isPaused = false)
      (matured : slot.executeAt ≤ env.timestamp)
      (unvetoed : state.pendingRecovery = none ∨
        operation = .cancelRecovery)
      (applied : Applied env (state.released (codec.hash operation))
        executor operation middle) :
      Effect codec env state (.execute executor operation)
        (middle.soft middle.cachedGovRule middle.liveUntil
          [.opExecuted (codec.hash operation)])
  | cancel {signers : List Address} {operation : Operation}
      {slot : ScheduledOp} {caller : Address}
      (quorum : state.authority.Quorum env.toLedger signers)
      (unpaused : state.isPaused = false)
      (queued : Queued codec state operation slot) :
      Effect codec env state (.cancel signers operation)
        (State.soft (state.released (codec.hash operation))
          state.cachedGovRule state.liveUntil
          [.opCancelled (codec.hash operation) caller])
  | cancelAll {signers : List Address} {operations : List Operation}
      {count : Nat} {caller : Address} {middle : State}
      (quorum : state.authority.Quorum env.toLedger signers)
      (unpaused : state.isPaused = false)
      (bounded : count ≤ maxCancelAllBatch.toNat)
      (drained : Drained codec operations count state middle) :
      Effect codec env state (.cancelAll signers operations)
        (middle.soft middle.cachedGovRule middle.liveUntil
          [.opCancelledBatch caller (UInt32.ofNat count)])
  | administer {call : Call} {signers : List Address}
      {operation : Operation} {actor : Address} {middle after : State}
      {consent : List Event} {live : PersistentKey → Nat}
      (direct : call.administers = some (signers, operation))
      (quorum : state.authority.Quorum env.toLedger signers)
      (unpaused : state.isPaused = false ∨
        operation.ignoresPause = true)
      (agreed : consent = [] ∨ ∃ merchant,
        consent = [.merchantConsent merchant])
      (prepared : middle = state.soft state.cachedGovRule live consent)
      (applied : Applied env middle actor operation after) :
      Effect codec env state call after
  | storePaymentReference {merchant : Address} {reference : BytesN 32}
      {amount : I128} {rule : SettlementRule} {split : FeeSplit}
      {count : UInt32} {cache : Option (Option SettlementRule)}
      {live : PersistentKey → Nat}
      (nonzero : reference ≠ 0)
      (unpaused : state.isPaused = false)
      (authorized : env.auths merchant = true)
      (registered : state.merchant merchant = true)
      (enough : (state.readMinPaymentAmount env).val ≤ amount.val)
      (absent : state.payment merchant reference = none)
      (sourced : ∃ provenance,
        Sourced env state merchant ⟨rule, provenance⟩)
      (refreshed : Refreshed env state cache)
      (priced : calculateSplit amount rule = .ok split)
      (counted : count.toNat =
        (state.readPaymentCount merchant).toNat + 1) :
      Effect codec env state
        (.storePaymentReference merchant reference amount)
        (State.soft
          { state with
            payment := Function.update state.payment merchant
              (Function.update (state.payment merchant) reference
                (some (paymentRecord env merchant amount rule split)))
            paymentCount :=
              Function.update state.paymentCount merchant (some count) }
          cache live
          (bootstrapEvents rule ++ [.paymentStored merchant reference
            (paymentRecord env merchant amount rule split)]))
  | prunePayment {signers : List Address} {merchant : Address}
      {reference : BytesN 32} {record : PaymentRecord}
      {live : PersistentKey → Nat}
      (quorum : state.authority.Quorum env.toLedger signers)
      (unpaused : state.isPaused = false)
      (stored : state.payment merchant reference = some record) :
      Effect codec env state (.prunePayment signers merchant reference)
        (State.soft
          { state with
            payment := Function.update state.payment merchant
              (Function.update (state.payment merchant) reference none)
            paymentCount :=
              Function.update state.paymentCount merchant
                (some (saturatingSub32 (state.readPaymentCount merchant)
                  1)) }
          state.cachedGovRule live [.paymentPruned merchant reference])
  | pruneNothing {signers : List Address} {merchant : Address}
      {reference : BytesN 32}
      (quorum : state.authority.Quorum env.toLedger signers)
      (unpaused : state.isPaused = false)
      (absent : state.payment merchant reference = none) :
      Effect codec env state (.prunePayment signers merchant reference)
        state
  | prunePayments {signers : List Address} {merchant admin : Address}
      {refs : List (BytesN 32)} {count : Nat}
      {counts : Address → Option UInt32} {live : PersistentKey → Nat}
      {middle : State}
      (quorum : state.authority.Quorum env.toLedger signers)
      (bounded : count ≤ maxPaymentsBatch.toNat)
      (pruned : Pruned merchant refs count state middle)
      (counted : count = 0 ∧ counts = state.paymentCount ∨
        counts = Function.update state.paymentCount merchant
          (some (saturatingSub32 (state.readPaymentCount merchant)
            (UInt32.ofNat count)))) :
      Effect codec env state (.prunePayments signers merchant refs)
        (State.soft { middle with paymentCount := counts }
          state.cachedGovRule live
          [.paymentsPruned merchant admin (UInt32.ofNat count)])
  | query {call : Call} {cache : Option (Option SettlementRule)}
      {live : PersistentKey → Nat} (reads : call.isQuery = true)
      (refreshed : Refreshed env state cache) :
      Effect codec env state call (state.soft cache live [])

end BettaPay.Settlement

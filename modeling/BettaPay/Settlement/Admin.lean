import BettaPay.Settlement.Merchant
import BettaPay.Settlement.Rules

namespace BettaPay.Settlement

open BettaPay.Host
open BettaPay.Host.Tx (readState writeState)
open BettaPay.Common

/-! Migration. -/

def migrateStep (_fromVersion : UInt32) : Contract Unit := pure ()

def setSchemaVersion (version : UInt32) : Contract Unit :=
  writeState fun state => { state with schemaVersion := some version }

def runMigrations : Contract Unit := do
  let version ← readSchemaVersion
  migrateRounds migrateStep setSchemaVersion
    (currentSchemaVersion.toNat - version.toNat) version

/-! Interface and configuration queries. -/

def supportsInterface (version : UInt32) : Contract Bool :=
  pure (version = supportedInterfaceVersion)

def version : Contract UInt32 := pure currentSchemaVersion

def getCapabilities : Contract (List (Symbol × Bool)) :=
  pure (capabilityFlags.map fun name => (name, true))

def isInitialized : Contract Bool := do
  let state ← readState
  pure state.admin.isSome

def getAdmin : Contract (List Address) := readAdmins

def getThreshold : Contract UInt32 := readThreshold

def getGovernance : Contract Address := readGovernance

def getRecoveryAddress : Contract Address := readRecoveryAddress

def getIsPaused : Contract Bool := do
  let state ← readState
  pure state.isPaused

def getPendingOperationCount : Contract UInt32 := do
  let state ← readState
  pure state.readPendingOperationCount

/-! Administration. -/

def init (env : Env) (deployer : Address) (admins : List Address)
    (threshold : UInt32) (governance recoveryAddress : Address) :
    Contract Unit := do
  let state ← readState
  rejectIf (state.admin.isSome) .alreadyInitialized
  requireAuth env.toLedger deployer
  rejectIf (state.initializing) .alreadyInitialized
  validateAdminsAndThreshold admins threshold
  writeState fun state => { state with initializing := true }
  validateGovernance governance
  validateNonzeroAddress recoveryAddress .invalidRecoveryAddress
  requireAllAuth env.toLedger admins
  writeState fun state => { state with deployer := some deployer }
  writeAdmins admins threshold
  writeState fun state =>
    { state with
      governance := some governance
      recoveryAddress := some recoveryAddress
      initializing := false
      schemaVersion := some currentSchemaVersion }

def storeGovernance (actor newGovernance : Address) : Contract Unit := do
  writeState fun state => { state with governance := some newGovernance }
  emit (.governanceUpdated actor newGovernance)

def updateGovernance (env : Env) (signers : List Address)
    (newGovernance : Address) : Contract Unit := do
  assertAdminAndNotPaused env signers
  validateGovernance newGovernance
  let admin ← unwrapFirst signers
  storeGovernance admin newGovernance

def initiateRecovery (env : Env) (newAdmin : Address) : Contract Unit := do
  let recoveryAddress ← readRecoveryAddress
  requireAuth env.toLedger recoveryAddress
  validateNonzeroAddress newAdmin .invalidAdmin
  let state ← readState
  rejectIf (state.pendingRecovery.isSome) .recoveryAlreadyPending
  let executeAfter ← orTrap (checkedAdd64 env.timestamp recoveryDelaySeconds)
  writeState fun state =>
    { state with
      pendingRecovery := some ⟨newAdmin, executeAfter, recoveryAddress⟩ }
  emit (.recoveryInitiated recoveryAddress newAdmin executeAfter)

def removePendingRecovery (canceller : Address) : Contract Unit := do
  writeState fun state => { state with pendingRecovery := none }
  emit (.recoveryCancelled canceller)

/-- A lone signer equal to the initiator authorizes as the initiator; any
other list authorizes as the admin multisig. -/
def authorizeCancellation (env : Env) (pending : PendingRecovery)
    (signers : List Address) : Contract Unit :=
  if signers = [pending.initiatedBy] then
    requireAuth env.toLedger pending.initiatedBy
  else
    verifyThresholdAuth env signers

def cancelRecovery (env : Env) (signers : List Address) : Contract Unit := do
  let pending ← readPendingRecovery
  authorizeCancellation env pending signers
  let canceller ← unwrapFirst signers
  removePendingRecovery canceller

def updateRecoveryAddress (env : Env) (signers : List Address)
    (newRecovery : Address) : Contract Unit := do
  verifyThresholdAuth env signers
  let admin ← unwrapFirst signers
  validateNonzeroAddress newRecovery .invalidRecoveryAddress
  writeState fun state => { state with recoveryAddress := some newRecovery }
  emit (.recoveryAddressUpdated newRecovery admin)

def executeRecovery (env : Env) : Contract Unit := do
  let pending ← readPendingRecovery
  rejectIf (env.timestamp < pending.executeAfter) .recoveryDelayActive
  let oldAdmins ← readOptionalAdmins
  writeAdmins [pending.newAdmin] 1
  writeState fun state => { state with pendingRecovery := none }
  emit (.recoveryExecuted ⟨oldAdmins, [pending.newAdmin]⟩)

/-- The new admins are visited in order; the first one registered as a
merchant is refused. -/
def rejectMerchantAdmins : List Address → Contract Unit
  | [] => pure ()
  | admin :: rest => do
      let registered ← isMerchantRegisteredInternal admin
      rejectIf (registered) .invalidAdmin
      rejectMerchantAdmins rest

def transferAdmin (env : Env) (signers newAdmins : List Address)
    (newThreshold : UInt32) : Contract Unit := do
  verifyThresholdAuth env signers
  validateAdminsAndThreshold newAdmins newThreshold
  let oldAdmins ← readAdmins
  let oldThreshold ← readThreshold
  rejectIf (oldAdmins = newAdmins ∧ oldThreshold = newThreshold) .sameAdmin
  rejectMerchantAdmins newAdmins
  writeAdmins newAdmins newThreshold
  emit (.adminTransferred ⟨oldAdmins, newAdmins⟩)

def changeThreshold (env : Env) (signers : List Address)
    (newThreshold : UInt32) : Contract Unit := do
  let admins ← readAdmins
  rejectIf (newThreshold = 0 ∨ admins.length < newThreshold.toNat)
    .invalidThreshold
  let currentThreshold ← readThreshold
  rejectIf (newThreshold = currentThreshold) .sameAdmin
  let required ← orTrap (checkedAdd32 currentThreshold 1)
  verifyAdminAuth env signers required
  writeState fun state => { state with threshold := some newThreshold }
  let caller ← unwrapFirst signers
  emit (.thresholdChanged caller currentThreshold newThreshold)

def swapWasm (actor : Address) (newWasmHash : BytesN 32) :
    Contract Unit := do
  emit (.contractUpgraded newWasmHash actor)
  writeState fun state => { state with wasm := some newWasmHash }

def upgrade (env : Env) (signers : List Address) (newWasmHash : BytesN 32) :
    Contract Unit := do
  verifyThresholdAuth env signers
  let admin ← unwrapFirst signers
  let supported ← probeSupportsInterface env.toLedger newWasmHash 1
  rejectIf (supported = false) .invalidWasmInterface
  swapWasm admin newWasmHash

def pause (env : Env) (signers : List Address) (reason : UInt32) :
    Contract Unit := do
  verifyThresholdAuth env signers
  let state ← readState
  rejectIf (state.isPaused) .alreadyPaused
  rejectIf (maxPauseReason < reason) .invalidPauseReason
  let admin ← unwrapFirst signers
  writeState fun state => { state with paused := some true }
  emit (.paused admin reason)

def unpause (env : Env) (signers : List Address) : Contract Unit := do
  verifyThresholdAuth env signers
  let state ← readState
  rejectIf (state.isPaused = false) .alreadyUnpaused
  let admin ← unwrapFirst signers
  writeState fun state => { state with paused := some false }
  emit (.unpaused admin)

def migrate (env : Env) (signers : List Address) : Contract Unit := do
  verifyThresholdAuth env signers
  assertNotPaused
  let admin ← unwrapFirst signers
  runMigrations
  emit (.migrated admin currentSchemaVersion)

/-! The timelock queue. -/

def validateOperationBounds : Operation → Contract Unit
  | .transferAdmin newAdmins threshold =>
      rejectIf (threshold = 0 ∨ newAdmins.length < threshold.toNat)
        .invalidThreshold
  | .setSettlementRule _ rule =>
      rejectIf (maxSettlementDelayLedger < rule.settlementDelayLedger)
        .invalidSettlementDelay
  | _ => pure ()

def rejectOccupied (operationXdr : Bytes) :
    Option ScheduledOp → Contract Unit
  | some existing => do
      rejectIf (existing.operationXdr = operationXdr)
        .operationAlreadyScheduled
      reject .operationHashCollision
  | none => pure ()

def schedule (codec : Codec) (env : Env) (signers : List Address)
    (operation : Operation) (executeIn : UInt64) : Contract Unit := do
  assertAdminAndNotPaused env signers
  let caller ← unwrapFirst signers
  rejectIf (executeIn = 0) .executionNotReady
  rejectIf (executeIn < minTimelockDelaySeconds) .executionNotReady
  rejectIf (maxTimelockDelaySeconds < executeIn) .executionDelayTooLong
  validateOperationBounds operation
  let operationXdr := codec.toXdr operation
  rejectIf (maxScheduledOperationPayloadLen.toNat < operationXdr.length)
    .payloadTooLarge
  assertGovernanceReachable env
  let opHash := codec.sha256 operationXdr
  let state ← readState
  rejectOccupied operationXdr (state.scheduledOperation opHash)
  let executeAt ←
    orReject (checkedAdd64 env.timestamp executeIn) .executionDelayTooLong
  setScheduledOperation env opHash ⟨operationXdr, executeAt⟩
  extendTtl env (.scheduledOperation opHash) scheduledOpTtlThreshold
    scheduledOpTtlBump
  incrementPendingOperationCount
  emit (.opScheduled opHash caller executeAt)

/-- The slot of exactly this operation, whatever else shares its hash. -/
def findScheduled (codec : Codec) (operation : Operation) :
    Contract ScheduledOp := do
  let state ← readState
  let scheduled ← orReject (state.scheduledOperation (codec.hash operation))
    .operationNotScheduled
  rejectIf (scheduled.operationXdr ≠ codec.toXdr operation)
    .operationNotScheduled
  pure scheduled

def validateScheduledExecution (codec : Codec) (env : Env)
    (operation : Operation) : Contract (BytesN 32) := do
  assertNotPaused
  let scheduled ← findScheduled codec operation
  rejectIf (env.timestamp < scheduled.executeAt) .executionNotReady
  let state ← readState
  rejectIf (state.pendingRecovery.isSome ∧ operation ≠ .cancelRecovery)
    .recoveryDelayActive
  pure (codec.hash operation)

def consumeScheduledOperation (opHash : BytesN 32) : Contract Unit := do
  writeState fun state =>
    { state with
      scheduledOperation :=
        Function.update state.scheduledOperation opHash none }
  decrementPendingOperationCount 1

namespace Timelocked

def updateGovernance (executor newGovernance : Address) :
    Contract Unit := do
  assertNotPaused
  validateGovernance newGovernance
  storeGovernance executor newGovernance

def cancelRecovery (executor : Address) : Contract Unit := do
  let state ← readState
  rejectIf (state.pendingRecovery = none) .recoveryNotPending
  removePendingRecovery executor

def transferAdmin (newAdmins : List Address) (newThreshold : UInt32) :
    Contract Unit := do
  let oldAdmins ← readAdmins
  validateAdminsAndThreshold newAdmins newThreshold
  rejectMerchantAdmins newAdmins
  writeAdmins newAdmins newThreshold
  emit (.adminTransferred ⟨oldAdmins, newAdmins⟩)

def upgrade (env : Env) (executor : Address) (newWasmHash : BytesN 32) :
    Contract Unit := do
  rejectIf (newWasmHash = 0) .invalidWasmInterface
  assertNotPaused
  let supported ←
    probeSupportsInterface env.toLedger newWasmHash supportedInterfaceVersion
  rejectIf (supported = false) .invalidWasmInterface
  swapWasm executor newWasmHash

end Timelocked

def dispatch (env : Env) (executor : Address) : Operation → Contract Unit
  | .updateGovernance newGovernance =>
      Timelocked.updateGovernance executor newGovernance
  | .cancelRecovery => Timelocked.cancelRecovery executor
  | .transferAdmin newAdmins newThreshold =>
      Timelocked.transferAdmin newAdmins newThreshold
  | .upgrade wasmHash => Timelocked.upgrade env executor wasmHash
  | .registerMerchant merchant =>
      Timelocked.registerMerchant env executor merchant
  | .unregisterMerchant merchant =>
      Timelocked.unregisterMerchant env executor merchant
  | .setSettlementRule merchant rule =>
      Timelocked.setSettlementRule env executor merchant rule
  | .clearSettlementRule merchant =>
      Timelocked.clearSettlementRule env executor merchant
  | .setDefaultRule rule => Timelocked.setDefaultRule env executor rule

def execute (codec : Codec) (env : Env) (executor : Address)
    (operation : Operation) : Contract Unit := do
  let opHash ← validateScheduledExecution codec env operation
  consumeScheduledOperation opHash
  dispatch env executor operation
  emit (.opExecuted opHash)

def dryRun (codec : Codec) (env : Env) (operation : Operation) :
    Contract Unit := do
  let _ ← validateScheduledExecution codec env operation

def cancel (codec : Codec) (env : Env) (signers : List Address)
    (operation : Operation) : Contract Unit := do
  verifyThresholdAuth env signers
  assertNotPaused
  let caller ← unwrapFirst signers
  let _ ← findScheduled codec operation
  consumeScheduledOperation (codec.hash operation)
  emit (.opCancelled (codec.hash operation) caller)

def cancelEach (codec : Codec) : List Operation → Nat → Contract Nat
  | [], cancelled => pure cancelled
  | operation :: rest, cancelled => do
      let state ← readState
      if (state.scheduledOperation (codec.hash operation)).any
          (fun scheduled => scheduled.operationXdr = codec.toXdr operation)
      then do
        consumeScheduledOperation (codec.hash operation)
        cancelEach codec rest (cancelled + 1)
      else
        cancelEach codec rest cancelled

def cancelAll (codec : Codec) (env : Env) (signers : List Address)
    (operations : List Operation) : Contract UInt32 := do
  verifyThresholdAuth env signers
  assertNotPaused
  let caller ← unwrapFirst signers
  rejectIf (maxCancelAllBatch.toNat < operations.length) .batchTooLarge
  let cancelled ← cancelEach codec operations 0
  emit (.opCancelledBatch caller (UInt32.ofNat cancelled))
  pure (UInt32.ofNat cancelled)

end BettaPay.Settlement

import BettaPay.Common.Multisig
import Mathlib.Logic.Function.Basic

namespace BettaPay.Governance

open BettaPay.Host
open BettaPay.Host.Tx (readState writeState)
open BettaPay.Common

inductive GovernanceError where
  | alreadyInitialized
  | notInitialized
  | unauthorized
  | invalidFeeBps
  | paused
  | invalidAdmin
  | invalidRecoveryAddress
  | recoveryNotPending
  | recoveryDelayActive
  | invalidWasmInterface
  | invalidThreshold
  | recoveryAlreadyPending
  | anchorMissing
  | invalidParamValue
  | alreadyPaused
  | alreadyUnpaused
  | sameAdmin
  deriving DecidableEq, Repr

def currentSchemaVersion : UInt32 := 1

def supportedInterfaceVersion : UInt32 := 1

def bypassGovFeesParam : Symbol := "bypass_gov_fees"

structure FeeConfig where
  platformFeeBps : UInt32
  networkFeeBps : UInt32
  deriving DecidableEq, Repr

/-- Published events: the topics after the name, then the data. -/
inductive Event where
  | initialized (admin : Address)
  | recoveryAddressUpdated (newRecovery : Address) (admin : Address)
  | contractUpgraded (newWasmHash : BytesN 32) (caller : Address)
  | recoveryInitiated (recovery newAdmin : Address) (executeAfter : UInt64)
  | recoveryCancelled (canceller : Address)
  | recoveryExecuted (payload : AdminTransferred)
  | adminTransferred (payload : AdminTransferred)
  | thresholdChanged (current new : UInt32)
  | paused (admin : Address) (reason : UInt32)
  | unpaused (admin : Address)
  | migrated (admin : Address) (version : UInt32)
  | sysParamUpdated (key : Symbol) (admin : Address)
      (previous : Option I128) (value : I128)
  | feeConfigUpdated (admin : Address) (config : FeeConfig)
  | anchorUpserted (asset : Address) (previous : Option Address)
      (current : Address)
  | anchorRemoved (asset : Address)
  deriving DecidableEq, Repr

structure State where
  admin : Option (List Address)
  threshold : Option UInt32
  recoveryAddress : Option Address
  pendingRecovery : Option PendingRecovery
  paused : Option Bool
  deployer : Option Address
  schemaVersion : Option UInt32
  feeConfig : Option FeeConfig
  systemParam : Symbol → Option I128
  anchor : Address → Option Address
  wasm : Option (BytesN 32)
  events : List Event

/-- A freshly deployed contract. -/
def State.initial : State where
  admin := none
  threshold := none
  recoveryAddress := none
  pendingRecovery := none
  paused := none
  deployer := none
  schemaVersion := none
  feeConfig := none
  systemParam := fun _ => none
  anchor := fun _ => none
  wasm := none
  events := []

abbrev Contract (α : Type) := Tx State (Failure GovernanceError) α

/-! Helpers. -/

def emit (event : Event) : Contract Unit :=
  writeState fun state => { state with events := state.events ++ [event] }

def readAdmins : Contract (List Address) := do
  let state ← readState
  orReject state.admin .notInitialized

def readOptionalAdmins : Contract (List Address) := do
  let state ← readState
  pure (state.admin.getD [])

def readThreshold : Contract UInt32 := do
  let state ← readState
  orReject state.threshold .notInitialized

def assertNotZero (address : Address) (error : GovernanceError) :
    Contract Unit :=
  rejectIf (isZeroAddress address) error

def validateAdminsAndThreshold (admins : List Address) (threshold : UInt32) :
    Contract Unit := do
  rejectIf (threshold = 0 ∨ admins.length < threshold.toNat) .invalidThreshold
  rejectIf (admins = []) .invalidAdmin
  checkAdmins .invalidAdmin .invalidAdmin admins

def verifyAdminAuth (env : Ledger) (signers : List Address)
    (requiredCount : UInt32) : Contract Unit := do
  let admins ← readAdmins
  rejectIf (signers.length < requiredCount.toNat) .unauthorized
  checkSigners env admins .unauthorized signers

/-- `verify_admin_auth(&env, &signers, read_threshold(&env))`. -/
def verifyThresholdAuth (env : Ledger) (signers : List Address) :
    Contract Unit := do
  let threshold ← readThreshold
  verifyAdminAuth env signers threshold

def readRecoveryAddress : Contract Address := do
  let state ← readState
  orReject state.recoveryAddress .notInitialized

def readPendingRecovery : Contract PendingRecovery := do
  let state ← readState
  orReject state.pendingRecovery .recoveryNotPending

def State.isPaused (state : State) : Bool := state.paused.getD false

def assertNotPaused : Contract Unit := do
  let state ← readState
  rejectIf (state.isPaused) .paused

def assertAdminAndNotPaused (env : Ledger) (signers : List Address) :
    Contract Unit := do
  assertNotPaused
  verifyThresholdAuth env signers

def applyPause (admin : Address) (reason : UInt32) : Contract Unit := do
  writeState fun state => { state with paused := some true }
  emit (.paused admin reason)

def applyUnpause (admin : Address) : Contract Unit := do
  writeState fun state => { state with paused := some false }
  emit (.unpaused admin)

def readSchemaVersion : Contract UInt32 := do
  let state ← readState
  pure (state.schemaVersion.getD currentSchemaVersion)

def migrateStep (_fromVersion : UInt32) : Contract Unit := pure ()

def setSchemaVersion (version : UInt32) : Contract Unit :=
  writeState fun state => { state with schemaVersion := some version }

def runMigrations : Contract Unit := do
  let version ← readSchemaVersion
  migrateRounds migrateStep setSchemaVersion
    (currentSchemaVersion.toNat - version.toNat) version

/-! Entry points. -/

def supportsInterface (version : UInt32) : Contract Bool :=
  pure (version = supportedInterfaceVersion)

def init (env : Ledger) (deployer : Address) (admins : List Address)
    (threshold : UInt32) (recoveryAddress : Address) : Contract Unit := do
  let state ← readState
  rejectIf (state.admin.isSome) .alreadyInitialized
  requireAuth env deployer
  validateAdminsAndThreshold admins threshold
  assertNotZero recoveryAddress .invalidRecoveryAddress
  requireAllAuth env admins
  writeState fun state =>
    { state with
      deployer := some deployer
      admin := some admins
      threshold := some threshold
      recoveryAddress := some recoveryAddress
      schemaVersion := some currentSchemaVersion }
  let admin ← unwrapFirst admins
  emit (.initialized admin)

def isInitialized : Contract Bool := do
  let state ← readState
  pure state.admin.isSome

def getAdmin : Contract (List Address) := readAdmins

def getThreshold : Contract UInt32 := readThreshold

def getRecoveryAddress : Contract Address := readRecoveryAddress

def updateRecoveryAddress (env : Ledger) (signers : List Address)
    (newRecovery : Address) : Contract Unit := do
  verifyThresholdAuth env signers
  let admin ← unwrapFirst signers
  assertNotZero newRecovery .invalidRecoveryAddress
  writeState fun state => { state with recoveryAddress := some newRecovery }
  emit (.recoveryAddressUpdated newRecovery admin)

def upgrade (env : Ledger) (signers : List Address)
    (newWasmHash : BytesN 32) : Contract Unit := do
  verifyThresholdAuth env signers
  let supported ← probeSupportsInterface env newWasmHash 1
  rejectIf (supported = false) .invalidWasmInterface
  let caller ← unwrapFirst signers
  emit (.contractUpgraded newWasmHash caller)
  writeState fun state => { state with wasm := some newWasmHash }

def initiateRecovery (env : Ledger) (newAdmin : Address) :
    Contract Unit := do
  let recoveryAddress ← readRecoveryAddress
  requireAuth env recoveryAddress
  assertNotZero newAdmin .invalidAdmin
  let state ← readState
  rejectIf (state.pendingRecovery.isSome) .recoveryAlreadyPending
  let executeAfter ← orTrap (checkedAdd64 env.timestamp recoveryDelaySeconds)
  writeState fun state =>
    { state with
      pendingRecovery := some ⟨newAdmin, executeAfter, recoveryAddress⟩ }
  emit (.recoveryInitiated recoveryAddress newAdmin executeAfter)

/-- A lone signer equal to the initiator authorizes as the initiator; any
other list authorizes as the admin multisig. -/
def authorizeCancellation (env : Ledger) (pending : PendingRecovery)
    (signers : List Address) : Contract Unit :=
  if signers = [pending.initiatedBy] then
    requireAuth env pending.initiatedBy
  else
    verifyThresholdAuth env signers

def cancelRecovery (env : Ledger) (signers : List Address) :
    Contract Unit := do
  let pending ← readPendingRecovery
  authorizeCancellation env pending signers
  let canceller ← unwrapFirst signers
  writeState fun state => { state with pendingRecovery := none }
  emit (.recoveryCancelled canceller)

/-- The new admin is installed without going through
`validateAdminsAndThreshold`. -/
def executeRecovery (env : Ledger) : Contract Unit := do
  let pending ← readPendingRecovery
  rejectIf (env.timestamp < pending.executeAfter) .recoveryDelayActive
  let oldAdmins ← readOptionalAdmins
  writeState fun state =>
    { state with
      admin := some [pending.newAdmin]
      threshold := some 1
      pendingRecovery := none }
  emit (.recoveryExecuted ⟨oldAdmins, [pending.newAdmin]⟩)

def transferAdmin (env : Ledger) (signers newAdmins : List Address)
    (newThreshold : UInt32) : Contract Unit := do
  let oldThreshold ← readThreshold
  verifyAdminAuth env signers oldThreshold
  validateAdminsAndThreshold newAdmins newThreshold
  let oldAdmins ← readAdmins
  rejectIf (oldAdmins = newAdmins ∧ oldThreshold = newThreshold) .sameAdmin
  writeState fun state =>
    { state with admin := some newAdmins, threshold := some newThreshold }
  emit (.adminTransferred ⟨oldAdmins, newAdmins⟩)

def changeThreshold (env : Ledger) (signers : List Address)
    (newThreshold : UInt32) : Contract Unit := do
  let admins ← readAdmins
  rejectIf (newThreshold = 0 ∨ admins.length < newThreshold.toNat)
    .invalidThreshold
  let currentThreshold ← readThreshold
  verifyAdminAuth env signers currentThreshold
  writeState fun state => { state with threshold := some newThreshold }
  emit (.thresholdChanged currentThreshold newThreshold)

def pause (env : Ledger) (signers : List Address) : Contract Unit := do
  verifyThresholdAuth env signers
  let state ← readState
  rejectIf (state.isPaused) .alreadyPaused
  let admin ← unwrapFirst signers
  applyPause admin pauseReasonNone

def unpause (env : Ledger) (signers : List Address) : Contract Unit := do
  verifyThresholdAuth env signers
  let state ← readState
  rejectIf (state.isPaused = false) .alreadyUnpaused
  let admin ← unwrapFirst signers
  applyUnpause admin

def getIsPaused : Contract Bool := do
  let state ← readState
  pure state.isPaused

def migrate (env : Ledger) (signers : List Address) : Contract Unit := do
  assertNotPaused
  verifyThresholdAuth env signers
  let admin ← unwrapFirst signers
  runMigrations
  emit (.migrated admin currentSchemaVersion)

def updateSystemParam (env : Ledger) (signers : List Address) (key : Symbol)
    (value : I128) : Contract Unit := do
  assertAdminAndNotPaused env signers
  rejectIf (value.val < 0) .invalidParamValue
  rejectIf (key = bypassGovFeesParam ∧ 1 < value.val) .invalidParamValue
  let admin ← unwrapFirst signers
  let state ← readState
  writeState fun state =>
    { state with
      systemParam := Function.update state.systemParam key (some value) }
  emit (.sysParamUpdated key admin (state.systemParam key) value)

def getSystemParam (key : Symbol) : Contract (Option I128) := do
  let state ← readState
  pure (state.systemParam key)

def setFeeConfig (env : Ledger) (signers : List Address)
    (config : FeeConfig) : Contract Unit := do
  assertAdminAndNotPaused env signers
  rejectIf (config.platformFeeBps < minFeeBps ∨
    maxFeeBps < config.platformFeeBps ∨ config.networkFeeBps < minFeeBps ∨
    maxFeeBps < config.networkFeeBps) .invalidFeeBps
  let sum ← orTrap (checkedAdd32 config.platformFeeBps config.networkFeeBps)
  rejectIf (bpsDenominator < sum) .invalidFeeBps
  let admin ← unwrapFirst signers
  writeState fun state => { state with feeConfig := some config }
  emit (.feeConfigUpdated admin config)

def getFeeConfig : Contract (Option FeeConfig) := do
  let state ← readState
  pure state.feeConfig

def upsertAnchor (env : Ledger) (signers : List Address)
    (asset anchor : Address) : Contract Unit := do
  assertAdminAndNotPaused env signers
  assertNotZero asset .invalidAdmin
  assertNotZero anchor .invalidAdmin
  rejectIf (asset = anchor) .invalidAdmin
  let state ← readState
  writeState fun state =>
    { state with anchor := Function.update state.anchor asset (some anchor) }
  emit (.anchorUpserted asset (state.anchor asset) anchor)

def removeAnchor (env : Ledger) (signers : List Address)
    (asset : Address) : Contract Unit := do
  assertAdminAndNotPaused env signers
  let state ← readState
  rejectIf (state.anchor asset = none) .anchorMissing
  writeState fun state =>
    { state with anchor := Function.update state.anchor asset none }
  emit (.anchorRemoved asset)

def getAnchor (asset : Address) : Contract (Option Address) := do
  let state ← readState
  pure (state.anchor asset)

/-- The entry points with their arguments. -/
inductive Call where
  | init (deployer : Address) (admins : List Address) (threshold : UInt32)
      (recoveryAddress : Address)
  | updateRecoveryAddress (signers : List Address) (newRecovery : Address)
  | upgrade (signers : List Address) (newWasmHash : BytesN 32)
  | initiateRecovery (newAdmin : Address)
  | cancelRecovery (signers : List Address)
  | executeRecovery
  | transferAdmin (signers newAdmins : List Address) (newThreshold : UInt32)
  | changeThreshold (signers : List Address) (newThreshold : UInt32)
  | pause (signers : List Address)
  | unpause (signers : List Address)
  | migrate (signers : List Address)
  | updateSystemParam (signers : List Address) (key : Symbol)
      (value : I128)
  | setFeeConfig (signers : List Address) (config : FeeConfig)
  | upsertAnchor (signers : List Address) (asset anchor : Address)
  | removeAnchor (signers : List Address) (asset : Address)
  | supportsInterface (version : UInt32)
  | isInitialized
  | getAdmin
  | getThreshold
  | getRecoveryAddress
  | isPaused
  | getSystemParam (key : Symbol)
  | getFeeConfig
  | getAnchor (asset : Address)
  deriving DecidableEq, Repr

/-- Returned values. -/
inductive Reply where
  | unit
  | bool (value : Bool)
  | u32 (value : UInt32)
  | address (value : Address)
  | addresses (value : List Address)
  | param (value : Option I128)
  | feeConfig (value : Option FeeConfig)
  | anchor (value : Option Address)
  deriving DecidableEq, Repr

/-- One call of the contract. -/
def invoke (env : Ledger) : Call → Contract Reply
  | .init deployer admins threshold recoveryAddress =>
      replying (fun _ => .unit)
        (init env deployer admins threshold recoveryAddress)
  | .updateRecoveryAddress signers newRecovery =>
      replying (fun _ => .unit)
        (updateRecoveryAddress env signers newRecovery)
  | .upgrade signers newWasmHash =>
      replying (fun _ => .unit) (upgrade env signers newWasmHash)
  | .initiateRecovery newAdmin =>
      replying (fun _ => .unit) (initiateRecovery env newAdmin)
  | .cancelRecovery signers =>
      replying (fun _ => .unit) (cancelRecovery env signers)
  | .executeRecovery => replying (fun _ => .unit) (executeRecovery env)
  | .transferAdmin signers newAdmins newThreshold =>
      replying (fun _ => .unit)
        (transferAdmin env signers newAdmins newThreshold)
  | .changeThreshold signers newThreshold =>
      replying (fun _ => .unit) (changeThreshold env signers newThreshold)
  | .pause signers => replying (fun _ => .unit) (pause env signers)
  | .unpause signers => replying (fun _ => .unit) (unpause env signers)
  | .migrate signers => replying (fun _ => .unit) (migrate env signers)
  | .updateSystemParam signers key value =>
      replying (fun _ => .unit) (updateSystemParam env signers key value)
  | .setFeeConfig signers config =>
      replying (fun _ => .unit) (setFeeConfig env signers config)
  | .upsertAnchor signers asset anchor =>
      replying (fun _ => .unit) (upsertAnchor env signers asset anchor)
  | .removeAnchor signers asset =>
      replying (fun _ => .unit) (removeAnchor env signers asset)
  | .supportsInterface version => replying .bool (supportsInterface version)
  | .isInitialized => replying .bool isInitialized
  | .getAdmin => replying .addresses getAdmin
  | .getThreshold => replying .u32 getThreshold
  | .getRecoveryAddress => replying .address getRecoveryAddress
  | .isPaused => replying .bool getIsPaused
  | .getSystemParam key => replying .param (getSystemParam key)
  | .getFeeConfig => replying .feeConfig getFeeConfig
  | .getAnchor asset => replying .anchor (getAnchor asset)

/-- A call together with what the host supplies to it. -/
structure Input where
  env : Ledger
  call : Call

def step (input : Input) : Contract Reply := invoke input.env input.call

/-- The states of a deployed contract that some run of calls reaches. -/
def Reachable (state : State) : Prop :=
  ∃ inputs, run step State.initial inputs = state

theorem Reachable.induction (invariant : State → Prop)
    (initially : invariant State.initial)
    (preserved : ∀ {env call before reply after}, invariant before →
      invoke env call before = .ok (reply, after) → invariant after)
    {state : State} (reachable : Reachable state) : invariant state := by
  obtain ⟨inputs, rfl⟩ := reachable
  exact run_invariant invariant preserved initially inputs

end BettaPay.Governance

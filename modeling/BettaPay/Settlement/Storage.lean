import BettaPay.Settlement.Types

namespace BettaPay.Settlement

open BettaPay.Host
open BettaPay.Host.Tx (readState writeState)
open BettaPay.Common

/-! Host operations on the contract's entries. -/

def emit (event : Event) : Contract Unit :=
  writeState fun state => { state with events := state.events ++ [event] }

def extendTtl (env : Env) (key : PersistentKey) (threshold bump : UInt32) :
    Contract Unit :=
  writeState fun state =>
    { state with
      liveUntil := Function.update state.liveUntil key
        (env.extendTtl threshold bump (state.liveUntil key)) }

/-- Lifetimes after a write under `key`: only a new entry starts one. -/
def started (env : Env) (key : PersistentKey) (present : Bool)
    (liveUntil : PersistentKey → Nat) : PersistentKey → Nat :=
  if present then liveUntil
  else Function.update liveUntil key
    (env.sequence.toNat + env.freshTtl.toNat)

def setMerchant (env : Env) (merchant : Address) : Contract Unit :=
  writeState fun state =>
    { state with
      merchant := Function.update state.merchant merchant true
      liveUntil := started env (.merchant merchant)
        (state.merchant merchant) state.liveUntil }

def setArchivedMerchant (env : Env) (merchant : Address) : Contract Unit :=
  writeState fun state =>
    { state with
      archivedMerchant := Function.update state.archivedMerchant merchant true
      liveUntil := started env (.archivedMerchant merchant)
        (state.archivedMerchant merchant) state.liveUntil }

def setRule (env : Env) (merchant : Address) (rule : SettlementRule) :
    Contract Unit :=
  writeState fun state =>
    { state with
      rule := Function.update state.rule merchant (some rule)
      liveUntil := started env (.rule merchant)
        (state.rule merchant).isSome state.liveUntil }

def removeRule (merchant : Address) : Contract Unit :=
  writeState fun state =>
    { state with rule := Function.update state.rule merchant none }

def setPayment (env : Env) (merchant : Address) (reference : BytesN 32)
    (record : PaymentRecord) : Contract Unit :=
  writeState fun state =>
    { state with
      payment := Function.update state.payment merchant
        (Function.update (state.payment merchant) reference (some record))
      liveUntil := started env (.payment merchant reference)
        (state.payment merchant reference).isSome state.liveUntil }

def removePayment (merchant : Address) (reference : BytesN 32) :
    Contract Unit :=
  writeState fun state =>
    { state with
      payment := Function.update state.payment merchant
        (Function.update (state.payment merchant) reference none) }

def setPaymentCount (env : Env) (merchant : Address) (count : UInt32) :
    Contract Unit :=
  writeState fun state =>
    { state with
      paymentCount := Function.update state.paymentCount merchant (some count)
      liveUntil := started env (.paymentCount merchant)
        (state.paymentCount merchant).isSome state.liveUntil }

def setScheduledOperation (env : Env) (opHash : BytesN 32)
    (scheduled : ScheduledOp) : Contract Unit :=
  writeState fun state =>
    { state with
      scheduledOperation :=
        Function.update state.scheduledOperation opHash (some scheduled)
      liveUntil := started env (.scheduledOperation opHash)
        (state.scheduledOperation opHash).isSome state.liveUntil }

/-! Admin configuration and authorization. -/

def readAdmins : Contract (List Address) := do
  let state ← readState
  orReject state.admin .notInitialized

def readOptionalAdmins : Contract (List Address) := do
  let state ← readState
  pure (state.admin.getD [])

def readThreshold : Contract UInt32 := do
  let state ← readState
  orReject state.threshold .notInitialized

def validateNonzeroAddress (address : Address) (zeroError : SettlementError) :
    Contract Unit :=
  rejectIf (isZeroAddress address) zeroError

def validateAdminsAndThreshold (admins : List Address) (threshold : UInt32) :
    Contract Unit := do
  rejectIf (threshold = 0 ∨ admins.length < threshold.toNat) .invalidThreshold
  rejectIf (admins = []) .invalidAdmin
  checkAdmins .zeroAddress .invalidAdmin admins

def writeAdmins (admins : List Address) (threshold : UInt32) :
    Contract Unit := do
  validateAdminsAndThreshold admins threshold
  writeState fun state =>
    { state with admin := some admins, threshold := some threshold }

def verifyAdminAuth (env : Env) (signers : List Address)
    (requiredCount : UInt32) : Contract Unit := do
  let admins ← readAdmins
  rejectIf (signers.length < requiredCount.toNat) .unauthorized
  checkSigners env.toLedger admins .unauthorized signers

/-- `verify_admin_auth(&env, &signers, read_threshold(&env))`. -/
def verifyThresholdAuth (env : Env) (signers : List Address) :
    Contract Unit := do
  let threshold ← readThreshold
  verifyAdminAuth env signers threshold

def readGovernance : Contract Address := do
  let state ← readState
  orReject state.governance .notInitialized

def readRecoveryAddress : Contract Address := do
  let state ← readState
  orReject state.recoveryAddress .notInitialized

def readPendingRecovery : Contract PendingRecovery := do
  let state ← readState
  orReject state.pendingRecovery .recoveryNotPending

def validateGovernance (governance : Address) : Contract Unit :=
  validateNonzeroAddress governance .invalidGovernance

def State.isPaused (state : State) : Bool := state.paused.getD false

def assertNotPaused : Contract Unit := do
  let state ← readState
  rejectIf (state.isPaused) .paused

def assertAdminAndNotPaused (env : Env) (signers : List Address) :
    Contract Unit := do
  assertNotPaused
  verifyThresholdAuth env signers

def readSchemaVersion : Contract UInt32 := do
  let state ← readState
  pure (state.schemaVersion.getD currentSchemaVersion)

/-! Merchant markers and payment counters. -/

def isMerchantRegisteredInternal (merchant : Address) : Contract Bool := do
  let state ← readState
  pure (state.merchant merchant)

def isMerchantRegisteredAndBumpTtl (env : Env) (merchant : Address) :
    Contract Bool := do
  let state ← readState
  if state.merchant merchant then
    extendTtl env (.merchant merchant) merchantTtlThreshold merchantTtlBump
    pure true
  else
    pure false

def assertPaymentsReadable (merchant : Address) : Contract Unit := do
  let registered ← isMerchantRegisteredInternal merchant
  rejectIf (registered = false) .paymentOrphaned
  let state ← readState
  rejectIf (state.archivedMerchant merchant) .paymentOrphaned

def State.readPaymentCount (state : State) (merchant : Address) : UInt32 :=
  (state.paymentCount merchant).getD 0

def incrementPaymentCount (env : Env) (merchant : Address) :
    Contract Unit := do
  let state ← readState
  let count ← orTrap (checkedAdd32 (state.readPaymentCount merchant) 1)
  setPaymentCount env merchant count
  extendTtl env (.paymentCount merchant) merchantTtlThreshold merchantTtlBump

def decrementPaymentCount (env : Env) (merchant : Address) (count : UInt32) :
    Contract Unit := do
  if count = 0 then
    pure ()
  else
    let state ← readState
    setPaymentCount env merchant
      (saturatingSub32 (state.readPaymentCount merchant) count)
    extendTtl env (.paymentCount merchant) merchantTtlThreshold
      merchantTtlBump

def State.readPendingOperationCount (state : State) : UInt32 :=
  state.pendingOperationCount.getD 0

def incrementPendingOperationCount : Contract Unit :=
  writeState fun state =>
    { state with
      pendingOperationCount :=
        some (saturatingAdd32 state.readPendingOperationCount 1) }

def decrementPendingOperationCount (count : UInt32) : Contract Unit :=
  if count = 0 then
    pure ()
  else
    writeState fun state =>
      { state with
        pendingOperationCount :=
          some (saturatingSub32 state.readPendingOperationCount count) }

/-! Governance reads. -/

def bypassGovFeesParam : Symbol := "bypass_gov_fees"

/-- `Option<i128>` as the SDK decodes it; absent on a conversion error. -/
def asOptionI128 : Answer → Option (Option I128)
  | .value .void => some none
  | .value (.i128 value) => some (some value)
  | _ => none

def governanceBypassEnabled (env : Env) (governance : Address) : Bool :=
  match asOptionI128
      ((env.governance governance).getSystemParam bypassGovFeesParam) with
  | some (some value) => value.val = 1
  | _ => false

/-- Lookup in a host map by a symbol key. -/
def lookupSymbol (key : Symbol) : List (Val × Val) → Option Val
  | [] => none
  | (.symbol found, value) :: rest =>
      if found = key then some value else lookupSymbol key rest
  | _ :: rest => lookupSymbol key rest

def asU32 : Val → Except SettlementError UInt32
  | .u32 value => .ok value
  | _ => .error .governanceCallFailed

def requiredU32 (key : Symbol) (entries : List (Val × Val)) :
    Except SettlementError UInt32 :=
  match lookupSymbol key entries with
  | some value => asU32 value
  | none => .error .governanceCallFailed

def classifyGovernanceFeeConfig :
    Val → Except SettlementError (Option GovFeeConfig)
  | .map entries =>
      if entries.length ≠ 2 then .error .governanceCallFailed
      else do
        let platformFeeBps ← requiredU32 "platform_fee_bps" entries
        let networkFeeBps ← requiredU32 "network_fee_bps" entries
        pure (some ⟨platformFeeBps, networkFeeBps⟩)
  | _ => .ok none

def tryReadGovernanceFeeConfig (rawVal : Val) :
    Contract (Option GovFeeConfig) :=
  orRaise (classifyGovernanceFeeConfig rawVal)

def State.readCachedGovernanceFeeRule (state : State) :
    Option SettlementRule :=
  state.cachedGovRule.join

/-- The rule a governance fee configuration stands for: immediate, manual
settlement at the configured rates. -/
def GovFeeConfig.toRule (config : GovFeeConfig) : SettlementRule where
  platformFeeBps := config.platformFeeBps
  networkFeeBps := config.networkFeeBps
  settlementDelayLedger := 0
  autoSettle := false

def cacheGovernanceFeeRule (config : Option GovFeeConfig) :
    Contract (Option SettlementRule) :=
  match config with
  | none => pure none
  | some config => do
      rejectIf
        (maxSettlementDelayLedger < config.toRule.settlementDelayLedger)
        .invalidSettlementDelay
      writeState fun state =>
        { state with cachedGovRule := some (some config.toRule) }
      pure (some config.toRule)

def readGovernanceFeeRule (env : Env) : Contract (Option SettlementRule) := do
  let state ← readState
  match state.governance with
  | none => pure none
  | some governance =>
      if governanceBypassEnabled env governance then
        pure none
      else
        match (env.governance governance).getFeeConfig with
        | .value rawVal => do
            let config ← tryReadGovernanceFeeConfig rawVal
            cacheGovernanceFeeRule config
        | _ => pure state.readCachedGovernanceFeeRule

def State.readMinPaymentAmount (state : State) (env : Env) : I128 :=
  match state.governance with
  | none => minPaymentAmount
  | some governance =>
      match asOptionI128
          ((env.governance governance).getSystemParam "min_payment") with
      | some (some min) => min
      | _ => minPaymentAmount

def invokeGovernanceGetFeeConfig (env : Env) (governance : Address) :
    Contract Val :=
  match (env.governance governance).getFeeConfig with
  | .value rawVal => pure rawVal
  | _ => reject .governanceCallFailed

def assertGovernanceReachable (env : Env) : Contract Unit := do
  let governance ← readGovernance
  let _ ← invokeGovernanceGetFeeConfig env governance

def checkFeeCeiling (rule : SettlementRule) (config : Option GovFeeConfig) :
    Contract Unit :=
  match config with
  | none => pure ()
  | some config =>
      if config.platformFeeBps < rule.platformFeeBps ∨
          config.networkFeeBps < rule.networkFeeBps then do
        emit (.feeCeilingRejected rule.platformFeeBps rule.networkFeeBps)
        reject .feeExceedsGovernanceConfig
      else
        pure ()

def validateFeeAgainstGovernance (env : Env) (rule : SettlementRule) :
    Contract Unit := do
  let governance ← readGovernance
  let rawVal ← invokeGovernanceGetFeeConfig env governance
  let config ← tryReadGovernanceFeeConfig rawVal
  checkFeeCeiling rule config

/-! Rule resolution: merchant, default, governance, bootstrap. -/

def readEffectiveFallbackRule (env : Env) : Contract EffectiveRule := do
  let state ← readState
  match state.defaultRule with
  | some rule => pure ⟨rule, .default⟩
  | none => do
      match ← readGovernanceFeeRule env with
      | some rule => pure ⟨rule, .governance⟩
      | none => pure ⟨bootstrapDefaultRule, .bootstrap⟩

def readFallbackRule (env : Env) : Contract SettlementRule := do
  let effective ← readEffectiveFallbackRule env
  pure effective.rule

def readEffectiveRuleNoBump (env : Env) (merchant : Address) :
    Contract EffectiveRule := do
  let state ← readState
  match state.rule merchant with
  | some rule => pure ⟨rule, .merchant⟩
  | none => readEffectiveFallbackRule env

def readRuleOrDefaultNoBump (env : Env) (merchant : Address) :
    Contract SettlementRule := do
  let effective ← readEffectiveRuleNoBump env merchant
  pure effective.rule

def bumpRule (env : Env) (merchant : Address) : Contract Unit := do
  let state ← readState
  if (state.rule merchant).isSome then
    extendTtl env (.rule merchant) ruleTtlThreshold ruleTtlBump
  else
    pure ()

def readRuleOrDefault (env : Env) (merchant : Address) :
    Contract SettlementRule := do
  bumpRule env merchant
  readRuleOrDefaultNoBump env merchant

end BettaPay.Settlement

import BettaPay.Settlement.Storage

namespace BettaPay.Settlement

open BettaPay.Host
open BettaPay.Host.Tx (readState writeState)
open BettaPay.Common

/-! Settlement rules. -/

def validateRuleBounds (rule : SettlementRule) : Contract Unit := do
  rejectIf (bpsDenominator < rule.platformFeeBps ∨
    bpsDenominator < rule.networkFeeBps) .invalidFeeBps
  rejectIf (rule.platformFeeBps < minFeeBps ∨
    rule.networkFeeBps < minFeeBps) .invalidFeeBps
  rejectIf (maxFeeBps < rule.platformFeeBps ∨
    maxFeeBps < rule.networkFeeBps) .invalidFeeBps
  rejectIf ((checkedAdd32 rule.platformFeeBps rule.networkFeeBps).all
    (fun sum => bpsDenominator < sum)) .invalidFeeBps
  rejectIf (maxSettlementDelayLedger < rule.settlementDelayLedger)
    .invalidSettlementDelay

/-- The bounds of the timelocked setters, whose fee sum traps on overflow. -/
def validateRuleBoundsTrapping (rule : SettlementRule) : Contract Unit := do
  rejectIf (bpsDenominator < rule.platformFeeBps ∨
    bpsDenominator < rule.networkFeeBps) .invalidFeeBps
  rejectIf (rule.platformFeeBps < minFeeBps ∨
    rule.networkFeeBps < minFeeBps) .invalidFeeBps
  rejectIf (maxFeeBps < rule.platformFeeBps ∨
    maxFeeBps < rule.networkFeeBps) .invalidFeeBps
  let sum ← orTrap (checkedAdd32 rule.platformFeeBps rule.networkFeeBps)
  rejectIf (bpsDenominator < sum) .invalidFeeBps
  rejectIf (maxSettlementDelayLedger < rule.settlementDelayLedger)
    .invalidSettlementDelay

/-- The rule reported as replaced: the stored one, else the one it
overrides. -/
def previousRule (env : Env) (merchant : Address) :
    Contract SettlementRule := do
  let state ← readState
  match state.rule merchant with
  | some rule => pure rule
  | none => readRuleOrDefault env merchant

def storeRule (env : Env) (actor merchant : Address)
    (rule : SettlementRule) : Contract Unit := do
  let prev ← previousRule env merchant
  setRule env merchant rule
  extendTtl env (.rule merchant) ruleTtlThreshold ruleTtlBump
  emit (.settlementRuleUpdated merchant actor prev rule)

def storeDefaultRule (actor : Address) (newRule : SettlementRule) :
    Contract Unit := do
  let state ← readState
  let prev := state.defaultRule.getD bootstrapDefaultRule
  writeState fun state => { state with defaultRule := some newRule }
  emit (.defaultRuleUpdated actor prev newRule)

def assertMerchantRegistered (env : Env) (merchant : Address) :
    Contract Unit := do
  let registered ← isMerchantRegisteredAndBumpTtl env merchant
  rejectIf (registered = false) .merchantMissing

def setSettlementRule (env : Env) (signers : List Address)
    (merchant : Address) (rule : SettlementRule) : Contract Unit := do
  assertAdminAndNotPaused env signers
  let admin ← unwrapFirst signers
  validateNonzeroAddress merchant .zeroAddress
  assertMerchantRegistered env merchant
  validateRuleBounds rule
  validateFeeAgainstGovernance env rule
  storeRule env admin merchant rule

def clearSettlementRule (env : Env) (signers : List Address)
    (merchant : Address) : Contract Unit := do
  assertAdminAndNotPaused env signers
  let admin ← unwrapFirst signers
  let state ← readState
  let removed ← orReject (state.rule merchant) .merchantRuleNotSet
  removeRule merchant
  let fallback ← readFallbackRule env
  emit (.settlementRuleCleared merchant admin removed fallback)

def setDefaultRule (env : Env) (signers : List Address)
    (newRule : SettlementRule) : Contract Unit := do
  assertAdminAndNotPaused env signers
  let admin ← unwrapFirst signers
  validateRuleBounds newRule
  validateFeeAgainstGovernance env newRule
  storeDefaultRule admin newRule

def getDefaultRule : Contract (Option SettlementRule) := do
  let state ← readState
  pure state.defaultRule

def getSettlementRule (env : Env) (merchant : Address) :
    Contract (Option SettlementRule) := do
  bumpRule env merchant
  let state ← readState
  pure (state.rule merchant)

def getSettlementRuleNoBump (merchant : Address) :
    Contract (Option SettlementRule) := do
  let state ← readState
  pure (state.rule merchant)

def getEffectiveRule (env : Env) (merchant : Address) :
    Contract SettlementRule :=
  readRuleOrDefaultNoBump env merchant

def getRuleProvenance (env : Env) (merchant : Address) :
    Contract EffectiveRule :=
  readEffectiveRuleNoBump env merchant

namespace Timelocked

def setSettlementRule (env : Env) (executor merchant : Address)
    (rule : SettlementRule) : Contract Unit := do
  assertNotPaused
  validateFeeAgainstGovernance env rule
  assertMerchantRegistered env merchant
  validateRuleBoundsTrapping rule
  storeRule env executor merchant rule

def clearSettlementRule (env : Env) (executor merchant : Address) :
    Contract Unit := do
  assertNotPaused
  let state ← readState
  let removed ← orReject (state.rule merchant) .merchantRuleNotSet
  removeRule merchant
  let fallback ← readRuleOrDefault env merchant
  emit (.settlementRuleCleared merchant executor removed fallback)

def setDefaultRule (env : Env) (executor : Address)
    (newRule : SettlementRule) : Contract Unit := do
  assertNotPaused
  validateFeeAgainstGovernance env newRule
  validateRuleBoundsTrapping newRule
  storeDefaultRule executor newRule

end Timelocked

end BettaPay.Settlement

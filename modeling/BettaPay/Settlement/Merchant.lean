import BettaPay.Settlement.Storage

namespace BettaPay.Settlement

open BettaPay.Host
open BettaPay.Host.Tx (readState writeState)
open BettaPay.Common

/-! Merchant registration. The direct entry points and the timelocked
operations end in the same writes, published on behalf of `actor`. -/

def rejectAdminMerchant (merchant : Address) : Contract Unit := do
  let admins ← readAdmins
  rejectIf (merchant ∈ admins) .invalidAdmin

def addMerchant (env : Env) (actor merchant : Address) : Contract Unit := do
  let state ← readState
  rejectIf (state.merchant merchant) .merchantExists
  setMerchant env merchant
  extendTtl env (.merchant merchant) merchantTtlThreshold merchantTtlBump
  writeState fun state =>
    { state with
      archivedMerchant :=
        Function.update state.archivedMerchant merchant false }
  emit (.merchantRegistered merchant actor)

def clearMerchantRule (env : Env) (actor merchant : Address) :
    Contract Unit := do
  let state ← readState
  match state.rule merchant with
  | some oldRule => do
      removeRule merchant
      let fallback ← readFallbackRule env
      emit (.settlementRuleCleared merchant actor oldRule fallback)
  | none => pure ()

def removeMerchant (env : Env) (actor merchant : Address) :
    Contract Unit := do
  let state ← readState
  rejectIf (state.merchant merchant = false) .merchantMissing
  writeState fun state =>
    { state with merchant := Function.update state.merchant merchant false }
  setArchivedMerchant env merchant
  extendTtl env (.archivedMerchant merchant) merchantTtlThreshold
    merchantTtlBump
  clearMerchantRule env actor merchant
  emit (.merchantUnregistered merchant actor)

def registerMerchant (env : Env) (signers : List Address)
    (merchant : Address) : Contract Unit := do
  assertAdminAndNotPaused env signers
  validateNonzeroAddress merchant .zeroAddress
  let admin ← unwrapFirst signers
  rejectAdminMerchant merchant
  requireAuth env.toLedger merchant
  emit (.merchantConsent merchant)
  addMerchant env admin merchant

def unregisterMerchant (env : Env) (signers : List Address)
    (merchant : Address) : Contract Unit := do
  assertAdminAndNotPaused env signers
  let admin ← unwrapFirst signers
  removeMerchant env admin merchant

def isMerchantRegistered (merchant : Address) : Contract Bool := do
  let state ← readState
  rejectIf (state.admin = none) .notInitialized
  pure (state.merchant merchant)

namespace Timelocked

def registerMerchant (env : Env) (executor merchant : Address) :
    Contract Unit := do
  assertNotPaused
  validateNonzeroAddress merchant .zeroAddress
  rejectAdminMerchant merchant
  addMerchant env executor merchant

def unregisterMerchant (env : Env) (executor merchant : Address) :
    Contract Unit := do
  assertNotPaused
  removeMerchant env executor merchant

end Timelocked

end BettaPay.Settlement

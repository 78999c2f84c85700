import BettaPay.Settlement.Storage

namespace BettaPay.Settlement

open BettaPay.Host
open BettaPay.Host.Tx (readState writeState)
open BettaPay.Common

/-! The fee split. -/

/-- Clamp the rounded-up legs against the gross; the merchant gets the
rest. -/
def clampFeeLegs (gross platformFee networkFee : I128) :
    I128 × I128 × I128 :=
  let gross := gross.max .zero
  let platformFee := platformFee.clamp .zero gross
  let networkFee := networkFee.clamp .zero (gross.saturatingSub platformFee)
  let merchantPayout :=
    (gross.saturatingSub platformFee).saturatingSub networkFee
  (platformFee, networkFee, merchantPayout)

def orAmountOverflow (value : Option α) : Except SettlementError α :=
  match value with
  | some found => .ok found
  | none => .error .amountOverflow

/-- `amount * rate + (BPS_DENOMINATOR - 1)`, checked. -/
def ceilNumerator (amount rate : I128) : Option I128 := do
  let product ← amount.checkedMul rate
  product.checkedAdd (Bps.mk (bpsDenominator - 1)).asI128

def calculateSplit (amount : I128) (rule : SettlementRule) :
    Except SettlementError FeeSplit := do
  let platformBps := rule.platformBps
  let networkBps := rule.networkBps
  let maxBps := platformBps.asI128.max networkBps.asI128
  let _ ← orAmountOverflow (ceilNumerator amount maxBps)
  let sumBps :=
    (platformBps.asI128.checkedAdd networkBps.asI128).getD .largest
  let _ ← orAmountOverflow (ceilNumerator amount sumBps)
  let platformFeeAmount ←
    orAmountOverflow (platformBps.calculateFeeCeil amount)
  let networkFeeAmount ←
    orAmountOverflow (networkBps.calculateFeeCeil amount)
  let legs := clampFeeLegs amount platformFeeAmount networkFeeAmount
  pure
    { grossAmount := amount
      platformFeeAmount := legs.1
      networkFeeAmount := legs.2.1
      merchantPayoutAmount := legs.2.2 }

def isBootstrapRule (rule : SettlementRule) : Bool :=
  rule = bootstrapDefaultRule

/-! Payment entry points. -/

/-- An empty signer list authorizes as the merchant, any other as the admin
multisig. -/
def assertReadAuthorized (env : Env) (merchant : Address)
    (signers : List Address) : Contract Unit :=
  if signers = [] then
    requireAuth env.toLedger merchant
  else
    verifyThresholdAuth env signers

def emitBootstrapFallback (rule : SettlementRule) : Contract Unit :=
  if isBootstrapRule rule then
    emit (.bootstrapFallback bootstrapDefaultRule)
  else
    pure ()

/-- The placeholder that blocks a reentrant store of the same reference. -/
def dummyRecord (merchant : Address) : PaymentRecord where
  merchant := merchant
  amount := .zero
  platformFeeAmount := .zero
  networkFeeAmount := .zero
  merchantPayoutAmount := .zero
  platformFeeBps := 0
  networkFeeBps := 0
  ledger := 0
  settlementDelayLedger := 0
  autoSettle := false
  version := 1

def paymentRecord (env : Env) (merchant : Address) (amount : I128)
    (rule : SettlementRule) (split : FeeSplit) : PaymentRecord where
  merchant := merchant
  amount := amount
  platformFeeAmount := split.platformFeeAmount
  networkFeeAmount := split.networkFeeAmount
  merchantPayoutAmount := split.merchantPayoutAmount
  platformFeeBps := rule.platformFeeBps
  networkFeeBps := rule.networkFeeBps
  ledger := env.sequence
  settlementDelayLedger := rule.settlementDelayLedger
  autoSettle := rule.autoSettle
  version := 1

def storePaymentReference (env : Env) (merchant : Address)
    (reference : BytesN 32) (amount : I128) : Contract FeeSplit := do
  rejectIf (reference = 0) .invalidPaymentReference
  assertNotPaused
  requireAuth env.toLedger merchant
  let registered ← isMerchantRegisteredAndBumpTtl env merchant
  rejectIf (registered = false) .merchantMissing
  let state ← readState
  rejectIf (amount.val < (state.readMinPaymentAmount env).val) .amountTooSmall
  rejectIf ((state.payment merchant reference).isSome)
    .duplicatePaymentReference
  setPayment env merchant reference (dummyRecord merchant)
  let rule ← readRuleOrDefault env merchant
  emitBootstrapFallback rule
  let split ← orRaise (calculateSplit amount rule)
  setPayment env merchant reference
    (paymentRecord env merchant amount rule split)
  extendTtl env (.payment merchant reference) paymentTtlThreshold
    paymentTtlBump
  incrementPaymentCount env merchant
  emit (.paymentStored merchant reference
    (paymentRecord env merchant amount rule split))
  pure split

def calculateFeeSplit (env : Env) (merchant : Address) (amount : I128) :
    Contract FeeSplit := do
  let registered ← isMerchantRegisteredInternal merchant
  rejectIf (registered = false) .merchantMissing
  let state ← readState
  rejectIf (amount.val < (state.readMinPaymentAmount env).val) .amountTooSmall
  let rule ← readRuleOrDefaultNoBump env merchant
  orRaise (calculateSplit amount rule)

def pruneStored (env : Env) (merchant : Address) (reference : BytesN 32) :
    Contract Unit := do
  removePayment merchant reference
  decrementPaymentCount env merchant 1
  emit (.paymentPruned merchant reference)

def prunePayment (env : Env) (signers : List Address) (merchant : Address)
    (reference : BytesN 32) : Contract Unit := do
  assertNotPaused
  verifyThresholdAuth env signers
  let state ← readState
  if (state.payment merchant reference).isSome then
    pruneStored env merchant reference
  else
    pure ()

def pruneEach (merchant : Address) :
    List (BytesN 32) → Nat → Contract Nat
  | [], removed => pure removed
  | reference :: rest, removed => do
      let state ← readState
      if (state.payment merchant reference).isSome then do
        removePayment merchant reference
        pruneEach merchant rest (removed + 1)
      else
        pruneEach merchant rest removed

def prunePayments (env : Env) (signers : List Address) (merchant : Address)
    (refs : List (BytesN 32)) : Contract UInt32 := do
  verifyThresholdAuth env signers
  rejectIf (maxPaymentsBatch.toNat < refs.length) .batchTooLarge
  let removed ← pruneEach merchant refs 0
  decrementPaymentCount env merchant (UInt32.ofNat removed)
  let admin ← unwrapFirst signers
  emit (.paymentsPruned merchant admin (UInt32.ofNat removed))
  pure (UInt32.ofNat removed)

def bumpPayment (env : Env) (merchant : Address) (reference : BytesN 32)
    (record : Option PaymentRecord) : Contract Unit :=
  if record.isSome then
    extendTtl env (.payment merchant reference) paymentTtlThreshold
      paymentTtlBump
  else
    pure ()

def getPaymentReference (env : Env) (merchant : Address)
    (reference : BytesN 32) (signers : List Address) :
    Contract (Option PaymentRecord) := do
  assertReadAuthorized env merchant signers
  assertPaymentsReadable merchant
  let state ← readState
  bumpPayment env merchant reference (state.payment merchant reference)
  pure (state.payment merchant reference)

def getEachPayment (env : Env) (merchant : Address) :
    List (BytesN 32) → Contract (List PaymentRecord)
  | [] => pure []
  | reference :: rest => do
      let state ← readState
      bumpPayment env merchant reference (state.payment merchant reference)
      let records ← getEachPayment env merchant rest
      pure ((state.payment merchant reference).toList ++ records)

def nextCursor (cursor : UInt32) (refs : List (BytesN 32)) :
    Contract (Option UInt32) :=
  if refs.length = maxPaymentsBatch.toNat then do
    let next ← orTrap (checkedAdd32 cursor maxPaymentsBatch)
    pure (some next)
  else
    pure none

def getPayments (env : Env) (merchant : Address)
    (refs : List (BytesN 32)) (cursor : UInt32) (signers : List Address) :
    Contract PaymentsPage := do
  assertReadAuthorized env merchant signers
  assertPaymentsReadable merchant
  rejectIf (maxPaymentsBatch.toNat < refs.length) .batchTooLarge
  let records ← getEachPayment env merchant refs
  let next ← nextCursor cursor refs
  pure ⟨records, next⟩

def getPaymentCount (env : Env) (merchant : Address)
    (signers : List Address) : Contract UInt32 := do
  assertReadAuthorized env merchant signers
  assertPaymentsReadable merchant
  let state ← readState
  pure (state.readPaymentCount merchant)

end BettaPay.Settlement

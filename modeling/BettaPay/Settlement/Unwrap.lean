import BettaPay.Settlement.Control

namespace BettaPay.Settlement

open BettaPay.Host
open BettaPay.Common

/-! No entry point fails to unwrap its first signer. The helpers cannot end in
such a failure at all; the entry points reach it only past an authorization
that an empty list of signers does not pass. -/

variable {env : Env} {state : State}

section Helpers

@[simp] theorem avoids_emit {event : Event} :
    Tx.Avoids .unwrapNone (emit event) state := by
  simp [emit]

@[simp] theorem avoids_extendTtl {key : PersistentKey}
    {threshold bump : UInt32} :
    Tx.Avoids .unwrapNone (extendTtl env key threshold bump) state := by
  simp [extendTtl]

@[simp] theorem avoids_readAdmins : Tx.Avoids .unwrapNone readAdmins state := by
  simp [readAdmins]

@[simp] theorem avoids_validateAdminsAndThreshold {admins : List Address}
    {threshold : UInt32} :
    Tx.Avoids .unwrapNone (validateAdminsAndThreshold admins threshold)
      state := by
  simp [validateAdminsAndThreshold]

@[simp] theorem avoids_writeAdmins {admins : List Address}
    {threshold : UInt32} :
    Tx.Avoids .unwrapNone (writeAdmins admins threshold) state := by
  simp [writeAdmins]

@[simp] theorem avoids_verifyAdminAuth {signers : List Address}
    {count : UInt32} :
    Tx.Avoids .unwrapNone (verifyAdminAuth env signers count) state := by
  simp [verifyAdminAuth]

@[simp] theorem avoids_verifyThresholdAuth {signers : List Address} :
    Tx.Avoids .unwrapNone (verifyThresholdAuth env signers) state := by
  simp [verifyThresholdAuth, readThreshold]

@[simp] theorem avoids_validateNonzeroAddress {address : Address}
    {zeroError : SettlementError} :
    Tx.Avoids .unwrapNone (validateNonzeroAddress address zeroError)
      state := by
  simp [validateNonzeroAddress]

@[simp] theorem avoids_assertNotPaused :
    Tx.Avoids .unwrapNone assertNotPaused state := by
  simp [assertNotPaused]

@[simp] theorem avoids_assertAdminAndNotPaused {signers : List Address} :
    Tx.Avoids .unwrapNone (assertAdminAndNotPaused env signers) state := by
  simp [assertAdminAndNotPaused]

@[simp] theorem avoids_isMerchantRegisteredAndBumpTtl
    {merchant : Address} :
    Tx.Avoids .unwrapNone (isMerchantRegisteredAndBumpTtl env merchant)
      state := by
  simp [isMerchantRegisteredAndBumpTtl]

@[simp] theorem avoids_assertPaymentsReadable {merchant : Address} :
    Tx.Avoids .unwrapNone (assertPaymentsReadable merchant) state := by
  simp [assertPaymentsReadable, isMerchantRegisteredInternal]

@[simp] theorem avoids_decrementPaymentCount {merchant : Address}
    {count : UInt32} :
    Tx.Avoids .unwrapNone (decrementPaymentCount env merchant count)
      state := by
  simp [decrementPaymentCount, setPaymentCount]

@[simp] theorem avoids_decrementPendingOperationCount {count : UInt32} :
    Tx.Avoids .unwrapNone (decrementPendingOperationCount count) state := by
  simp [decrementPendingOperationCount]

@[simp] theorem avoids_invokeGovernanceGetFeeConfig
    {governance : Address} :
    Tx.Avoids .unwrapNone (invokeGovernanceGetFeeConfig env governance)
      state := by
  cases answer : (env.governance governance).getFeeConfig <;>
    simp [invokeGovernanceGetFeeConfig, answer]

@[simp] theorem avoids_assertGovernanceReachable :
    Tx.Avoids .unwrapNone (assertGovernanceReachable env) state := by
  simp [assertGovernanceReachable, readGovernance]

@[simp] theorem avoids_validateFeeAgainstGovernance
    {rule : SettlementRule} :
    Tx.Avoids .unwrapNone (validateFeeAgainstGovernance env rule)
      state := by
  have ceiling : ∀ config middle,
      Tx.Avoids .unwrapNone (checkFeeCeiling rule config) middle := by
    intro config middle
    cases config <;> simp [checkFeeCeiling]
  simp [validateFeeAgainstGovernance, readGovernance,
    tryReadGovernanceFeeConfig, ceiling]

@[simp] theorem avoids_readGovernanceFeeRule :
    Tx.Avoids .unwrapNone (readGovernanceFeeRule env) state := by
  have caches : ∀ config middle,
      Tx.Avoids .unwrapNone (cacheGovernanceFeeRule config) middle := by
    intro config middle
    cases config <;> simp [cacheGovernanceFeeRule]
  simp only [readGovernanceFeeRule, Tx.avoids_bind, Tx.avoids_readState,
    Tx.readState_ok, true_and]
  intro _ _ given
  obtain ⟨rfl, rfl⟩ := given
  cases state.governance with
  | none => simp
  | some governance =>
      cases answer : (env.governance governance).getFeeConfig <;>
        simp [answer, tryReadGovernanceFeeConfig, caches]

@[simp] theorem avoids_readEffectiveFallbackRule :
    Tx.Avoids .unwrapNone (readEffectiveFallbackRule env) state := by
  simp only [readEffectiveFallbackRule, Tx.avoids_bind, Tx.avoids_readState,
    Tx.readState_ok, true_and]
  intro _ _ given
  obtain ⟨rfl, rfl⟩ := given
  cases state.defaultRule with
  | some rule => simp
  | none =>
      simp only [Tx.avoids_bind, avoids_readGovernanceFeeRule, true_and]
      intro rule _ _
      cases rule <;> simp

@[simp] theorem avoids_readFallbackRule :
    Tx.Avoids .unwrapNone (readFallbackRule env) state := by
  simp [readFallbackRule]

@[simp] theorem avoids_readEffectiveRuleNoBump {merchant : Address} :
    Tx.Avoids .unwrapNone (readEffectiveRuleNoBump env merchant) state := by
  simp only [readEffectiveRuleNoBump, Tx.avoids_bind, Tx.avoids_readState,
    Tx.readState_ok, true_and]
  intro _ _ given
  obtain ⟨rfl, rfl⟩ := given
  cases state.rule merchant <;> simp

@[simp] theorem avoids_readRuleOrDefaultNoBump {merchant : Address} :
    Tx.Avoids .unwrapNone (readRuleOrDefaultNoBump env merchant) state := by
  simp [readRuleOrDefaultNoBump]

@[simp] theorem avoids_bumpRule {merchant : Address} :
    Tx.Avoids .unwrapNone (bumpRule env merchant) state := by
  simp [bumpRule]

@[simp] theorem avoids_readRuleOrDefault {merchant : Address} :
    Tx.Avoids .unwrapNone (readRuleOrDefault env merchant) state := by
  simp [readRuleOrDefault]

@[simp] theorem avoids_rejectAdminMerchant {merchant : Address} :
    Tx.Avoids .unwrapNone (rejectAdminMerchant merchant) state := by
  simp [rejectAdminMerchant]

@[simp] theorem avoids_addMerchant {actor merchant : Address} :
    Tx.Avoids .unwrapNone (addMerchant env actor merchant) state := by
  simp [addMerchant, setMerchant]

@[simp] theorem avoids_removeMerchant {actor merchant : Address} :
    Tx.Avoids .unwrapNone (removeMerchant env actor merchant) state := by
  have clears : ∀ middle, Tx.Avoids .unwrapNone
      (clearMerchantRule env actor merchant) middle := by
    intro middle
    simp only [clearMerchantRule, Tx.avoids_bind, Tx.avoids_readState,
      Tx.readState_ok, true_and]
    intro _ _ given
    obtain ⟨rfl, rfl⟩ := given
    cases middle.rule merchant <;> simp [removeRule]
  simp [removeMerchant, setArchivedMerchant, clears]

@[simp] theorem avoids_assertMerchantRegistered {merchant : Address} :
    Tx.Avoids .unwrapNone (assertMerchantRegistered env merchant)
      state := by
  simp [assertMerchantRegistered]

@[simp] theorem avoids_storeRule {actor merchant : Address}
    {rule : SettlementRule} :
    Tx.Avoids .unwrapNone (storeRule env actor merchant rule) state := by
  have previous : ∀ middle, Tx.Avoids .unwrapNone
      (previousRule env merchant) middle := by
    intro middle
    simp only [previousRule, Tx.avoids_bind, Tx.avoids_readState,
      Tx.readState_ok, true_and]
    intro _ _ given
    obtain ⟨rfl, rfl⟩ := given
    cases middle.rule merchant <;> simp
  simp [storeRule, setRule, previous]

@[simp] theorem avoids_storeDefaultRule {actor : Address}
    {rule : SettlementRule} :
    Tx.Avoids .unwrapNone (storeDefaultRule actor rule) state := by
  simp [storeDefaultRule]

@[simp] theorem avoids_storeGovernance {actor governance : Address} :
    Tx.Avoids .unwrapNone (storeGovernance actor governance) state := by
  simp [storeGovernance]

@[simp] theorem avoids_validateRuleBounds {rule : SettlementRule} :
    Tx.Avoids .unwrapNone (validateRuleBounds rule) state := by
  simp [validateRuleBounds]

@[simp] theorem avoids_validateRuleBoundsTrapping {rule : SettlementRule} :
    Tx.Avoids .unwrapNone (validateRuleBoundsTrapping rule) state := by
  simp [validateRuleBoundsTrapping]

@[simp] theorem avoids_swapWasm {actor : Address} {wasmHash : BytesN 32} :
    Tx.Avoids .unwrapNone (swapWasm actor wasmHash) state := by
  simp [swapWasm]

@[simp] theorem avoids_removePendingRecovery {canceller : Address} :
    Tx.Avoids .unwrapNone (removePendingRecovery canceller) state := by
  simp [removePendingRecovery]

@[simp] theorem avoids_rejectMerchantAdmins {admins : List Address} :
    Tx.Avoids .unwrapNone (rejectMerchantAdmins admins) state := by
  induction admins generalizing state with
  | nil => simp [rejectMerchantAdmins]
  | cons admin rest induction =>
      simp [rejectMerchantAdmins, isMerchantRegisteredInternal, induction]

@[simp] theorem avoids_runMigrations :
    Tx.Avoids .unwrapNone runMigrations state := by
  have rounds : ∀ remaining version middle, Tx.Avoids .unwrapNone
      (migrateRounds migrateStep setSchemaVersion remaining version)
      middle := fun _ _ _ =>
    avoids_migrateRounds (by simp [migrateStep]) (by simp [setSchemaVersion])
  simp [runMigrations, readSchemaVersion, rounds]

@[simp] theorem avoids_validateOperationBounds {operation : Operation} :
    Tx.Avoids .unwrapNone (validateOperationBounds operation) state := by
  cases operation <;> simp [validateOperationBounds]

@[simp] theorem avoids_rejectOccupied {operationXdr : Bytes}
    {occupant : Option ScheduledOp} :
    Tx.Avoids .unwrapNone (rejectOccupied operationXdr occupant) state := by
  cases occupant <;> simp [rejectOccupied]

@[simp] theorem avoids_consumeScheduledOperation {opHash : BytesN 32} :
    Tx.Avoids .unwrapNone (consumeScheduledOperation opHash) state := by
  simp [consumeScheduledOperation]

@[simp] theorem avoids_findScheduled {codec : Codec}
    {operation : Operation} :
    Tx.Avoids .unwrapNone (findScheduled codec operation) state := by
  simp [findScheduled]

@[simp] theorem avoids_validateScheduledExecution {codec : Codec}
    {operation : Operation} :
    Tx.Avoids .unwrapNone (validateScheduledExecution codec env operation)
      state := by
  simp [validateScheduledExecution]

@[simp] theorem avoids_cancelEach {codec : Codec}
    {operations : List Operation} {count : Nat} :
    Tx.Avoids .unwrapNone (cancelEach codec operations count) state := by
  induction operations generalizing state count with
  | nil => simp [cancelEach]
  | cons operation rest induction => simp [cancelEach, induction]

@[simp] theorem avoids_pruneEach {merchant : Address}
    {refs : List (BytesN 32)} {count : Nat} :
    Tx.Avoids .unwrapNone (pruneEach merchant refs count) state := by
  induction refs generalizing state count with
  | nil => simp [pruneEach]
  | cons reference rest induction =>
      simp [pruneEach, removePayment, induction]

@[simp] theorem avoids_assertReadAuthorized {merchant : Address}
    {signers : List Address} :
    Tx.Avoids .unwrapNone (assertReadAuthorized env merchant signers)
      state := by
  simp [assertReadAuthorized]

@[simp] theorem avoids_bumpPayment {merchant : Address}
    {reference : BytesN 32} {record : Option PaymentRecord} :
    Tx.Avoids .unwrapNone (bumpPayment env merchant reference record)
      state := by
  simp [bumpPayment]

@[simp] theorem avoids_getEachPayment {merchant : Address}
    {refs : List (BytesN 32)} :
    Tx.Avoids .unwrapNone (getEachPayment env merchant refs) state := by
  induction refs generalizing state with
  | nil => simp [getEachPayment]
  | cons reference rest induction => simp [getEachPayment, induction]

@[simp] theorem avoids_dispatch {executor : Address}
    {operation : Operation} :
    Tx.Avoids .unwrapNone (dispatch env executor operation) state := by
  cases operation <;> simp [dispatch, Timelocked.updateGovernance,
    validateGovernance, Timelocked.cancelRecovery, Timelocked.transferAdmin,
    Timelocked.upgrade, Timelocked.registerMerchant,
    Timelocked.unregisterMerchant, Timelocked.setSettlementRule,
    Timelocked.clearSettlementRule, removeRule, Timelocked.setDefaultRule]

end Helpers

/-- No call ends in a failed `unwrap`, whatever its signers. -/
theorem invoke_avoids {codec : Codec} (sound : state.authority.Sound)
    (call : Call) :
    Tx.Avoids .unwrapNone (invoke codec env call) state := by
  have signed : ∀ {signers : List Address},
      state.authority.Quorum env.toLedger signers → signers ≠ [] :=
    sound.signers_ne_nil
  cases call
  case cancelRecovery signers =>
    simp only [invoke, avoids_replying, cancelRecovery, readPendingRecovery,
      Tx.avoids_bind, Tx.avoids_readState, avoids_orReject, Tx.readState_bind,
      orReject_ok, avoids_removePendingRecovery, true_and, implies_true,
      avoids_unwrapFirst, and_true]
    intro pending _ given
    obtain ⟨stored, rfl⟩ := given
    refine ⟨by simp [authorizeCancellation], ?_⟩
    intro _ _ authorized
    obtain ⟨⟨rfl, _⟩ | quorum, _⟩ := authorizeCancellation_ok authorized
    · simp
    · exact signed quorum
  case changeThreshold signers newThreshold =>
    simp only [invoke, avoids_replying, changeThreshold, Tx.avoids_bind,
      avoids_readAdmins, avoids_rejectIf, readThreshold, Tx.avoids_readState,
      avoids_orReject, avoids_orTrap, avoids_verifyAdminAuth,
      Tx.avoids_writeState, avoids_unwrapFirst, avoids_emit, true_and,
      implies_true, and_true, orTrap_ok, checkedAdd32_eq_some,
      verifyAdminAuth_ok]
    rintro _ _ - _ _ - current _ - _ _ - required _ ⟨larger, rfl⟩ _ _
      ⟨⟨_, _, enough, _⟩, rfl⟩ _ _ - rfl
    rw [List.length_nil, larger] at enough
    exact absurd enough (Nat.not_succ_le_zero _)
  all_goals
    simp +contextual [invoke, init, validateGovernance, updateGovernance,
      initiateRecovery, readRecoveryAddress, updateRecoveryAddress,
      executeRecovery, readPendingRecovery, readOptionalAdmins,
      transferAdmin, readThreshold, upgrade, pause, unpause, migrate,
      schedule, setScheduledOperation, incrementPendingOperationCount,
      execute, cancel, cancelAll, registerMerchant, unregisterMerchant,
      setSettlementRule, clearSettlementRule, removeRule, setDefaultRule,
      storePaymentReference, setPayment, emitBootstrapFallback,
      incrementPaymentCount, setPaymentCount, prunePayment, pruneStored,
      removePayment, prunePayments, getPaymentReference, getPayments,
      nextCursor, getPaymentCount, calculateFeeSplit,
      isMerchantRegisteredInternal, dryRun, supportsInterface, version,
      getCapabilities, isInitialized, getAdmin, getThreshold, getGovernance,
      readGovernance, getRecoveryAddress, getIsPaused,
      getPendingOperationCount, isMerchantRegistered, getDefaultRule,
      getSettlementRule, getSettlementRuleNoBump, getEffectiveRule,
      getRuleProvenance, signed]

end BettaPay.Settlement

import BettaPay.Settlement.Effect

namespace BettaPay.Settlement

open BettaPay.Host
open BettaPay.Host.Tx (readState writeState)
open BettaPay.Common

variable {codec : Codec} {env : Env} {before after : State} {result : Unit}

/-! Administration. -/

theorem init_effect {deployer governance recoveryAddress : Address}
    {admins : List Address} {threshold : UInt32}
    (succeeded : init env deployer admins threshold governance
      recoveryAddress before = .ok (result, after)) :
    Effect codec env before
      (.init deployer admins threshold governance recoveryAddress) after := by
  simp only [init, Tx.readState_bind, Tx.bind_ok, rejectIf_ok,
    requireAuth_ok, validateAdminsAndThreshold_ok, Tx.writeState_ok,
    validateGovernance_ok, validateNonzeroAddress_ok, requireAllAuth_ok,
    writeAdmins_ok, and_assoc, exists_and_left, exists_eq_left',
    exists_const] at succeeded
  obtain ⟨uninitialized, deployed, _, valid, governed, recoverable,
    consented, _, rfl⟩ := succeeded
  exact .init (by simpa using uninitialized) deployed consented valid
    governed recoverable

theorem initiateRecovery_effect {newAdmin : Address}
    (succeeded : initiateRecovery env newAdmin before =
      .ok (result, after)) :
    Effect codec env before (.initiateRecovery newAdmin) after := by
  simp only [initiateRecovery, Tx.readState_bind, Tx.bind_ok,
    readRecoveryAddress_ok, requireAuth_ok, validateNonzeroAddress_ok,
    rejectIf_ok, orTrap_ok, checkedAdd64_eq_some, Tx.writeState_ok, emit_ok]
    at succeeded
  obtain ⟨recovery, _, ⟨stored, rfl⟩, _, _, ⟨authorized, rfl⟩, _, _,
    ⟨nonzero, rfl⟩, _, _, ⟨absent, rfl⟩, executeAfter, _, ⟨deadline, rfl⟩,
    _, _, rfl, rfl⟩ := succeeded
  exact .initiateRecovery stored authorized nonzero (by simpa using absent)
    deadline

theorem authorizeCancellation_ok {pending : PendingRecovery}
    {signers : List Address}
    (succeeded : authorizeCancellation env pending signers before =
      .ok (result, after)) :
    (signers = [pending.initiatedBy] ∧
        env.auths pending.initiatedBy = true ∨
      before.authority.Quorum env.toLedger signers) ∧ before = after := by
  simp only [authorizeCancellation, Tx.ite_ok, requireAuth_ok,
    verifyThresholdAuth_ok] at succeeded
  obtain ⟨alone, authorized, same⟩ | ⟨_, quorum, same⟩ := succeeded
  · exact ⟨.inl ⟨alone, authorized⟩, same⟩
  · exact ⟨.inr quorum, same⟩

theorem cancelRecovery_effect {signers : List Address}
    (succeeded : cancelRecovery env signers before = .ok (result, after)) :
    Effect codec env before (.cancelRecovery signers) after := by
  simp only [cancelRecovery, Tx.bind_ok, readPendingRecovery_ok,
    unwrapFirst_ok] at succeeded
  obtain ⟨pending, _, ⟨stored, rfl⟩, _, _, checked, canceller, _, ⟨_, rfl⟩,
    removed⟩ := succeeded
  obtain ⟨authorized, rfl⟩ := authorizeCancellation_ok checked
  rw [removePendingRecovery_ok removed]
  exact .cancelRecovery stored authorized

theorem updateRecoveryAddress_effect {signers : List Address}
    {newRecovery : Address}
    (succeeded : updateRecoveryAddress env signers newRecovery before =
      .ok (result, after)) :
    Effect codec env before (.updateRecoveryAddress signers newRecovery)
      after := by
  simp only [updateRecoveryAddress, Tx.bind_ok, verifyThresholdAuth_ok,
    unwrapFirst_ok, validateNonzeroAddress_ok, Tx.writeState_ok, emit_ok]
    at succeeded
  obtain ⟨_, _, ⟨quorum, rfl⟩, admin, _, ⟨_, rfl⟩, _, _, ⟨nonzero, rfl⟩, _,
    _, rfl, rfl⟩ := succeeded
  exact .updateRecoveryAddress quorum nonzero

theorem executeRecovery_effect
    (succeeded : executeRecovery env before = .ok (result, after)) :
    Effect codec env before .executeRecovery after := by
  simp only [executeRecovery, Tx.bind_ok, readPendingRecovery_ok,
    rejectIf_ok, readOptionalAdmins_ok, writeAdmins_ok, Tx.writeState_ok,
    emit_ok] at succeeded
  obtain ⟨pending, _, ⟨stored, rfl⟩, _, _, ⟨matured, rfl⟩, _, _, ⟨rfl, rfl⟩,
    _, _, ⟨valid, rfl⟩, _, _, rfl, rfl⟩ := succeeded
  exact .executeRecovery stored (UInt64.not_lt.mp matured) valid

theorem changeThreshold_effect {signers : List Address}
    {newThreshold : UInt32}
    (succeeded : changeThreshold env signers newThreshold before =
      .ok (result, after)) :
    Effect codec env before (.changeThreshold signers newThreshold)
      after := by
  simp only [changeThreshold, Tx.bind_ok, readAdmins_ok, rejectIf_ok,
    readThreshold_ok, orTrap_ok, checkedAdd32_eq_some, verifyAdminAuth_ok,
    Tx.writeState_ok, unwrapFirst_ok, emit_ok, not_or, Nat.not_lt,
    ← UInt32.toNat_inj] at succeeded
  obtain ⟨admins, _, ⟨stored, rfl⟩, _, _, ⟨⟨positive, attainable⟩, rfl⟩,
    current, _, ⟨threshold, rfl⟩, _, _, ⟨_, rfl⟩, required, _, ⟨larger, rfl⟩,
    _, _, ⟨authorized, rfl⟩, _, _, rfl, caller, _, ⟨_, rfl⟩, rfl⟩ :=
    succeeded
  exact .changeThreshold stored threshold (Nat.pos_of_ne_zero positive)
    attainable larger authorized

theorem pause_effect {signers : List Address} {reason : UInt32}
    (succeeded : pause env signers reason before = .ok (result, after)) :
    Effect codec env before (.pause signers reason) after := by
  simp only [pause, Tx.readState_bind, Tx.bind_ok, verifyThresholdAuth_ok,
    rejectIf_ok, unwrapFirst_ok, Tx.writeState_ok, emit_ok] at succeeded
  obtain ⟨_, _, ⟨quorum, rfl⟩, _, _, ⟨unpaused, rfl⟩, _, _, ⟨_, rfl⟩, admin,
    _, ⟨_, rfl⟩, _, _, rfl, rfl⟩ := succeeded
  exact .pause quorum (by simpa using unpaused)

theorem unpause_effect {signers : List Address}
    (succeeded : unpause env signers before = .ok (result, after)) :
    Effect codec env before (.unpause signers) after := by
  simp only [unpause, Tx.readState_bind, Tx.bind_ok, verifyThresholdAuth_ok,
    rejectIf_ok, unwrapFirst_ok, Tx.writeState_ok, emit_ok] at succeeded
  obtain ⟨_, _, ⟨quorum, rfl⟩, _, _, ⟨paused, rfl⟩, admin, _, ⟨_, rfl⟩, _, _,
    rfl, rfl⟩ := succeeded
  exact .unpause quorum (by simpa using paused)

theorem migrateRounds_ok {remaining : Nat} {version : UInt32}
    (succeeded : migrateRounds migrateStep setSchemaVersion remaining
      version before = .ok (result, after)) :
    ∃ marker, after = { before with schemaVersion := marker } := by
  induction remaining generalizing version before with
  | zero =>
      simp only [migrateRounds, Tx.pure_ok] at succeeded
      exact ⟨_, succeeded.2.symm⟩
  | succ remaining induction =>
      simp only [migrateRounds, migrateStep, setSchemaVersion, Tx.bind_ok,
        Tx.pure_ok, Tx.writeState_ok] at succeeded
      obtain ⟨_, _, ⟨_, rfl⟩, _, _, rfl, later⟩ := succeeded
      obtain ⟨marker, rfl⟩ := induction later
      exact ⟨marker, rfl⟩

theorem migrate_effect {signers : List Address}
    (succeeded : migrate env signers before = .ok (result, after)) :
    Effect codec env before (.migrate signers) after := by
  simp only [migrate, runMigrations, readSchemaVersion, Tx.readState_bind,
    Tx.bind_ok, verifyThresholdAuth_ok, assertNotPaused_ok, unwrapFirst_ok,
    Tx.pure_ok, emit_ok] at succeeded
  obtain ⟨_, _, ⟨quorum, rfl⟩, _, _, ⟨unpaused, rfl⟩, admin, _, ⟨_, rfl⟩, _,
    _, ⟨_, _, ⟨_, rfl⟩, migrated⟩, rfl⟩ := succeeded
  obtain ⟨marker, rfl⟩ := migrateRounds_ok migrated
  exact .migrate quorum unpaused

/-! The timelock queue. -/

theorem validateOperationBounds_ok {operation : Operation}
    (succeeded : validateOperationBounds operation before =
      .ok (result, after)) :
    operation.WithinBounds ∧ before = after := by
  cases operation with
  | transferAdmin newAdmins threshold =>
      simp only [validateOperationBounds, rejectIf_ok, not_or, Nat.not_lt,
        ← UInt32.toNat_inj] at succeeded
      obtain ⟨⟨positive, attainable⟩, same⟩ := succeeded
      exact ⟨⟨Nat.pos_of_ne_zero positive, attainable⟩, same⟩
  | setSettlementRule merchant rule =>
      simp only [validateOperationBounds, rejectIf_ok, UInt32.not_lt]
        at succeeded
      exact succeeded
  | _ => exact ⟨trivial, (Tx.pure_ok.mp succeeded).2⟩

theorem rejectOccupied_ok {operationXdr : Bytes}
    {occupant : Option ScheduledOp}
    (succeeded : rejectOccupied operationXdr occupant before =
      .ok (result, after)) :
    occupant = none ∧ before = after := by
  cases occupant with
  | some existing => simp [rejectOccupied] at succeeded
  | none => exact ⟨rfl, (Tx.pure_ok.mp succeeded).2⟩

theorem schedule_ok {signers : List Address} {operation : Operation}
    {executeIn : UInt64}
    (succeeded : schedule codec env signers operation executeIn before =
      .ok (result, after)) :
    (before.authority.Quorum env.toLedger signers ∧
        before.isPaused = false ∧ minTimelockDelaySeconds ≤ executeIn ∧
        executeIn ≤ maxTimelockDelaySeconds ∧ operation.WithinBounds ∧
        (codec.toXdr operation).length ≤
          maxScheduledOperationPayloadLen.toNat ∧
        before.scheduledOperation (codec.hash operation) = none) ∧
      ∃ caller executeAt,
        executeAt.toNat = env.timestamp.toNat + executeIn.toNat ∧
        after = State.soft
          { before with
            scheduledOperation :=
              Function.update before.scheduledOperation
                (codec.hash operation)
                (some ⟨codec.toXdr operation, executeAt⟩)
            pendingOperationCount :=
              some (saturatingAdd32 before.readPendingOperationCount 1) }
          before.cachedGovRule
          (Function.update
            (Function.update before.liveUntil
              (.scheduledOperation (codec.hash operation))
              (env.sequence.toNat + env.freshTtl.toNat))
            (.scheduledOperation (codec.hash operation))
            (env.extendTtl scheduledOpTtlThreshold scheduledOpTtlBump
              (env.sequence.toNat + env.freshTtl.toNat)))
          [.opScheduled (codec.hash operation) caller executeAt] := by
  simp only [schedule, setScheduledOperation, Tx.readState_bind, Tx.bind_ok,
    assertAdminAndNotPaused_ok, unwrapFirst_ok, rejectIf_ok, orReject_ok,
    checkedAdd64_eq_some, Tx.writeState_ok, extendTtl_ok,
    incrementPendingOperationCount_ok, emit_ok, Nat.not_lt, UInt64.not_lt,
    and_assoc, exists_and_left, exists_eq_left', exists_const] at succeeded
  obtain ⟨unpaused, quorum, caller, _, _, longEnough, shortEnough, _, _,
    checked, small, _, _, answered, _, _, vacant, executeAt, deadline,
    rfl⟩ := succeeded
  obtain ⟨bounded, rfl⟩ := validateOperationBounds_ok checked
  obtain rfl := assertGovernanceReachable_ok answered
  obtain ⟨free, rfl⟩ := rejectOccupied_ok vacant
  refine ⟨⟨quorum, unpaused, longEnough, shortEnough, bounded, small, free⟩,
    caller, executeAt, deadline, ?_⟩
  simp only [State.soft, started, free, Option.isSome_none,
    Bool.false_eq_true, if_false, Function.update_self, Codec.hash,
    List.append_nil]
  rfl

theorem schedule_effect {signers : List Address} {operation : Operation}
    {executeIn : UInt64}
    (succeeded : schedule codec env signers operation executeIn before =
      .ok (result, after)) :
    Effect codec env before (.schedule signers operation executeIn)
      after := by
  obtain ⟨⟨quorum, unpaused, longEnough, shortEnough, bounded, small, free⟩,
    caller, executeAt, deadline, rfl⟩ := schedule_ok succeeded
  exact .schedule quorum unpaused longEnough shortEnough bounded small free
    deadline

theorem execute_effect {executor : Address} {operation : Operation}
    (succeeded : execute codec env executor operation before =
      .ok (result, after)) :
    Effect codec env before (.execute executor operation) after := by
  simp only [execute, Tx.bind_ok, consumeScheduledOperation_ok, emit_ok]
    at succeeded
  obtain ⟨opHash, _, validated, _, _, rfl, _, middle, dispatched, rfl⟩ :=
    succeeded
  obtain ⟨slot, queued, unpaused, matured, unvetoed, rfl, rfl⟩ :=
    validateScheduledExecution_ok validated
  exact .execute queued unpaused matured unvetoed
    (dispatch_applied dispatched)

theorem cancel_effect {signers : List Address} {operation : Operation}
    (succeeded : cancel codec env signers operation before =
      .ok (result, after)) :
    Effect codec env before (.cancel signers operation) after := by
  simp only [cancel, Tx.bind_ok, verifyThresholdAuth_ok, assertNotPaused_ok,
    unwrapFirst_ok, consumeScheduledOperation_ok, emit_ok] at succeeded
  obtain ⟨_, _, ⟨quorum, rfl⟩, _, _, ⟨unpaused, rfl⟩, caller, _, ⟨_, rfl⟩,
    slot, _, found, _, _, rfl, rfl⟩ := succeeded
  obtain ⟨queued, rfl⟩ := findScheduled_ok found
  exact .cancel quorum unpaused queued

theorem cancelAll_effect {signers : List Address}
    {operations : List Operation} {cancelled : UInt32}
    (succeeded : cancelAll codec env signers operations before =
      .ok (cancelled, after)) :
    Effect codec env before (.cancelAll signers operations) after := by
  simp only [cancelAll, Tx.bind_ok, verifyThresholdAuth_ok,
    assertNotPaused_ok, unwrapFirst_ok, rejectIf_ok, emit_ok, Tx.pure_ok,
    Nat.not_lt] at succeeded
  obtain ⟨_, _, ⟨quorum, rfl⟩, _, _, ⟨unpaused, rfl⟩, caller, _, ⟨_, rfl⟩, _,
    _, ⟨small, rfl⟩, total, middle, looped, _, _, rfl, rfl, rfl⟩ := succeeded
  obtain ⟨count, rfl, bound, drained⟩ := cancelEach_ok looped
  rw [Nat.zero_add]
  exact .cancelAll quorum unpaused (Nat.le_trans bound small) drained

/-! Direct administration. -/

theorem administer_effect {call : Call} {signers : List Address}
    {operation : Operation} {actor : Address}
    (direct : call.administers = some (signers, operation))
    (quorum : before.authority.Quorum env.toLedger signers)
    (unpaused : before.isPaused = false ∨ operation.ignoresPause = true)
    (applied : Applied env before actor operation after) :
    Effect codec env before call after :=
  .administer direct quorum unpaused (.inl rfl)
    (State.soft_self before).symm applied

theorem updateGovernance_effect {signers : List Address}
    {newGovernance : Address}
    (succeeded : updateGovernance env signers newGovernance before =
      .ok (result, after)) :
    Effect codec env before (.updateGovernance signers newGovernance)
      after := by
  simp only [updateGovernance, Tx.bind_ok, assertAdminAndNotPaused_ok,
    validateGovernance_ok, unwrapFirst_ok] at succeeded
  obtain ⟨_, _, ⟨⟨unpaused, quorum⟩, rfl⟩, _, _, ⟨nonzero, rfl⟩, admin, _,
    ⟨_, rfl⟩, stored⟩ := succeeded
  exact administer_effect rfl quorum (.inl unpaused)
    (storeGovernance_applied nonzero stored)

theorem transferAdmin_effect {signers newAdmins : List Address}
    {newThreshold : UInt32}
    (succeeded : transferAdmin env signers newAdmins newThreshold before =
      .ok (result, after)) :
    Effect codec env before (.transferAdmin signers newAdmins newThreshold)
      after := by
  simp only [transferAdmin, Tx.bind_ok, verifyThresholdAuth_ok,
    validateAdminsAndThreshold_ok, readAdmins_ok, readThreshold_ok,
    rejectIf_ok, rejectMerchantAdmins_ok, writeAdmins_ok, emit_ok]
    at succeeded
  obtain ⟨_, _, ⟨quorum, rfl⟩, _, _, ⟨valid, rfl⟩, oldAdmins, _,
    ⟨stored, rfl⟩, oldThreshold, _, ⟨_, rfl⟩, _, _, ⟨_, rfl⟩, _, _,
    ⟨separate, rfl⟩, _, _, ⟨_, rfl⟩, rfl⟩ := succeeded
  exact @administer_effect _ _ _ _ _ _ _ zeroAddress rfl quorum (.inr rfl)
    (.transferAdmin stored valid separate)

theorem upgrade_effect {signers : List Address} {newWasmHash : BytesN 32}
    (succeeded : upgrade env signers newWasmHash before =
      .ok (result, after)) :
    Effect codec env before (.upgrade signers newWasmHash) after := by
  simp only [upgrade, Tx.bind_ok, verifyThresholdAuth_ok, unwrapFirst_ok,
    rejectIf_ok] at succeeded
  obtain ⟨_, _, ⟨quorum, rfl⟩, admin, _, ⟨_, rfl⟩, supported, _, probed, _, _,
    ⟨_, rfl⟩, swapped⟩ := succeeded
  obtain rfl := probeSupportsInterface_ok probed
  exact administer_effect rfl quorum (.inr rfl) (swapWasm_applied swapped)

theorem registerMerchant_effect {signers : List Address}
    {merchant : Address}
    (succeeded : registerMerchant env signers merchant before =
      .ok (result, after)) :
    Effect codec env before (.registerMerchant signers merchant)
      after := by
  simp only [registerMerchant, Tx.bind_ok, assertAdminAndNotPaused_ok,
    validateNonzeroAddress_ok, unwrapFirst_ok, requireAuth_ok, emit_ok]
    at succeeded
  obtain ⟨_, _, ⟨⟨unpaused, quorum⟩, rfl⟩, _, _, ⟨nonzero, rfl⟩, admin, _,
    ⟨_, rfl⟩, _, _, checked, _, _, ⟨_, rfl⟩, _, _, rfl, added⟩ := succeeded
  obtain ⟨⟨admins, stored, separate⟩, rfl⟩ := rejectAdminMerchant_ok checked
  exact .administer rfl quorum (.inl unpaused) (.inr ⟨merchant, rfl⟩) rfl
    (addMerchant_applied nonzero stored separate added)

theorem unregisterMerchant_effect {signers : List Address}
    {merchant : Address}
    (succeeded : unregisterMerchant env signers merchant before =
      .ok (result, after)) :
    Effect codec env before (.unregisterMerchant signers merchant)
      after := by
  simp only [unregisterMerchant, Tx.bind_ok, assertAdminAndNotPaused_ok,
    unwrapFirst_ok] at succeeded
  obtain ⟨_, _, ⟨⟨unpaused, quorum⟩, rfl⟩, admin, _, ⟨_, rfl⟩, removed⟩ :=
    succeeded
  exact administer_effect rfl quorum (.inl unpaused)
    (removeMerchant_applied removed)

theorem setSettlementRule_effect {signers : List Address}
    {merchant : Address} {rule : SettlementRule}
    (succeeded : setSettlementRule env signers merchant rule before =
      .ok (result, after)) :
    Effect codec env before (.setSettlementRule signers merchant rule)
      after := by
  simp only [setSettlementRule, Tx.bind_ok, assertAdminAndNotPaused_ok,
    unwrapFirst_ok, validateNonzeroAddress_ok] at succeeded
  obtain ⟨_, _, ⟨⟨unpaused, quorum⟩, rfl⟩, admin, _, ⟨_, rfl⟩, _, _,
    ⟨_, rfl⟩, _, _, looked, _, _, checked, _, _, capped, stored⟩ := succeeded
  obtain ⟨registered, live, rfl⟩ := assertMerchantRegistered_ok looked
  obtain ⟨bounded, rfl⟩ := validateRuleBounds_ok checked
  obtain rfl := validateFeeAgainstGovernance_ok capped
  exact administer_effect rfl quorum (.inl unpaused)
    (storeRule_applied registered bounded stored)

theorem clearSettlementRule_effect {signers : List Address}
    {merchant : Address}
    (succeeded : clearSettlementRule env signers merchant before =
      .ok (result, after)) :
    Effect codec env before (.clearSettlementRule signers merchant)
      after := by
  simp only [clearSettlementRule, removeRule, Tx.readState_bind, Tx.bind_ok,
    assertAdminAndNotPaused_ok, unwrapFirst_ok, orReject_ok,
    Tx.writeState_ok, emit_ok] at succeeded
  obtain ⟨_, _, ⟨⟨unpaused, quorum⟩, rfl⟩, admin, _, ⟨_, rfl⟩, removed, _,
    ⟨stored, rfl⟩, _, _, rfl, fallback, _, resolved, rfl⟩ := succeeded
  obtain ⟨cache, refreshed, rfl⟩ := readFallbackRule_ok resolved
  rw [State.soft_soft]
  exact administer_effect rfl quorum (.inl unpaused)
    (.clearSettlementRule (refreshed.congr rfl rfl) stored)

theorem setDefaultRule_effect {signers : List Address}
    {newRule : SettlementRule}
    (succeeded : setDefaultRule env signers newRule before =
      .ok (result, after)) :
    Effect codec env before (.setDefaultRule signers newRule) after := by
  simp only [setDefaultRule, Tx.bind_ok, assertAdminAndNotPaused_ok,
    unwrapFirst_ok] at succeeded
  obtain ⟨_, _, ⟨⟨unpaused, quorum⟩, rfl⟩, admin, _, ⟨_, rfl⟩, _, _, checked,
    _, _, capped, stored⟩ := succeeded
  obtain ⟨bounded, rfl⟩ := validateRuleBounds_ok checked
  obtain rfl := validateFeeAgainstGovernance_ok capped
  exact administer_effect rfl quorum (.inl unpaused)
    (storeDefaultRule_applied bounded stored)

/-! Payments. -/

theorem emitBootstrapFallback_ok {rule : SettlementRule}
    (succeeded : emitBootstrapFallback rule before = .ok (result, after)) :
    after = before.soft before.cachedGovRule before.liveUntil
      (bootstrapEvents rule) := by
  unfold emitBootstrapFallback at succeeded
  unfold bootstrapEvents
  split at succeeded
  · rename_i fallback
    rw [if_pos fallback]
    exact (emit_ok.mp succeeded).symm
  · rename_i configured
    rw [if_neg configured, State.soft_self]
    exact (Tx.pure_ok.mp succeeded).2.symm

theorem setPayment_ok {merchant : Address} {reference : BytesN 32}
    {record : PaymentRecord}
    (succeeded : setPayment env merchant reference record before =
      .ok (result, after)) :
    ∃ live, after = State.soft
      { before with
        payment := Function.update before.payment merchant
          (Function.update (before.payment merchant) reference
            (some record)) }
      before.cachedGovRule live [] := by
  obtain rfl := Tx.writeState_ok.mp succeeded
  exact ⟨_, (State.soft_self _).symm⟩

/-- The rule of a payment is resolved with a dummy record in place. -/
theorem storePaymentReference_ok {merchant : Address}
    {reference : BytesN 32} {amount : I128} {split : FeeSplit}
    (succeeded : storePaymentReference env merchant reference amount
      before = .ok (split, after)) :
    (reference ≠ 0 ∧ before.isPaused = false ∧ env.auths merchant = true ∧
        before.merchant merchant = true ∧
        (before.readMinPaymentAmount env).val ≤ amount.val ∧
        before.payment merchant reference = none) ∧
      ∃ rule middle count live live',
        readRuleOrDefault env merchant (State.soft
          { before with
            payment := Function.update before.payment merchant
              (Function.update (before.payment merchant) reference
                (some (dummyRecord merchant))) }
          before.cachedGovRule live []) = .ok (rule, middle) ∧
        calculateSplit amount rule = .ok split ∧
        count.toNat = (middle.readPaymentCount merchant).toNat + 1 ∧
        after = State.soft
          { middle with
            payment := Function.update middle.payment merchant
              (Function.update (middle.payment merchant) reference
                (some (paymentRecord env merchant amount rule split)))
            paymentCount :=
              Function.update middle.paymentCount merchant (some count) }
          middle.cachedGovRule live'
          (bootstrapEvents rule ++ [.paymentStored merchant reference
            (paymentRecord env merchant amount rule split)]) := by
  simp only [storePaymentReference, Tx.readState_bind, Tx.bind_ok,
    rejectIf_ok, assertNotPaused_ok, requireAuth_ok, orRaise_ok,
    extendTtl_ok, emit_ok, Tx.pure_ok, Int.not_lt, Bool.not_eq_false,
    and_assoc, exists_and_left, exists_eq_left', exists_const] at succeeded
  obtain ⟨nonzero, unpaused, authorized, _, _, looked, rfl, enough, absent,
    _, _, filed, rule, middle, resolved, _, _, fallback, _, priced, _, _,
    stored, _, _, counting, rfl, rfl⟩ := succeeded
  obtain ⟨registered, _, rfl⟩ := isMerchantRegisteredAndBumpTtl_ok looked
  obtain ⟨live, rfl⟩ := setPayment_ok filed
  obtain rfl := emitBootstrapFallback_ok fallback
  obtain ⟨_, rfl⟩ := setPayment_ok stored
  obtain ⟨count, live', counted, rfl⟩ := incrementPaymentCount_ok counting
  refine ⟨⟨nonzero, unpaused, authorized, registered, enough,
    by simpa using absent⟩, rule, middle, count, live, live', ?_, priced,
    counted, ?_⟩
  · simpa only [State.soft, List.append_nil] using resolved
  · simp only [State.soft, List.append_nil, List.append_assoc]

theorem storePaymentReference_effect {merchant : Address}
    {reference : BytesN 32} {amount : I128} {split : FeeSplit}
    (succeeded : storePaymentReference env merchant reference amount
      before = .ok (split, after)) :
    Effect codec env before
      (.storePaymentReference merchant reference amount) after := by
  obtain ⟨⟨nonzero, unpaused, authorized, registered, enough, absent⟩, rule,
    middle, count, live, live', resolved, priced, counted, rfl⟩ :=
    storePaymentReference_ok succeeded
  obtain ⟨⟨provenance, source⟩, cache, _, refreshed, rfl⟩ :=
    readRuleOrDefault_ok resolved
  simp only [State.soft, List.append_nil, Function.update_self,
    Function.update_idem]
  exact .storePaymentReference nonzero unpaused authorized registered enough
    absent ⟨provenance, source.congr ⟨rfl, rfl, rfl, rfl⟩⟩
    (refreshed.congr rfl rfl) priced counted

theorem prunePayment_effect {signers : List Address} {merchant : Address}
    {reference : BytesN 32}
    (succeeded : prunePayment env signers merchant reference before =
      .ok (result, after)) :
    Effect codec env before (.prunePayment signers merchant reference)
      after := by
  simp only [prunePayment, pruneStored, removePayment, Tx.readState_bind,
    Tx.bind_ok, assertNotPaused_ok, verifyThresholdAuth_ok, Tx.ite_ok,
    Tx.writeState_ok, emit_ok, Tx.pure_ok] at succeeded
  obtain ⟨_, _, ⟨unpaused, rfl⟩, _, _, ⟨quorum, rfl⟩,
    ⟨stored, _, _, rfl, _, _, counting, rfl⟩ | ⟨absent, _, rfl⟩⟩ := succeeded
  · obtain ⟨record, stored⟩ := Option.isSome_iff_exists.mp stored
    obtain ⟨counts, live, counted, rfl⟩ := decrementPaymentCount_ok counting
    obtain ⟨zero, _⟩ | rfl := counted
    · exact absurd zero (by decide)
    · rw [State.soft_soft]
      exact .prunePayment quorum unpaused stored
  · exact .pruneNothing quorum unpaused (by simpa using absent)

theorem toNat_ofNat_of_le {count : Nat} {bound : UInt32}
    (small : count ≤ bound.toNat) : (UInt32.ofNat count).toNat = count := by
  have fits := bound.toNat_lt
  rw [UInt32.toNat_ofNat']
  exact Nat.mod_eq_of_lt (by omega)

theorem prunePayments_effect {signers : List Address} {merchant : Address}
    {refs : List (BytesN 32)} {removed : UInt32}
    (succeeded : prunePayments env signers merchant refs before =
      .ok (removed, after)) :
    Effect codec env before (.prunePayments signers merchant refs)
      after := by
  simp only [prunePayments, Tx.bind_ok, verifyThresholdAuth_ok, rejectIf_ok,
    unwrapFirst_ok, emit_ok, Tx.pure_ok, Nat.not_lt] at succeeded
  obtain ⟨_, _, ⟨quorum, rfl⟩, _, _, ⟨small, rfl⟩, total, middle, looped, _,
    _, counting, admin, _, ⟨_, rfl⟩, _, _, rfl, rfl, rfl⟩ := succeeded
  obtain ⟨count, rfl, bound, pruned⟩ := pruneEach_ok looped
  rw [Nat.zero_add] at counting ⊢
  have fits := Nat.le_trans bound small
  obtain ⟨counts, live, counted, rfl⟩ := decrementPaymentCount_ok counting
  rw [State.soft_soft]
  have table := pruned.table
  have counted' : count = 0 ∧ counts = before.paymentCount ∨
      counts = Function.update before.paymentCount merchant
        (some (saturatingSub32 (before.readPaymentCount merchant)
          (UInt32.ofNat count))) := by
    rw [table] at counted
    rcases counted with ⟨zero, same⟩ | lowered
    · left
      refine ⟨?_, same⟩
      rw [← toNat_ofNat_of_le fits, zero]
      rfl
    · exact .inr lowered
  have cached : middle.cachedGovRule = before.cachedGovRule := by rw [table]
  simp only [State.soft_cachedGovRule, cached]
  exact .prunePayments quorum fits pruned counted'

/-! Queries. -/

/-- Only the cache and lifetimes moved. -/
def Undisturbed (env : Env) (before after : State) : Prop :=
  ∃ cache live, Refreshed env before cache ∧
    after = before.soft cache live []

theorem Undisturbed.refl (env : Env) (state : State) :
    Undisturbed env state state :=
  ⟨_, _, .kept, (State.soft_self state).symm⟩

/-- Lifetimes moved; the cache did not. -/
theorem Undisturbed.bumped {state after : State}
    (bumped : ∃ live, after = state.soft state.cachedGovRule live []) :
    Undisturbed env state after := by
  obtain ⟨live, rfl⟩ := bumped
  exact ⟨_, live, .kept, rfl⟩

theorem assertReadAuthorized_ok {merchant : Address}
    {signers : List Address}
    (succeeded : assertReadAuthorized env merchant signers before =
      .ok (result, after)) : before = after := by
  simp only [assertReadAuthorized, Tx.ite_ok, requireAuth_ok,
    verifyThresholdAuth_ok] at succeeded
  obtain ⟨_, _, same⟩ | ⟨_, _, same⟩ := succeeded <;> exact same

theorem bumpPayment_ok {merchant : Address} {reference : BytesN 32}
    {record : Option PaymentRecord}
    (succeeded : bumpPayment env merchant reference record before =
      .ok (result, after)) :
    ∃ live, after = before.soft before.cachedGovRule live [] := by
  simp only [bumpPayment, Tx.ite_ok, extendTtl_ok, Tx.pure_ok] at succeeded
  obtain ⟨_, rfl⟩ | ⟨_, _, rfl⟩ := succeeded
  · exact ⟨_, rfl⟩
  · exact ⟨_, (State.soft_self before).symm⟩

theorem getEachPayment_ok {merchant : Address} {refs : List (BytesN 32)}
    {records : List PaymentRecord}
    (succeeded : getEachPayment env merchant refs before =
      .ok (records, after)) :
    (∃ live, after = before.soft before.cachedGovRule live []) ∧
      records = refs.filterMap (before.payment merchant) := by
  induction refs generalizing before records with
  | nil =>
      simp only [getEachPayment, Tx.pure_ok] at succeeded
      obtain ⟨rfl, rfl⟩ := succeeded
      exact ⟨⟨_, (State.soft_self before).symm⟩, rfl⟩
  | cons reference rest induction =>
      simp only [getEachPayment, Tx.readState_bind, Tx.bind_ok, Tx.pure_ok]
        at succeeded
      obtain ⟨_, middle, bumped, others, _, read, rfl, rfl⟩ := succeeded
      obtain ⟨live, rfl⟩ := bumpPayment_ok bumped
      obtain ⟨⟨live', rfl⟩, rfl⟩ := induction read
      refine ⟨⟨live', State.soft_soft _ _ _ _ _ _ _⟩, ?_⟩
      cases stored : before.payment merchant reference <;>
        simp [stored]

theorem query_effect {call : Call} (reads : call.isQuery = true)
    (undisturbed : Undisturbed env before after) :
    Effect codec env before call after := by
  obtain ⟨cache, live, refreshed, rfl⟩ := undisturbed
  exact .query reads refreshed

theorem getPaymentReference_ok {merchant : Address}
    {reference : BytesN 32} {signers : List Address}
    {record : Option PaymentRecord}
    (succeeded : getPaymentReference env merchant reference signers
      before = .ok (record, after)) :
    Undisturbed env before after ∧
      record = before.payment merchant reference := by
  simp only [getPaymentReference, Tx.readState_bind, Tx.bind_ok,
    assertPaymentsReadable_ok, Tx.pure_ok] at succeeded
  obtain ⟨_, _, authorized, _, _, ⟨_, rfl⟩, _, _, bumped, rfl, rfl⟩ :=
    succeeded
  obtain rfl := assertReadAuthorized_ok authorized
  exact ⟨.bumped (bumpPayment_ok bumped), rfl⟩

theorem getPayments_ok {merchant : Address} {refs : List (BytesN 32)}
    {cursor : UInt32} {signers : List Address} {page : PaymentsPage}
    (succeeded : getPayments env merchant refs cursor signers before =
      .ok (page, after)) :
    Undisturbed env before after ∧
      page.records = refs.filterMap (before.payment merchant) := by
  simp only [getPayments, nextCursor, Tx.bind_ok, assertPaymentsReadable_ok,
    rejectIf_ok, Tx.ite_ok, orTrap_ok, Tx.pure_ok] at succeeded
  obtain ⟨_, _, authorized, _, _, ⟨_, rfl⟩, _, _, ⟨_, rfl⟩, _, middle, read,
    _, _, cursored, rfl, rfl⟩ := succeeded
  obtain rfl := assertReadAuthorized_ok authorized
  obtain ⟨_, _, _, ⟨_, rfl⟩, _, rfl⟩ | ⟨_, _, rfl⟩ := cursored
  · exact (getEachPayment_ok read).imp_left .bumped
  · exact (getEachPayment_ok read).imp_left .bumped

theorem getPaymentCount_ok {merchant : Address} {signers : List Address}
    {count : UInt32}
    (succeeded : getPaymentCount env merchant signers before =
      .ok (count, after)) :
    Undisturbed env before after ∧
      count = before.readPaymentCount merchant := by
  simp only [getPaymentCount, Tx.readState_bind, Tx.bind_ok,
    assertPaymentsReadable_ok, Tx.pure_ok] at succeeded
  obtain ⟨_, _, authorized, _, _, ⟨_, rfl⟩, rfl, rfl⟩ := succeeded
  obtain rfl := assertReadAuthorized_ok authorized
  exact ⟨.refl env before, rfl⟩

theorem calculateFeeSplit_ok {merchant : Address} {amount : I128}
    {split : FeeSplit}
    (succeeded : calculateFeeSplit env merchant amount before =
      .ok (split, after)) : Undisturbed env before after := by
  simp only [calculateFeeSplit, Tx.readState_bind, Tx.bind_ok,
    isMerchantRegisteredInternal_ok, rejectIf_ok, orRaise_ok] at succeeded
  obtain ⟨_, _, ⟨_, rfl⟩, _, _, ⟨_, rfl⟩, _, _, ⟨_, rfl⟩, rule, _, resolved,
    _, rfl⟩ := succeeded
  obtain ⟨_, cache, refreshed, rfl⟩ := readRuleOrDefaultNoBump_ok resolved
  exact ⟨cache, _, refreshed, rfl⟩

theorem getSettlementRule_ok {merchant : Address}
    {rule : Option SettlementRule}
    (succeeded : getSettlementRule env merchant before =
      .ok (rule, after)) : Undisturbed env before after := by
  simp only [getSettlementRule, Tx.bind_ok, Tx.readState_bind, Tx.pure_ok]
    at succeeded
  obtain ⟨_, _, bumped, _, rfl⟩ := succeeded
  exact .bumped (bumpRule_ok bumped)

/-- Every committed call has one of the listed effects. -/
theorem invoke_effect {call : Call} {reply : Reply}
    (succeeded : invoke codec env call before = .ok (reply, after)) :
    Effect codec env before call after := by
  cases call
  all_goals obtain ⟨_, ran, _⟩ := replying_ok.mp succeeded
  case init => exact init_effect ran
  case updateGovernance => exact updateGovernance_effect ran
  case initiateRecovery => exact initiateRecovery_effect ran
  case cancelRecovery => exact cancelRecovery_effect ran
  case updateRecoveryAddress => exact updateRecoveryAddress_effect ran
  case executeRecovery => exact executeRecovery_effect ran
  case transferAdmin => exact transferAdmin_effect ran
  case changeThreshold => exact changeThreshold_effect ran
  case upgrade => exact upgrade_effect ran
  case pause => exact pause_effect ran
  case unpause => exact unpause_effect ran
  case migrate => exact migrate_effect ran
  case schedule => exact schedule_effect ran
  case execute => exact execute_effect ran
  case cancel => exact cancel_effect ran
  case cancelAll => exact cancelAll_effect ran
  case registerMerchant => exact registerMerchant_effect ran
  case unregisterMerchant => exact unregisterMerchant_effect ran
  case setSettlementRule => exact setSettlementRule_effect ran
  case clearSettlementRule => exact clearSettlementRule_effect ran
  case setDefaultRule => exact setDefaultRule_effect ran
  case storePaymentReference => exact storePaymentReference_effect ran
  case prunePayment => exact prunePayment_effect ran
  case prunePayments => exact prunePayments_effect ran
  case getPaymentReference =>
    exact query_effect rfl (getPaymentReference_ok ran).1
  case getPayments => exact query_effect rfl (getPayments_ok ran).1
  case getPaymentCount => exact query_effect rfl (getPaymentCount_ok ran).1
  case calculateFeeSplit => exact query_effect rfl (calculateFeeSplit_ok ran)
  case getSettlementRule => exact query_effect rfl (getSettlementRule_ok ran)
  case dryRun operation =>
    simp only [dryRun, Tx.bind_ok, Tx.pure_ok] at ran
    obtain ⟨_, _, validated, _, rfl⟩ := ran
    obtain ⟨_, _, _, _, _, _, rfl⟩ := validateScheduledExecution_ok validated
    exact query_effect rfl (.refl env _)
  case getEffectiveRule merchant =>
    obtain ⟨_, cache, refreshed, rfl⟩ := readRuleOrDefaultNoBump_ok ran
    exact .query rfl refreshed
  case getRuleProvenance merchant =>
    obtain ⟨_, cache, refreshed, rfl⟩ := readEffectiveRuleNoBump_ok ran
    exact .query rfl refreshed
  case isMerchantRegistered merchant =>
    simp only [isMerchantRegistered, Tx.readState_bind, Tx.bind_ok,
      rejectIf_ok, Tx.pure_ok] at ran
    obtain ⟨_, _, ⟨_, rfl⟩, _, rfl⟩ := ran
    exact query_effect rfl (.refl env _)
  all_goals
    simp only [supportsInterface, version, getCapabilities, isInitialized,
      getAdmin, getThreshold, getGovernance, getRecoveryAddress, getIsPaused,
      getPendingOperationCount, getDefaultRule, getSettlementRuleNoBump,
      Tx.readState_bind, readAdmins_ok, readThreshold_ok, readGovernance_ok,
      readRecoveryAddress_ok, Tx.pure_ok] at ran
    obtain ⟨_, rfl⟩ := ran
    exact query_effect rfl (.refl env _)

end BettaPay.Settlement
